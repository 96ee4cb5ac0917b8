import StreamPriority.Block.Placeholder
import StreamPriority.Relay.Basic

/-!
# What a relay does with what it hears

`Relay.step` answers one operation, `Relay.run` follows a list of them. An operation that fails leaves the relay as it was,
but for a record whose message could not be made: it is gone.
-/

namespace StreamPriority

/-- Something a relay hears, or is asked to do. -/
inductive Op where
  /-- A block of headers was read, perhaps the last thing of its stream. -/
  | block (stream : StreamId) (b : Block) (last : Bool)
  /-- Content was read, perhaps the last thing of its stream. -/
  | data (stream : StreamId) (octets : List UInt8) (last : Bool)
  /-- A stream is given up, or was reset. -/
  | remove (stream : StreamId)
  /-- A stream may have got a message. -/
  | announce (stream : StreamId)
  /-- A message is to be delivered. -/
  | deliver (stream : StreamId) (m : Message)
  /-- Something was heard about priority. -/
  | signal (s : Signal)
  /-- A message is put into the assembler past the relay. -/
  | hold (stream : StreamId) (m : Message)
deriving DecidableEq

/-- The stream an operation is about. -/
def Op.stream : Op → StreamId
  | block s _ _ => s
  | data s _ _ => s
  | remove s => s
  | announce s => s
  | deliver s _ => s
  | signal sig => sig.stream
  | hold s _ => s

/-- What an operation leaves: the relay after it, why it failed if it did, and what was noted, in order. -/
structure Outcome where
  after : Relay
  failure : Option Failure
  notes : List Note
deriving DecidableEq

namespace Relay

/-- Ends an operation that took what came in; if that was the last of its stream, the message is complete. -/
def taken (r : Relay) (s : StreamId) (last : Bool) (call : Note) : Outcome :=
  if last then ⟨r.complete s, none, call :: r.completeNotes s⟩ else ⟨r, none, [call]⟩

/-- Goes on after the assembler answered to a block. -/
def afterBlock (r : Relay) (s : StreamId) (last : Bool) (answer : Except Rejection Assembly) : Outcome :=
  let call := .call (.takeBlock s r.config.validate)
  match answer with
  | .error why => ⟨r, some (.rejected why), [call]⟩
  | .ok a => ({ r with assembly := a }.announce s).taken s last call

/-- Reads a block of headers. -/
def readBlock (r : Relay) (s : StreamId) (b : Block) (last : Bool) : Outcome :=
  r.afterBlock s last (r.assembly.takeBlock s b r.config.validate)

/-- Reads a block of headers where the assembler has it only tried out. An assembler is free in what it keeps under way: this
one makes a message of the block to see whether it can be made, and lets go of it, so that the relay finds none to tell. -/
def screenBlock (r : Relay) (s : StreamId) (b : Block) (last : Bool) : Outcome :=
  r.afterBlock s last ((Message.ofBlock s b r.config.validate).map fun _ => r.assembly)

/-- Reads content. -/
def readData (r : Relay) (s : StreamId) (octets : List UInt8) (last : Bool) : Outcome :=
  let call := .call (.takeData s octets.length)
  match r.assembly.takeData s octets with
  | .error why => ⟨r, some (.rejected why), [call]⟩
  | .ok a => { r with assembly := a }.taken s last call

/-- Delivers a message made of the placeholder block and the record of a stream, which is gone from then on. -/
def synthesize (r : Relay) (s : StreamId) (record : Fields) : Outcome :=
  let b := Block.synthetic r.config.role record
  let r₁ := { r with records := r.records.drop s }
  let notes := r.records.dropNotes s ++ [.call (.construct s r.config.validate b)]
  match r₁.assembly.construct s b r.config.validate with
  | .error why => ⟨r₁, some (.rejected why), notes⟩
  | .ok (m, a) =>
    let r₂ := { r₁ with assembly := a }
    ⟨r₂.deliver s m, none,
      notes ++ [.line (.synthesized s r.config.role), .tick .synthesized] ++ r₂.deliverNotes s⟩

/-- Reads a PRIORITY frame. A message under way hears of priority from the tree, so only a stream without one is told, in
a message made from its record. -/
def readFrame (r : Relay) (s : StreamId) : Outcome :=
  if r.isLive s then ⟨r, none, [.line (.frameIgnored s)]⟩
  else
    match r.records.get? s with
    | none => ⟨r, some (.unknownStream s), [.tick .unknownStream, .line (.frameUnknown s)]⟩
    | some record => r.synthesize s record

/-- Hears something about priority. -/
def hear (r : Relay) : Signal → Outcome
  | .moved n _ => ⟨r.moved n.id n.parent, none, r.movedNotes n.id n.parent⟩
  | .reweighted n _ => ⟨r.reweighted n.id n.weight, none, r.reweightedNotes n.id⟩
  | .frame f => r.readFrame f.stream

/-- Answers one operation. -/
def step (r : Relay) : Op → Outcome
  | .block s b last => r.readBlock s b last
  | .data s octets last => r.readData s octets last
  | .remove s => ⟨r.remove s, none, r.removeNotes s⟩
  | .announce s => ⟨r.announce s, none, []⟩
  | .deliver s m => ⟨r.deliver s m, none, r.deliverNotes s⟩
  | .signal sig =>
    let out := r.hear sig
    { out with notes := .line (.signal sig) :: out.notes }
  | .hold s m => ⟨{ r with assembly := r.assembly.hold s m }, none, []⟩

/-- Answers operations one after another, whatever their results. -/
def run (r : Relay) (ops : List Op) : Relay :=
  ops.foldl (fun r op => (r.step op).after) r

/-- What every operation leaves, one after another. -/
def trace (r : Relay) : List Op → List Outcome
  | [] => []
  | op :: ops => r.step op :: trace (r.step op).after ops

@[simp] theorem run_nil (r : Relay) : r.run [] = r :=
  rfl

@[simp] theorem run_cons (r : Relay) (op : Op) (ops : List Op) : r.run (op :: ops) = (r.step op).after.run ops :=
  rfl

theorem run_append (r : Relay) (ops ops' : List Op) : r.run (ops ++ ops') = (r.run ops).run ops' :=
  List.foldl_append

end Relay

end StreamPriority
