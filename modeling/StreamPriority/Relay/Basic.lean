import StreamPriority.Assembly
import StreamPriority.Records

/-!
# The relay

A relay stands between what is heard of a connection and the assembler of its messages. It tells each message the priority
of its stream in two fields, and keeps that priority in a record while there is no message.

The operations here change the state; the notes that go with one are a function of the state before it.
-/

namespace StreamPriority

/-- A relay at one end of a connection. -/
structure Relay where
  config : Config
  assembly : Assembly := {}
  records : Records := .empty
deriving DecidableEq

namespace Relay

/-- A relay before anything was heard. -/
def new (config : Config) (limit : Option SizeLimit) (refusesNew : Bool) : Relay :=
  { config, assembly := { limit, refusesNew } }

/-- Whether a stream has a message under way. -/
def isLive (r : Relay) (s : StreamId) : Bool :=
  r.assembly.live.contains s

/-! ## Messages come and go -/

/-- Lays the record of a stream over its message, if there are both. -/
def announce (r : Relay) (s : StreamId) : Relay :=
  { r with assembly := r.assembly.adjust s (·.modifyActive (r.records.layOver s)) }

/-- Gives up a stream: its message and its record. -/
def remove (r : Relay) (s : StreamId) : Relay :=
  { r with assembly := r.assembly.remove s, records := r.records.drop s }

/-- What is noted when a stream is given up. -/
def removeNotes (r : Relay) (s : StreamId) : List Note :=
  .call (.remove s) :: r.records.dropNotes s

/-- Delivers a message, with the record of its stream laid over it. The stream is given up before. -/
def deliver (r : Relay) (s : StreamId) (m : Message) : Relay :=
  { r.remove s with assembly := (r.assembly.remove s).deliver s (m.modifyActive (r.records.layOver s)) }

/-- What is noted when a message is delivered. -/
def deliverNotes (r : Relay) (s : StreamId) : List Note :=
  r.removeNotes s ++ [.call (.deliver s)]

/-- Delivers the message of a stream, if there is one. -/
def complete (r : Relay) (s : StreamId) : Relay :=
  match r.assembly.live.get? s with
  | some m => { r with assembly := r.assembly.handOut s }.deliver s m
  | none => r

/-- What is noted when the message of a stream is complete. -/
def completeNotes (r : Relay) (s : StreamId) : List Note :=
  .call (.handOut s) :: if r.isLive s then r.deliverNotes s else []

/-! ## The tree changes -/

/-- Brings message and record of a stream in line with its new place. A message is told at once; without one, the stream
depended on is kept. A place below no stream strips what is there, and makes no record. -/
def moved (r : Relay) (s : StreamId) (p : Parent) : Relay :=
  match r.isLive s, p.dependency with
  | true, some d => { r with
      assembly := r.assembly.adjust s (·.modifyActive (·.overlay (.ofDependency d)))
      records := r.records.refresh s (.ofDependency d) }
  | true, none => { r with
      assembly := r.assembly.adjust s (·.modifyBoth (·.strippedAt p))
      records := r.records.strip s p }
  | false, some d => { r with records := r.records.keep s (.ofDependency d) }
  | false, none => { r with records := r.records.strip s p }

/-- What is noted when a stream has moved. -/
def movedNotes (r : Relay) (s : StreamId) (p : Parent) : List Note :=
  if r.isLive s || p.dependency.isNone then [] else r.records.keepNotes s

/-- Brings message and record of a stream in line with its new weight. A message is told at once; without one, the weight
is kept. -/
def reweighted (r : Relay) (s : StreamId) (w : Weight) : Relay :=
  if r.isLive s then
    { r with
      assembly := r.assembly.adjust s (·.modifyActive (·.overlay (.ofWeight w)))
      records := r.records.refresh s (.ofWeight w) }
  else { r with records := r.records.keep s (.ofWeight w) }

/-- What is noted when a stream has another weight. -/
def reweightedNotes (r : Relay) (s : StreamId) : List Note :=
  if r.isLive s then [] else r.records.keepNotes s

end Relay

end StreamPriority
