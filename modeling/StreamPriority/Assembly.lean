import StreamPriority.Message.OfBlock
import StreamPriority.Table

/-!
# The assembly of messages

The assembler puts messages together out of the frames of their streams, and keeps each until it is handed out, delivered
or given up. It may have a limit on the content of a message, and may refuse to make messages that no frame opened.
-/

namespace StreamPriority

/-- How many octets the content of a message may have. -/
structure SizeLimit where
  octets : Nat
  pos : 0 < octets
deriving DecidableEq

/-- The limit of so many octets: none at all is no limit. -/
def SizeLimit.ofNat? (n : Nat) : Option SizeLimit :=
  if h : 0 < n then some ⟨n, h⟩ else none

/-- What the assembler keeps, and what it did. -/
structure Assembly where
  /-- The messages under way. -/
  live : Table Message := .empty
  /-- What was delivered, in order. -/
  delivered : List (StreamId × Message) := []
  /-- The streams that were given up, in order, each as often as it was. -/
  removed : List StreamId := []
  /-- How many messages were made that no frame opened. -/
  constructed : Nat := 0
  limit : Option SizeLimit := none
  refusesNew : Bool := false
deriving DecidableEq

namespace Assembly

/-- Takes a message in for a stream as it is. -/
def hold (a : Assembly) (s : StreamId) (m : Message) : Assembly :=
  { a with live := a.live.insert s m }

/-- Changes the message of a stream, if there is one. -/
def adjust (a : Assembly) (s : StreamId) (f : Message → Message) : Assembly :=
  { a with live := a.live.adjust s f }

/-- Takes a block for a stream. It opens a message, or its fields are laid over those of the message under way. -/
def takeBlock (a : Assembly) (s : StreamId) (b : Block) (validate : Bool) : Except Rejection Assembly :=
  match a.live.get? s with
  | some m => .ok (a.hold s (m.modifyActive (·.overlay b.fields)))
  | none => (Message.ofBlock s b validate).map (a.hold s)

/-- The limit that content of a length goes beyond, if it does. -/
def exceeded? (a : Assembly) (length : Nat) : Option SizeLimit :=
  a.limit.filter (·.octets < length)

/-- Takes content for a stream: all of it or nothing. -/
def takeData (a : Assembly) (s : StreamId) (data : List UInt8) : Except Rejection Assembly :=
  match a.live.get? s with
  | none => .error (.noMessage s)
  | some m =>
    let length := m.content.length + data.length
    match a.exceeded? length with
    | some limit => .error (.oversized s length limit.octets)
    | none => .ok (a.hold s (m.append data))

/-- Makes a message that no frame opened, without keeping it. -/
def construct (a : Assembly) (s : StreamId) (b : Block) (validate : Bool) : Except Rejection (Message × Assembly) :=
  if a.refusesNew then .error (.missingPseudo s ":method")
  else (Message.ofBlock s b validate).map fun m => (m, { a with constructed := a.constructed + 1 })

/-- Lets go of the message of a stream. -/
def handOut (a : Assembly) (s : StreamId) : Assembly :=
  { a with live := a.live.erase s }

/-- Delivers a message. -/
def deliver (a : Assembly) (s : StreamId) (m : Message) : Assembly :=
  { a with delivered := a.delivered ++ [(s, m)] }

/-- Gives up what is kept for a stream. -/
def remove (a : Assembly) (s : StreamId) : Assembly :=
  { a with live := a.live.erase s, removed := a.removed ++ [s] }

theorem adjust_hold (a : Assembly) (s : StreamId) (m : Message) (f : Message → Message) :
    (a.hold s m).adjust s f = a.hold s (f m) := by
  unfold hold adjust
  rw [Table.adjust_insert]

end Assembly

end StreamPriority
