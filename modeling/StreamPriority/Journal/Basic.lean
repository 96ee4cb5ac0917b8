import StreamPriority.Block.Basic
import StreamPriority.Config
import StreamPriority.Signal

/-!
# The journal

While it works, a relay notes down what it did, in order: what it asked of the assembler, lines for a log, and ticks of
counters. Nothing is ever decided by a note.
-/

namespace StreamPriority

/-- How much a line matters. -/
inductive Level where
  | debug
  | warn
deriving DecidableEq

/-- The name of a level, as it stands before a line. -/
def Level.text : Level → String
  | debug => "DEBUG"
  | warn => "WARN"

/-- One line for the log. -/
inductive Line where
  /-- A signal came in. -/
  | signal (s : Signal)
  /-- A stream has a record, and had none before. -/
  | recordCreated (stream : StreamId)
  /-- A stream has no record any more. -/
  | recordRemoved (stream : StreamId)
  /-- A PRIORITY frame came for a stream with a message. -/
  | frameIgnored (stream : StreamId)
  /-- A PRIORITY frame came for a stream with neither message nor record. -/
  | frameUnknown (stream : StreamId)
  /-- A message was made to carry a record. -/
  | synthesized (stream : StreamId) (role : Role)
deriving DecidableEq

namespace Line

/-- How much a line matters: only an unknown stream is the peer's fault. -/
def level : Line → Level
  | frameUnknown _ => .warn
  | _ => .debug

/-- What a line says. -/
def message : Line → String
  | signal s => "priority event: stream=" ++ s.stream.text ++ ", event=" ++ s.text
  | recordCreated s => "pending priority record created: stream=" ++ s.text
  | recordRemoved s => "pending priority record removed: stream=" ++ s.text
  | frameIgnored s => "priority frame ignored for stream with live message: stream=" ++ s.text
  | frameUnknown s => "priority frame received for unknown stream stream=" ++ s.text
  | synthesized s role => "synthesized message from priority frame stream=" ++ s.text ++ " role=" ++ role.text

/-- A line as it is written. -/
def text (l : Line) : String :=
  l.level.text ++ " " ++ l.message

end Line

/-- What is counted. -/
inductive Counter where
  /-- Fields kept for a stream without a message. -/
  | kept
  /-- Messages made to carry a record. -/
  | synthesized
  /-- PRIORITY frames for a stream with neither message nor record. -/
  | unknownStream
deriving DecidableEq

namespace Counter

/-- Every counter. -/
def all : List Counter :=
  [kept, synthesized, unknownStream]

/-- The name a counter is published under. -/
def name : Counter → String
  | kept => "h2priority_pending_imports_total"
  | synthesized => "h2priority_synthetic_messages_total"
  | unknownStream => "h2priority_unknown_stream_errors_total"

theorem mem_all (c : Counter) : c ∈ all := by
  cases c <;> decide

/-- No two counters are published under one name. -/
theorem name_inj {c d : Counter} (h : c.name = d.name) : c = d := by
  revert h
  cases c <;> cases d <;> decide

end Counter

/-- What is asked of the assembler. -/
inductive Call where
  /-- To take a block, and whether to check it. -/
  | takeBlock (stream : StreamId) (validate : Bool)
  /-- To take so many octets of content. -/
  | takeData (stream : StreamId) (length : Nat)
  /-- To make a message out of a block without keeping it, and whether to check it. -/
  | construct (stream : StreamId) (validate : Bool) (block : Block)
  /-- To hand out the message of a stream. -/
  | handOut (stream : StreamId)
  /-- To deliver a message. -/
  | deliver (stream : StreamId)
  /-- To give up what it keeps for a stream. -/
  | remove (stream : StreamId)
deriving DecidableEq

/-- One note. -/
inductive Note where
  | line (l : Line)
  | tick (c : Counter)
  | call (c : Call)
deriving DecidableEq

namespace Note

/-- The lines among some notes. -/
def lines (notes : List Note) : List Line :=
  notes.filterMap fun
    | .line l => some l
    | _ => none

/-- The calls among some notes. -/
def calls (notes : List Note) : List Call :=
  notes.filterMap fun
    | .call c => some c
    | _ => none

/-- How often some notes tick a counter. -/
def ticks (notes : List Note) (c : Counter) : Nat :=
  notes.count (.tick c)

/-- The counters that some notes tick, with how often. -/
def tally (notes : List Note) : List (Counter × Nat) :=
  (Counter.all.map fun c => (c, ticks notes c)).filter (·.2 != 0)

end Note

end StreamPriority
