import StreamPriority.Journal.Capture
import StreamPriority.Relay.Step

/-!
# Sessions

A session is a relay whose log is captured: lines pile up from operation to operation until they are looked into.
-/

namespace StreamPriority

/-- A relay and the lines captured since they were last looked into. -/
structure Session where
  relay : Relay
  captured : List Line := []
deriving DecidableEq

namespace Session

/-- A session of a relay that checks fields, limits nothing and refuses nothing. -/
def start (role : Role) : Session :=
  { relay := .new { role } none false }

/-- Answers one operation and captures its lines. -/
def step (s : Session) (op : Op) : Session × Outcome :=
  let out := s.relay.step op
  (⟨out.after, s.captured ++ Note.lines out.notes⟩, out)

/-- Forgets what was captured. -/
def clear (s : Session) : Session :=
  { s with captured := [] }

/-- Whether some captured line of a level holds a needle; all are forgotten. -/
def drainHolds (s : Session) (level : Level) (needle : String) : Session × Bool :=
  (s.clear, Line.anyHolds s.captured level needle)

/-- A stream moved away from the root. -/
def move (s : Session) (n : Node) : Session × Outcome :=
  s.step (.signal (.moved n .root))

/-- A stream had the weight of a stream that was given none, and has another. -/
def reweight (s : Session) (n : Node) : Session × Outcome :=
  s.step (.signal (.reweighted n .default))

/-- A PRIORITY frame was read that puts its stream where a new stream is. -/
def readFrame (s : Session) (stream : StreamId) : Session × Outcome :=
  s.step (.signal (.frame { stream }))

end Session

end StreamPriority
