/-!
# Configuration

A relay stands at one of the two ends of a connection, and checks the fields it reads or lets them pass.
-/

namespace StreamPriority

/-- The end of the connection a relay stands at. -/
inductive Role where
  | server
  | client
deriving DecidableEq

/-- The name of a role, as it stands in a log. -/
def Role.text : Role → String
  | server => "Server"
  | client => "Client"

/-- What is settled before a relay starts. -/
structure Config where
  role : Role := .server
  /-- Whether a block of headers with an invalid field is refused. -/
  validate : Bool := true
deriving DecidableEq

end StreamPriority
