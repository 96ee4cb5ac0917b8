import StreamPriority.Text.Quoted
import StreamPriority.Tree

/-!
# Failures

Why a frame is not taken: either a message could not be assembled from what came in, or priority came for a stream nothing
is known of. Each failure names its stream, and has one text.
-/

namespace StreamPriority

/-- Why no message could be assembled. -/
inductive Rejection where
  /-- The content would grow to `attempted` octets, and `limit` are allowed. -/
  | oversized (stream : StreamId) (attempted limit : Nat)
  /-- Content came without a message to put it in. -/
  | noMessage (stream : StreamId)
  /-- A block lacks a pseudo-header. -/
  | missingPseudo (stream : StreamId) (name : String)
  /-- A block has a field that is not valid. -/
  | invalidField (stream : StreamId) (name : String)
deriving DecidableEq

/-- Why a frame was not taken. -/
inductive Failure where
  /-- Priority came for a stream that has neither a message nor a record. -/
  | unknownStream (stream : StreamId)
  /-- No message could be assembled. -/
  | rejected (why : Rejection)
deriving DecidableEq

/-- The text of a rejection. The name of a field is the peer's, and is quoted. -/
def Rejection.text : Rejection → String
  | oversized s attempted limit =>
    "message on stream " ++ s.text ++ " exceeds size limit: " ++ attempted.repr ++ " bytes > " ++ limit.repr ++ " bytes"
  | noMessage s => "data received for stream " ++ s.text ++ " without a message"
  | missingPseudo s name => "missing pseudo-header " ++ name ++ " on stream " ++ s.text
  | invalidField s name => "invalid header " ++ Text.quoted name ++ " on stream " ++ s.text

/-- The text of a failure. -/
def Failure.text : Failure → String
  | unknownStream s => "priority frame received for unknown stream id " ++ s.text
  | rejected why => "message assembly failed: " ++ why.text

/-- Whether the peer broke the protocol: only priority for an unknown stream does. -/
def Failure.isProtocolError : Failure → Bool
  | unknownStream _ => true
  | rejected _ => false

end StreamPriority
