import StreamPriority.Tree

/-!
# Priority signals

What is heard about priority: that a stream was moved in the tree, that its weight changed, or that the peer sent a
PRIORITY frame.
-/

namespace StreamPriority

/-- What a PRIORITY frame says. -/
structure PriorityFrame where
  stream : StreamId
  dependency : StreamId := .connection
  weight : Weight := .default
  exclusive : Bool := false
deriving DecidableEq

/-- Something heard about priority. -/
inductive Signal where
  /-- A stream was moved; the node shows it at its new place. -/
  | moved (node : Node) (old : Parent)
  /-- A stream has another weight; the node shows it. -/
  | reweighted (node : Node) (old : Weight)
  /-- A PRIORITY frame was read. -/
  | frame (f : PriorityFrame)
deriving DecidableEq

namespace Signal

/-- The stream a signal is about. -/
def stream : Signal → StreamId
  | moved n _ => n.id
  | reweighted n _ => n.id
  | frame f => f.stream

/-- A record as it stands in a log: a name, and named parts between braces. -/
def recordText (name : String) (parts : List (String × String)) : String :=
  name ++ " \x7b " ++ ", ".intercalate (parts.map fun p => p.1 ++ ": " ++ p.2) ++ " \x7d"

/-- A stream as a part of a record. -/
def streamText (s : StreamId) : String :=
  "StreamId(" ++ s.text ++ ")"

/-- A weight as a part of a record. -/
def weightText (w : Weight) : String :=
  "Weight(" ++ w.text ++ ")"

/-- A place in the tree as a part of a record. -/
def parentText : Parent → String
  | .none => "None"
  | .root => "ConnectionRoot"
  | .stream s => "Stream(" ++ streamText s ++ ")"

/-- A truth value as a part of a record. -/
def flagText : Bool → String
  | true => "true"
  | false => "false"

/-- A signal as it stands in a log. -/
def text : Signal → String
  | moved n old => recordText "ParentChanged"
      [("stream", streamText n.id), ("old_parent", parentText old), ("new_parent", parentText n.parent)]
  | reweighted n old => recordText "WeightChanged"
      [("stream", streamText n.id), ("old_weight", weightText old), ("weight", weightText n.weight)]
  | frame f => "PriorityRead(" ++ recordText "PriorityFrame"
      [("stream", streamText f.stream), ("dependency", streamText f.dependency), ("weight", weightText f.weight),
        ("exclusive", flagText f.exclusive)] ++ ")"

end Signal

end StreamPriority
