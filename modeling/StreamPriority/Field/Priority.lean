import StreamPriority.Field.Lemmas
import StreamPriority.Tree

/-!
# The fields that tell priority

A message tells the place of its stream in the priority tree in two fields: one names the stream depended on, the other the
weight. A stream that depends on none has no such name to tell, and one out of the tree has no weight either.
-/

namespace StreamPriority

namespace FieldName

/-- The field that names the stream depended on. -/
def dependency : FieldName :=
  ofString "x-http2-stream-dependency-id"

/-- The field that tells the weight. -/
def weight : FieldName :=
  ofString "x-http2-stream-weight"

/-- Whether a name is one of the two that tell priority. -/
def isPriority (n : FieldName) : Bool :=
  n == dependency || n == weight

theorem dependency_ne_weight : dependency ≠ weight := by
  decide

end FieldName

namespace Fields

/-- The field of a stream that depends on another. -/
def ofDependency (s : StreamId) : Fields :=
  .single .dependency s.text

/-- The field of a stream with a weight. -/
def ofWeight (w : Weight) : Fields :=
  .single .weight w.text

/-- Drops both fields that tell priority. -/
def removePriority (fs : Fields) : Fields :=
  (fs.remove .dependency).remove .weight

/-- Drops the fields that say what no longer holds at a place: out of the tree both, below the root the dependency. -/
def strippedAt (fs : Fields) : Parent → Fields
  | .none => fs.removePriority
  | .root => fs.remove .dependency
  | .stream _ => fs

@[simp] theorem entries_removePriority (fs : Fields) :
    fs.removePriority.entries = fs.entries.filter (!·.name.isPriority) := by
  simp only [removePriority, entries_remove, List.filter_filter]
  congr 1
  funext f
  rw [FieldName.isPriority, Bool.not_or, Bool.and_comm]
  rfl

@[simp] theorem strippedAt_stream (fs : Fields) (s : StreamId) : fs.strippedAt (.stream s) = fs :=
  rfl

end Fields

end StreamPriority
