import StreamPriority.Field.Priority
import StreamPriority.Journal.Basic
import StreamPriority.Table

/-!
# Records

Priority may be heard of a stream before there is a message to tell it. What was heard is kept in the record of the stream,
until a message takes it over or the stream is given up. There is at most one record for a stream; what is heard later is
laid over what was heard before.
-/

namespace StreamPriority

/-- The records of all streams. -/
@[ext] structure Records where
  table : Table Fields
deriving DecidableEq

namespace Records

/-- No records. -/
def empty : Records := ⟨.empty⟩

/-- The record of a stream. -/
def get? (r : Records) (s : StreamId) : Option Fields :=
  r.table.get? s

/-- Whether a stream has a record. -/
def contains (r : Records) (s : StreamId) : Bool :=
  r.table.contains s

/-- The number of records. -/
def size (r : Records) : Nat :=
  r.table.size

/-- Whether there is no record at all. -/
def isEmpty (r : Records) : Bool :=
  r.table.isEmpty

/-- Keeps fields for a stream: over its record, or as its record if it has none. -/
def keep (r : Records) (s : StreamId) (fs : Fields) : Records :=
  match r.table.get? s with
  | some record => ⟨r.table.insert s (record.overlay fs)⟩
  | none => ⟨r.table.insert s fs⟩

/-- What is noted when fields are kept for a stream. -/
def keepNotes (r : Records) (s : StreamId) : List Note :=
  (if r.contains s then [] else [.line (.recordCreated s)]) ++ [.tick .kept]

/-- Lays fields over the record of a stream, if it has one. -/
def refresh (r : Records) (s : StreamId) (fs : Fields) : Records :=
  ⟨r.table.adjust s (·.overlay fs)⟩

/-- Lays the record of a stream, if it has one, over other fields. The record stays. -/
def layOver (r : Records) (s : StreamId) (target : Fields) : Fields :=
  match r.table.get? s with
  | some record => target.overlay record
  | none => target

/-- Strips the record of a stream, if it has one, of what no longer holds at its place. -/
def strip (r : Records) (s : StreamId) (p : Parent) : Records :=
  ⟨r.table.adjust s (·.strippedAt p)⟩

/-- Drops the record of a stream. -/
def drop (r : Records) (s : StreamId) : Records :=
  ⟨r.table.erase s⟩

/-- What is noted when the record of a stream is dropped. -/
def dropNotes (r : Records) (s : StreamId) : List Note :=
  if r.contains s then [.line (.recordRemoved s)] else []

/-! ## What the operations leave -/

@[simp] theorem get?_empty (s : StreamId) : empty.get? s = none :=
  rfl

theorem contains_eq_isSome (r : Records) (s : StreamId) : r.contains s = (r.get? s).isSome :=
  rfl

/-- Two stores in which every stream has the same record are equal. -/
theorem ext_get? {r q : Records} (h : ∀ s, r.get? s = q.get? s) : r = q :=
  Records.ext (Table.ext_get? h)

theorem get?_keep (r : Records) (s s' : StreamId) (fs : Fields) :
    (r.keep s fs).get? s' =
      if s = s' then some (((r.get? s).map (·.overlay fs)).getD fs) else r.get? s' := by
  unfold keep get?
  cases h : r.table.get? s <;> simp [Table.get?_insert]

theorem get?_refresh (r : Records) (s s' : StreamId) (fs : Fields) :
    (r.refresh s fs).get? s' = if s = s' then (r.get? s').map (·.overlay fs) else r.get? s' :=
  Table.get?_adjust r.table s s' _

theorem get?_drop (r : Records) (s s' : StreamId) : (r.drop s).get? s' = if s = s' then none else r.get? s' :=
  Table.get?_erase r.table s s'

theorem get?_strip (r : Records) (s s' : StreamId) (p : Parent) :
    (r.strip s p).get? s' = if s = s' then (r.get? s').map (·.strippedAt p) else r.get? s' :=
  Table.get?_adjust r.table s s' _

end Records

end StreamPriority
