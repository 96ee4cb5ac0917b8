import Mathlib.Logic.Function.Iterate
import StreamPriority.Proofs.Overlay

/-!
# Records as buffers

Fields that are kept for a stream are to be laid over others later. In between they stand in the record of the stream, one
over another. Nobody sees that: the fields that the record is laid over are as if all that was kept had been laid over them
at once, one after another, whatever was done to the records of other streams meanwhile (`Records.buffered`).

Two facts carry this. An access to the records changes the record of one stream and no other (`Records.get?_after`), so that
what is kept for a stream may as well be kept first (`Records.run_eq_run_keepAll`). And overlays are associative, so that it
may as well be kept at once (`Records.keepAll_cons`), and laid over other fields piece by piece (`Records.layOver_keepAll`).
-/

namespace StreamPriority

namespace Records

/-- One access to the records. -/
inductive Access where
  | keep (stream : StreamId) (fs : Fields)
  | refresh (stream : StreamId) (fs : Fields)
  | strip (stream : StreamId) (p : Parent)
  | drop (stream : StreamId)
  /-- The record is laid over other fields. -/
  | layOver (stream : StreamId) (target : Fields)
deriving DecidableEq

namespace Access

/-- The stream whose record is accessed. -/
def stream : Access → StreamId
  | keep s _ => s
  | refresh s _ => s
  | strip s _ => s
  | drop s => s
  | layOver s _ => s

/-- Whether an access only adds to a record, or only reads it. -/
def keepsOrReads : Access → Bool
  | keep _ _ => true
  | layOver _ _ => true
  | _ => false

/-- The fields that an access keeps for a stream. -/
def kept? (s : StreamId) : Access → Option Fields
  | keep t fs => if t = s then some fs else none
  | _ => none

/-- What an access makes of the record of its stream. -/
def change : Access → Option Fields → Option Fields
  | keep _ fs, record => some ((record.map (·.overlay fs)).getD fs)
  | refresh _ fs, record => record.map (·.overlay fs)
  | strip _ p, record => record.map (·.strippedAt p)
  | drop _, _ => none
  | layOver _ _, record => record

end Access

/-- The records after an access. -/
def after (r : Records) : Access → Records
  | .keep s fs => r.keep s fs
  | .refresh s fs => r.refresh s fs
  | .strip s p => r.strip s p
  | .drop s => r.drop s
  | .layOver _ _ => r

/-- The records after accesses one after another. -/
def run (r : Records) (accesses : List Access) : Records :=
  accesses.foldl after r

/-- The records once several fields were kept for a stream, one after another. -/
def keepAll (r : Records) (s : StreamId) (l : List Fields) : Records :=
  l.foldl (fun q fs => q.keep s fs) r

variable {s : StreamId}

@[simp] theorem run_cons (r : Records) (a : Access) (accesses : List Access) :
    r.run (a :: accesses) = (r.after a).run accesses :=
  rfl

/-! ## One stream at a time -/

/-- An access changes the record of its stream and no other. -/
theorem get?_after (r : Records) (a : Access) (s : StreamId) :
    (r.after a).get? s = if a.stream = s then a.change (r.get? s) else r.get? s := by
  cases a with
  | keep t fs =>
    rw [after, get?_keep]
    by_cases h : t = s
    · rw [← h]
      rfl
    · rw [if_neg h]
      exact (if_neg h).symm
  | refresh t fs => exact r.get?_refresh t s fs
  | strip t p => exact r.get?_strip t s p
  | drop t => exact r.get?_drop t s
  | layOver t target => exact (ite_self _).symm

theorem get?_run_of_ne (r : Records) {accesses : List Access} (h : ∀ a ∈ accesses, a.stream ≠ s) :
    (r.run accesses).get? s = r.get? s := by
  induction accesses generalizing r with
  | nil => rfl
  | cons a accesses ih =>
    rw [run_cons, ih _ fun b hb => h b (List.mem_cons_of_mem a hb), get?_after, if_neg (h a List.mem_cons_self)]

/-- Fields may be kept for a stream before or after an access to the record of another. -/
theorem after_keep_of_ne (r : Records) {a : Access} (h : a.stream ≠ s) (fs : Fields) :
    (r.keep s fs).after a = (r.after a).keep s fs := by
  apply ext_get?
  intro t
  simp only [get?_after, get?_keep]
  by_cases ht : a.stream = t
  · have hs : s ≠ t := fun hs => h (ht.trans hs.symm)
    simp only [if_pos ht, if_neg hs]
  · simp only [if_neg ht, if_neg h]

theorem after_keepAll_of_ne (r : Records) {a : Access} (h : a.stream ≠ s) (l : List Fields) :
    (r.keepAll s l).after a = (r.after a).keepAll s l := by
  induction l generalizing r with
  | nil => rfl
  | cons fs l ih =>
    have hkeep := ih (r.keep s fs)
    rw [after_keep_of_ne r h] at hkeep
    exact hkeep

/-- Where the record of a stream is only added to and read, all that is kept for the stream may be kept first. -/
theorem run_eq_run_keepAll (r : Records) {accesses : List Access}
    (h : ∀ a ∈ accesses, a.stream = s → a.keepsOrReads = true) :
    r.run accesses = (r.keepAll s (accesses.filterMap (·.kept? s))).run (accesses.filter (·.stream != s)) := by
  induction accesses generalizing r with
  | nil => rfl
  | cons a accesses ih =>
    have hrest : ∀ b ∈ accesses, b.stream = s → b.keepsOrReads = true := fun b hb => h b (List.mem_cons_of_mem a hb)
    rw [run_cons, ih _ hrest]
    by_cases hs : a.stream = s
    · have hown : (a :: accesses).filter (·.stream != s) = accesses.filter (·.stream != s) :=
        List.filter_cons_of_neg (by simpa using hs)
      have ha := h a List.mem_cons_self hs
      rw [hown]
      cases a with
      | keep t fs =>
        obtain rfl : t = s := hs
        have hkept : (Access.keep t fs).kept? t = some fs := if_pos rfl
        rw [List.filterMap_cons_some hkept]
        rfl
      | layOver t fs => rfl
      | refresh | strip | drop => cases ha
    · have hother : (a :: accesses).filter (·.stream != s) = a :: accesses.filter (·.stream != s) :=
        List.filter_cons_of_pos (by simpa using hs)
      have hkept : a.kept? s = none := by
        cases a with
        | keep t fs => exact if_neg hs
        | refresh | strip | drop | layOver => rfl
      rw [hother, List.filterMap_cons_none hkept, run_cons, after_keepAll_of_ne r hs]

/-! ## Keeping and laying over -/

theorem layOver_of_none {r : Records} (h : r.get? s = none) (target : Fields) : r.layOver s target = target := by
  have hget : r.table.get? s = none := h
  rw [layOver, hget]

theorem layOver_of_some {r : Records} {record : Fields} (h : r.get? s = some record) (target : Fields) :
    r.layOver s target = target.overlay record := by
  have hget : r.table.get? s = some record := h
  rw [layOver, hget]

/-- What is laid over fields depends on nothing but the record. -/
theorem layOver_congr {r q : Records} (h : q.get? s = r.get? s) (target : Fields) :
    q.layOver s target = r.layOver s target := by
  cases hr : r.get? s with
  | none => rw [layOver_of_none hr, layOver_of_none (h.trans hr)]
  | some record => rw [layOver_of_some hr, layOver_of_some (h.trans hr)]

/-- Fields that are kept are laid over others after what was kept before. -/
theorem layOver_keep (r : Records) (s : StreamId) (fs target : Fields) :
    (r.keep s fs).layOver s target = (r.layOver s target).overlay fs := by
  have hkeep : (r.keep s fs).get? s = some (((r.get? s).map (·.overlay fs)).getD fs) := by rw [get?_keep, if_pos rfl]
  rw [layOver_of_some hkeep]
  cases hr : r.get? s with
  | none =>
    rw [layOver_of_none hr]
    rfl
  | some record =>
    rw [layOver_of_some hr]
    exact (target.overlay_assoc record fs).symm

theorem layOver_keepAll (r : Records) (s : StreamId) (l : List Fields) (target : Fields) :
    (r.keepAll s l).layOver s target = l.foldl Fields.overlay (r.layOver s target) := by
  induction l generalizing r with
  | nil => rfl
  | cons fs l ih =>
    have hkeep := ih (r.keep s fs)
    rw [layOver_keep] at hkeep
    exact hkeep

/-- To keep fields after others is to keep the others with them laid over. -/
theorem keep_keep (r : Records) (s : StreamId) (fs gs : Fields) :
    (r.keep s fs).keep s gs = r.keep s (fs.overlay gs) := by
  apply ext_get?
  intro t
  simp only [get?_keep]
  by_cases h : s = t
  · subst h
    simp only [if_pos]
    cases r.get? s with
    | none => rfl
    | some record => exact congrArg some (record.overlay_assoc fs gs)
  · simp only [if_neg h]

/-- To keep several fields is to keep them once, laid over each other before. -/
theorem keepAll_cons (r : Records) (s : StreamId) (fs : Fields) (l : List Fields) :
    r.keepAll s (fs :: l) = r.keep s (l.foldl Fields.overlay fs) := by
  induction l generalizing fs with
  | nil => rfl
  | cons gs l ih =>
    have hkeep : r.keepAll s (fs :: gs :: l) = ((r.keep s fs).keep s gs).keepAll s l := rfl
    rw [hkeep, keep_keep]
    exact ih (fs.overlay gs)

/-- Laying a record over fields again changes nothing. -/
theorem layOver_layOver (r : Records) (s : StreamId) (target : Fields) :
    r.layOver s (r.layOver s target) = r.layOver s target := by
  cases hr : r.get? s with
  | none => rw [layOver_of_none hr]
  | some record => rw [layOver_of_some hr, layOver_of_some hr, Fields.overlay_overlay_self]

theorem layOver_iterate (r : Records) (s : StreamId) (target : Fields) (n : Nat) :
    (r.layOver s)^[n + 1] target = r.layOver s target := by
  induction n with
  | zero => rfl
  | succ n ih => rw [Function.iterate_succ_apply', ih, layOver_layOver]

/-- Reading leaves the records as they are. -/
theorem run_layOver (r : Records) (s : StreamId) (targets : List Fields) : r.run (targets.map (.layOver s)) = r := by
  induction targets with
  | nil => rfl
  | cons target targets ih => exact ih

/-- Keeping buffers overlays and nothing else. Let fields be kept for a stream, in any accesses to the records that neither
refresh nor strip nor drop the record of that stream. Other fields, laid under its record then, are as if the one there was
before, if there was one, and all that was kept had been laid over them one after another. The records themselves are as if
everything had been kept at once. To keep the same fields again at once changes nothing, nor does laying the record over the
same fields again; and reading never changes a record. -/
theorem buffered (r : Records) (s : StreamId) (accesses : List Access)
    (h : ∀ a ∈ accesses, a.stream = s → a.keepsOrReads = true) :
    let kept := accesses.filterMap (·.kept? s)
    (r.get? s = none → ∀ target, (r.run accesses).layOver s target = kept.foldl Fields.overlay target) ∧
      (∀ record, r.get? s = some record →
        ∀ target, (r.run accesses).layOver s target = kept.foldl Fields.overlay (target.overlay record)) ∧
      (∀ fs l, kept = fs :: l →
        r.run accesses = (r.keep s (l.foldl Fields.overlay fs)).run (accesses.filter (·.stream != s))) ∧
      (∀ fs, (r.keep s fs).keep s fs = r.keep s fs) ∧
      (∀ target n, (r.layOver s)^[n + 1] target = r.layOver s target) ∧
      ∀ targets : List Fields, r.run (targets.map (.layOver s)) = r := by
  intro kept
  have hrun : r.run accesses = (r.keepAll s kept).run (accesses.filter (·.stream != s)) := r.run_eq_run_keepAll h
  have hothers : ∀ a ∈ accesses.filter (·.stream != s), a.stream ≠ s := by
    intro a ha
    exact bne_iff_ne.mp (List.mem_filter.mp ha).2
  have hover : ∀ target, (r.run accesses).layOver s target = kept.foldl Fields.overlay (r.layOver s target) := by
    intro target
    rw [hrun, layOver_congr (get?_run_of_ne _ hothers), layOver_keepAll]
  refine ⟨?_, ?_, ?_, ?_, r.layOver_iterate s, r.run_layOver s⟩
  · intro hr target
    rw [hover, layOver_of_none hr]
  · intro record hr target
    rw [hover, layOver_of_some hr]
  · intro fs l hkept
    rw [hrun, hkept, keepAll_cons]
  · intro fs
    rw [keep_keep, Fields.overlay_self]

/-- Fields with more values than one under a name are kept for a stream twice, and others in between; its record is read, and
the record of another stream is filled, refreshed, stripped and dropped. -/
def crowded : List Access :=
  let fs := Fields.ofList [("a", "1"), ("b", "2"), ("A", "3")]
  [.keep ⟨3⟩ fs, .keep ⟨5⟩ fs, .layOver ⟨3⟩ fs, .refresh ⟨5⟩ (.ofWeight .max), .keep ⟨3⟩ (.ofList [("b", "4"), ("b", "5")]),
    .strip ⟨5⟩ .none, .keep ⟨3⟩ fs, .drop ⟨5⟩]

/-- The record that was there gives way to what was kept, under the names of that; so do the fields that all is laid over. -/
theorem buffered_crowded :
    let r : Records := empty.keep ⟨3⟩ (.ofList [("c", "6"), ("b", "7"), ("c", "8")])
    let target := Fields.ofList [("b", "9"), ("d", "0"), ("c", "0")]
    let fs := Fields.ofList [("a", "1"), ("b", "2"), ("A", "3")]
    (∀ a ∈ crowded, a.stream = ⟨3⟩ → a.keepsOrReads = true) ∧
      r.get? ⟨3⟩ = some (.ofList [("c", "6"), ("b", "7"), ("c", "8")]) ∧
      (r.run crowded).layOver ⟨3⟩ target =
        .ofList [("d", "0"), ("c", "6"), ("c", "8"), ("a", "1"), ("b", "2"), ("a", "3")] ∧
      empty.get? ⟨3⟩ = none ∧
      (empty.run crowded).layOver ⟨3⟩ target = .ofList [("d", "0"), ("c", "0"), ("a", "1"), ("b", "2"), ("a", "3")] ∧
      empty.run crowded = (empty.keep ⟨3⟩ fs).run (crowded.filter (·.stream != ⟨3⟩)) := by
  intro r target fs
  have h : ∀ a ∈ crowded, a.stream = ⟨3⟩ → a.keepsOrReads = true := by decide
  have hr : r.get? ⟨3⟩ = some (.ofList [("c", "6"), ("b", "7"), ("c", "8")]) := by decide
  have hkept : crowded.filterMap (·.kept? ⟨3⟩) = [fs, .ofList [("b", "4"), ("b", "5")], fs] := by decide
  obtain ⟨-, hsome, -⟩ := buffered r ⟨3⟩ crowded h
  obtain ⟨hnone, -, hmerged, -⟩ := buffered empty ⟨3⟩ crowded h
  have hfs : [Fields.ofList [("b", "4"), ("b", "5")], fs].foldl Fields.overlay fs = fs := by decide
  refine ⟨h, hr, ?_, rfl, ?_, ?_⟩
  · rw [hsome _ hr, hkept]
    decide
  · rw [hnone rfl, hkept]
    decide
  · rw [hmerged _ _ hkept, hfs]

end Records

end StreamPriority
