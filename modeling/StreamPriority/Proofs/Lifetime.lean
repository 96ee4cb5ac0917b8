import Mathlib.Data.Set.Card
import StreamPriority.Proofs.Delivery

/-!
# How long a record lives

A record is made when a stream without a message under way is told priority, and lives until the stream is torn down. What
happens in between changes what it holds, and never whether it is there: so a run alone, seen from its operations and their
results, says which streams have a record (`Relay.Parked`).
-/

namespace StreamPriority

namespace Relay

/-- Whether an operation parks what it tells: it tells a stream without a message under way on which stream it depends, or
its weight. -/
def parks (x : Relay × Op) : Bool :=
  match x.2 with
  | .signal (.moved n _) => n.parent.dependency.isSome && !x.1.isLive n.id
  | .signal (.reweighted n _) => !x.1.isLive n.id
  | _ => false

/-- Whether an operation clears what is parked for its stream: it completes the stream, gives it up, delivers on it, or is a
PRIORITY frame that meets no message under way, whether or not a message can be made then. -/
def clears (x : Relay × Op) : Bool :=
  match x.2 with
  | .remove _ => true
  | .deliver _ _ => true
  | .signal (.frame f) => !x.1.isLive f.stream
  | _ => completes x

/-- Something was parked for a stream during a run, and not cleared since. -/
def Parked (r : Relay) (s : StreamId) (ops : List Op) : Prop :=
  ∃ before x after, r.metOn s ops = before ++ x :: after ∧ parks x = true ∧ ∀ y ∈ after, clears y = false

end Relay

/-! ## Single operations -/

namespace Strand

/-- What was read and not refused takes the record along if it was the last of its stream. -/
theorem Reads.record {k : Strand} {last : Bool} {e : Effect} (h : k.Reads last e) :
    e.after.record = if last && e.failure.isNone then none else k.record := by
  rcases h with ⟨why, rfl⟩ | ⟨m, rfl⟩
  · cases last <;> rfl
  · cases last <;> rfl

/-- What a strand is told makes a record unless there is a message that is told. -/
theorem isSome_record_told (k : Strand) (fs : Fields) :
    (k.told fs).record.isSome = (!k.live.isSome || k.record.isSome) := by
  obtain ⟨live, record⟩ := k
  cases live <;> cases record <;> rfl

/-- Stripping neither makes a record nor takes one away. -/
theorem isSome_record_stripped (k : Strand) (p : Parent) : (k.stripped p).record.isSome = k.record.isSome := by
  rw [stripped, Option.isSome_map]

theorem isSome_record_moved (k : Strand) (p : Parent) :
    (k.moved p).record.isSome = (p.dependency.isSome && !k.live.isSome || k.record.isSome) := by
  unfold moved
  cases p.dependency with
  | some d => exact k.isSome_record_told _
  | none => exact k.isSome_record_stripped p

end Strand

namespace Relay

variable {s : StreamId}

theorem contains_records (r : Relay) (s : StreamId) : r.records.contains s = (r.strand s).record.isSome :=
  rfl

/-- An operation leaves a record for its stream if it parks something, or if there was one and it does not clear it. -/
theorem contains_step_self (r : Relay) (op : Op) :
    (r.step op).after.records.contains op.stream =
      (parks (r, op) || (r.records.contains op.stream && !clears (r, op))) := by
  have hf := (r.step_shows op).failure
  rw [contains_records, contains_records, strand_step r rfl]
  cases op with
  | block s b last =>
    simp only [parks, clears, completes, hf, Op.stream, Bool.false_or]
    rw [(Strand.reads_block _ r.setup s b last).record]
    split
    · next h => rw [h, Bool.not_true, Bool.and_false, Option.isSome_none]
    · next h => rw [Bool.eq_false_iff.mpr h, Bool.not_false, Bool.and_true]
  | data s octets last =>
    simp only [parks, clears, completes, hf, Op.stream, Bool.false_or]
    rw [(Strand.reads_data _ r.setup s octets last).record]
    split
    · next h => rw [h, Bool.not_true, Bool.and_false, Option.isSome_none]
    · next h => rw [Bool.eq_false_iff.mpr h, Bool.not_false, Bool.and_true]
  | remove s => exact (Bool.and_false _).symm
  | announce s => exact (Bool.and_true _).symm
  | deliver s m => exact (Bool.and_false _).symm
  | hold s m => exact (Bool.and_true _).symm
  | signal sig =>
    cases sig with
    | moved n old =>
      simp only [parks, clears, completes, Bool.not_false, Bool.and_true]
      exact Strand.isSome_record_moved _ n.parent
    | reweighted n old =>
      simp only [parks, clears, completes, Bool.not_false, Bool.and_true]
      exact Strand.isSome_record_told _ _
    | frame f =>
      simp only [parks, clears, Strand.step, Strand.after_readFrame, isLive_eq, Op.stream, Signal.stream, Bool.false_or,
        Bool.not_not]
      split
      · next h => rw [h, Bool.and_true]
      · next h => rw [Bool.eq_false_iff.mpr h, Bool.and_false, Option.isSome_none]

theorem contains_step_of_ne (r : Relay) {op : Op} (h : op.stream ≠ s) :
    (r.step op).after.records.contains s = r.records.contains s := by
  rw [contains_records, contains_records, strand_step_of_ne r h]

/-- An operation that neither parks nor clears anything makes no record and takes none away. -/
theorem contains_step_of_idle (r : Relay) {op : Op} (hp : parks (r, op) = false) (hc : clears (r, op) = false)
    (s : StreamId) : (r.step op).after.records.contains s = r.records.contains s := by
  by_cases hs : op.stream = s
  · subst hs
    rw [contains_step_self, hp, hc, Bool.false_or, Bool.not_false, Bool.and_true]
  · exact contains_step_of_ne r hs

/-! ## Runs -/

/-- After one more operation on a stream, something is parked for it if that operation parks it, or if something was and the
operation does not clear it. -/
theorem parked_concat_self (r : Relay) (ops : List Op) {op : Op} (h : op.stream = s) :
    r.Parked s (ops ++ [op]) ↔
      parks (r.run ops, op) = true ∨ r.Parked s ops ∧ clears (r.run ops, op) = false := by
  unfold Parked
  rw [metOn_concat_self r ops h]
  constructor
  · rintro ⟨before, x, after, he, hp, hc⟩
    rcases List.eq_nil_or_concat after with rfl | ⟨after, y, rfl⟩
    · obtain ⟨-, hx⟩ := List.append_inj' he rfl
      obtain ⟨rfl, -⟩ := List.cons.inj hx
      exact Or.inl hp
    · rw [List.concat_eq_append] at he hc
      have he' : r.metOn s ops ++ [(r.run ops, op)] = (before ++ x :: after) ++ [y] := by simpa using he
      obtain ⟨hops, hy⟩ := List.append_inj' he' rfl
      obtain ⟨rfl, -⟩ := List.cons.inj hy
      refine Or.inr ⟨⟨before, x, after, hops, hp, fun z hz => ?_⟩, hc _ (by simp)⟩
      exact hc z (List.mem_append_left _ hz)
  · rintro (hp | ⟨⟨before, x, after, he, hp, hc⟩, hy⟩)
    · exact ⟨r.metOn s ops, _, [], rfl, hp, fun z hz => nomatch hz⟩
    · refine ⟨before, x, after ++ [(r.run ops, op)], by rw [he]; simp, hp, fun z hz => ?_⟩
      rcases List.mem_append.mp hz with hz | hz
      · exact hc z hz
      · rw [List.mem_singleton.mp hz]
        exact hy

theorem parked_concat_of_ne (r : Relay) (ops : List Op) {op : Op} (h : op.stream ≠ s) :
    r.Parked s (ops ++ [op]) ↔ r.Parked s ops := by
  unfold Parked
  rw [metOn_concat_of_ne r ops h]

/-- A stream that had no record has one after a run exactly if something is parked for it. -/
theorem contains_run_iff {r : Relay} (h : r.records.contains s = false) (ops : List Op) :
    (r.run ops).records.contains s = true ↔ r.Parked s ops := by
  induction ops using List.reverseRecOn with
  | nil =>
    rw [run_nil, h]
    constructor
    · exact fun hf => nomatch hf
    · rintro ⟨before, x, after, he, -⟩
      simp [metOn, met] at he
  | append_singleton ops op ih =>
    rw [run_concat]
    by_cases hs : op.stream = s
    · rw [parked_concat_self r ops hs, ← ih, ← hs, contains_step_self, Bool.or_eq_true, Bool.and_eq_true,
        Bool.not_eq_true']
    · rw [parked_concat_of_ne r ops hs, ← ih, contains_step_of_ne _ hs]

end Relay

/-- A table has as many entries as there are streams it holds something for. -/
theorem Table.size_eq_encard {α : Type} (t : Table α) : (t.size : ℕ∞) = {s | t.contains s = true}.encard := by
  have hnodup : (t.entries.map Prod.fst).Nodup := by
    rw [List.Nodup, List.pairwise_map]
    refine t.sorted.imp fun {a b} hlt he => ?_
    rw [he] at hlt
    exact StreamId.lt_irrefl _ hlt
  have hset : {s | t.contains s = true} = ((t.entries.map Prod.fst).toFinset : Set StreamId) := by
    ext s
    simp only [Set.mem_ofPred_eq, contains, Option.isSome_iff_exists, ← mem_entries_iff, List.coe_toFinset, List.mem_map,
      Prod.exists, exists_and_right, exists_eq_right]
  rw [hset, Set.encard_coe_eq_coe_finsetCard, List.toFinset_card_of_nodup hnodup, List.length_map]
  rfl

namespace Relay

/-- After every run, a stream has a record exactly if something was parked for it and not cleared since, and there are as
many records as such streams. A move to a place below no stream, a signal on a stream with a message under way, and a frame
that is refused neither make a record nor take one away. -/
theorem parked_iff (config : Config) (limit : Option SizeLimit) (refusesNew : Bool) (ops : List Op) :
    let r := new config limit refusesNew
    let q := r.run ops
    (∀ s, q.records.contains s = true ↔ r.Parked s ops) ∧
    (q.records.size : ℕ∞) = {s | r.Parked s ops}.encard ∧
    (∀ n old, n.parent.dependency = none → ∀ s,
      (q.step (.signal (.moved n old))).after.records.contains s = q.records.contains s) ∧
    (∀ sig, q.isLive sig.stream = true → ∀ s,
      (q.step (.signal sig)).after.records.contains s = q.records.contains s) ∧
    (∀ t b last, (q.step (.block t b last)).failure.isSome = true → ∀ s,
      (q.step (.block t b last)).after.records.contains s = q.records.contains s) ∧
    ∀ t octets last, (q.step (.data t octets last)).failure.isSome = true → ∀ s,
      (q.step (.data t octets last)).after.records.contains s = q.records.contains s := by
  intro r q
  have hiff : ∀ s, q.records.contains s = true ↔ r.Parked s ops := fun s => contains_run_iff rfl ops
  have hrefused : ∀ {last : Bool} {failure : Option Failure}, failure.isSome = true →
      (last && failure.isNone) = false := by
    intro last failure h
    obtain ⟨why, rfl⟩ := Option.isSome_iff_exists.mp h
    exact Bool.and_false last
  refine ⟨hiff, ?_, fun n old hn => ?_, fun sig hl => ?_, fun t b last hf => ?_, fun t octets last hf => ?_⟩
  · have hset : {s | r.Parked s ops} = {s | q.records.table.contains s = true} := Set.ext fun s => (hiff s).symm
    rw [hset]
    exact q.records.table.size_eq_encard
  · exact q.contains_step_of_idle (by simp [parks, hn]) rfl
  · cases sig with
    | moved n old => exact q.contains_step_of_idle (by simp [parks, show q.isLive n.id = true from hl]) rfl
    | reweighted n old => exact q.contains_step_of_idle (by simp [parks, show q.isLive n.id = true from hl]) rfl
    | frame f => exact q.contains_step_of_idle rfl (by simp [clears, show q.isLive f.stream = true from hl])
  · exact q.contains_step_of_idle rfl (hrefused hf)
  · exact q.contains_step_of_idle rfl (hrefused hf)

end Relay

end StreamPriority
