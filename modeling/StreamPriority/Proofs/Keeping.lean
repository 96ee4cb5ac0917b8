import StreamPriority.Proofs.Strand

/-!
# What a record is made of

A record is filled by changes of the tree and by nothing else: of the fields of blocks and of messages from elsewhere none
gets in. So what holds of all that is told (`Op.tells`), and survives overlays and stripping (`Fields.Stable`), holds of
every record at any time (`Relay.keeps_run`).
-/

namespace StreamPriority

/-- The fields that an operation tells. Only a change of the tree tells any, and a move to a place below no stream does not.
-/
def Op.tells : Op → Option Fields
  | .signal (.moved n _) => n.parent.dependency.map .ofDependency
  | .signal (.reweighted n _) => some (.ofWeight n.weight)
  | _ => none

/-- What is told is the stream that a stream was moved below, or a weight. -/
theorem Op.cases_of_tells {op : Op} {fs : Fields} (h : op.tells = some fs) :
    (∃ n old p, op = .signal (.moved n old) ∧ n.parent = .stream p ∧ fs = .ofDependency p) ∨
      ∃ n old, op = .signal (.reweighted n old) ∧ fs = .ofWeight n.weight := by
  cases op with
  | signal sig =>
    cases sig with
    | moved n old =>
      cases hp : n.parent with
      | stream p =>
        simp only [tells, hp, Parent.dependency, Option.map_some, Option.some.injEq] at h
        exact Or.inl ⟨n, old, p, rfl, hp, h.symm⟩
      | none | root =>
        simp only [tells, hp, Parent.dependency, Option.map_none, reduceCtorEq] at h
    | reweighted n old => exact Or.inr ⟨n, old, rfl, (Option.some.inj h).symm⟩
    | frame f => cases h
  | block | data | remove | announce | deliver | hold => cases h

/-- A property of fields that what is done to records does not break. -/
structure Fields.Stable (Q : Fields → Prop) : Prop where
  overlay : ∀ fs gs, Q fs → Q gs → Q (fs.overlay gs)
  strippedAt : ∀ fs p, Q fs → Q (fs.strippedAt p)

/-- The record, if there is one, has a property. -/
def Strand.Keeps (Q : Fields → Prop) (k : Strand) : Prop :=
  ∀ record, k.record = some record → Q record

variable {Q : Fields → Prop}

namespace Strand

theorem keeps_empty : Keeps Q {} :=
  fun _ h => nomatch h

variable {k : Strand}

theorem Keeps.told (h : k.Keeps Q) (hQ : Fields.Stable Q) {fs : Fields} (hfs : Q fs) : (k.told fs).Keeps Q := by
  intro record hr
  cases hk : k.record with
  | some old =>
    have hold : record = old.overlay fs := by simpa [Strand.told, hk, eq_comm] using hr
    exact hold ▸ hQ.overlay old fs (h old hk) hfs
  | none =>
    cases hl : k.live <;> simp [Strand.told, hk, hl] at hr
    exact hr ▸ hfs

theorem Keeps.stripped (h : k.Keeps Q) (hQ : Fields.Stable Q) (p : Parent) : (k.stripped p).Keeps Q := by
  intro record hr
  obtain ⟨old, hold, rfl⟩ := Option.map_eq_some_iff.mp hr
  exact hQ.strippedAt old p (h old hold)

theorem Keeps.taken (h : k.Keeps Q) (last : Bool) (m : Message) : (k.taken last m).after.Keeps Q := by
  cases last with
  | true => exact keeps_empty
  | false => exact h

/-- An operation lets nothing into the record of its stream but what it tells. -/
theorem Keeps.step (h : k.Keeps Q) (hQ : Fields.Stable Q) (c : Setup) {op : Op} (hop : ∀ fs, op.tells = some fs → Q fs) :
    (k.step c op).after.Keeps Q := by
  cases op with
  | block s b last =>
    rcases k.step_block_cases c s b last with ⟨why, -, he⟩ | ⟨m, -, he⟩ <;> rw [he]
    · exact h
    · exact h.taken last _
  | data s octets last =>
    rcases k.step_data_cases c s octets last with ⟨why, -, he⟩ | ⟨m, -, -, he⟩ <;> rw [he]
    · exact h
    · exact h.taken last _
  | remove s => exact keeps_empty
  | announce s => exact h
  | deliver s m => exact keeps_empty
  | hold s m => exact h
  | signal sig =>
    cases sig with
    | moved n old =>
      cases hd : n.parent.dependency with
      | some d =>
        simp only [Strand.step, moved, hd]
        exact h.told hQ (hop _ (by rw [Op.tells, hd, Option.map_some]))
      | none =>
        simp only [Strand.step, moved, hd]
        exact h.stripped hQ n.parent
    | reweighted n old => exact h.told hQ (hop _ rfl)
    | frame f =>
      simp only [Strand.step, after_readFrame]
      split
      · exact h
      · exact keeps_empty

end Strand

/-- What holds of all that a run tells of a stream, and is stable, holds of the record of the stream. -/
theorem Relay.keeps_run (hQ : Fields.Stable Q) {r : Relay} {s : StreamId} (h : (r.strand s).Keeps Q) (ops : List Op)
    (hops : ∀ op ∈ ops, op.stream = s → ∀ fs, op.tells = some fs → Q fs) : ((r.run ops).strand s).Keeps Q :=
  strand_run r s ops h fun op hop hs _ hk => hk.step hQ r.setup (hops op hop hs)

end StreamPriority
