import StreamPriority.Proofs.Lifetime
import StreamPriority.Proofs.Overlay

/-!
# What one change of the tree does

Whatever a relay holds of a stream, and whoever wrote it, a signal from the tree settles what the names that it is about
(`Parent.about`) say from then on: nothing, where the stream hangs below no other (`Strand.Lacks`), and else the one value
that is told (`Strand.Retold`). All entries under other names stay, in their order, before the content, after it and in the
record (`Strand.ChangedUnder`), and so does all that is no entry of that stream (`Relay.SameElsewhere`). The message and the
record are changed separately; that they agree is a matter of the two shapes such a change has, `Strand.told` and
`Strand.stripped`.
-/

namespace StreamPriority

/-- The names that a move to a place is about. -/
def Parent.about : Parent → FieldName → Bool
  | .none => FieldName.isPriority
  | .root => (· == .dependency)
  | .stream _ => (· == .dependency)

namespace Fields

variable {p : FieldName → Bool}

/-- Of a single entry under a name that is left out nothing is left. -/
theorem single_without {n : FieldName} (h : p n = true) (v : String) : (single n v).without p = empty := by
  ext1
  rw [entries_without, entries_single, List.filter_singleton, h]
  rfl

end Fields

namespace Message

/-- Another part than the active one is not touched by a change of the active fields. -/
theorem fields_modifyActive_of_ne (m : Message) {part : Part} (h : part ≠ m.activePart) (f : Fields → Fields) :
    (m.modifyActive f).fields part = m.fields part :=
  m.fields_modify_of_ne h.symm f

theorem fields_modifyBoth (m : Message) (f : Fields → Fields) (part : Part) :
    (m.modifyBoth f).fields part = f (m.fields part) := by
  cases part <;> rfl

end Message

/-! ## Strands -/

namespace Strand

/-- A strand became another by a change of nothing but entries under some names. All others are as before, in message and
record, with their values and in their order; what is not there has no entries. -/
structure ChangedUnder (about : FieldName → Bool) (k k' : Strand) : Prop where
  live : k'.live.map (·.without about) = k.live.map (·.without about)
  kept : k'.kept.without about = k.kept.without about

/-- There is no entry under some names, in either part of the message or in the record. -/
structure Lacks (k : Strand) (about : FieldName → Bool) : Prop where
  live : ∀ m, k.live = some m → ∀ part n, about n = true → (m.fields part).contains n = false
  record : ∀ record, k.record = some record → ∀ n, about n = true → record.contains n = false

/-- A strand became another that tells one value under a name: in the active part of a message, while the other part is as it
was, and in a record, of which there is one at least if there is no message. -/
structure Retold (n : FieldName) (v : String) (k k' : Strand) : Prop where
  live : ∀ m, k.live = some m →
    ∃ m', k'.live = some m' ∧ m'.activePart = m.activePart ∧ m'.active.values n = [v] ∧
      ∀ part, part ≠ m.activePart → m'.fields part = m.fields part
  record : ∀ record, k'.record = some record → record.values n = [v]
  recorded : k'.record.isSome = (!k.live.isSome || k.record.isSome)

variable {about : FieldName → Bool}

/-- What changed under some names changed under more of them. -/
theorem ChangedUnder.mono {k k' : Strand} (h : k.ChangedUnder about k') {more : FieldName → Bool}
    (hmore : ∀ n, about n = true → more n = true) : k.ChangedUnder more k' where
  live := by
    have hlive := congrArg (Option.map (·.without more)) h.live
    simpa only [Option.map_map, Function.comp_def, Message.without_without hmore] using hlive
  kept := by
    have hkept := congrArg (·.without more) h.kept
    simpa only [Fields.without_without hmore] using hkept

/-- What is told changes only names that it has. -/
theorem changedUnder_told (k : Strand) {fs : Fields} (h : fs.without about = .empty) :
    k.ChangedUnder about (k.told fs) := by
  refine ⟨?_, ?_⟩
  · rw [told, Option.map_map]
    exact congrFun (congrArg Option.map (funext (Message.without_overlay_of_empty h))) k.live
  · obtain ⟨live, record⟩ := k
    cases record with
    | some record => cases live <;> exact Fields.without_overlay_of_empty h record
    | none =>
      cases live with
      | some m => rfl
      | none => exact h

/-- What is stripped at a place changes only names that the place strips. -/
theorem changedUnder_stripped (k : Strand) (p : Parent) : k.ChangedUnder p.strips (k.stripped p) := by
  have hself : ∀ n, p.strips n = true → p.strips n = true := fun _ hn => hn
  refine ⟨?_, ?_⟩
  · rw [stripped, Option.map_map]
    exact congrFun (congrArg Option.map (funext (Message.without_strippedAt_of_strips hself))) k.live
  · rw [kept_stripped, Fields.without_strippedAt_of_strips hself]

/-- A stripped strand has nothing left of what the place strips. -/
theorem lacks_stripped (k : Strand) (p : Parent) : (k.stripped p).Lacks p.strips := by
  have hstrip : ∀ (fs : Fields) (n : FieldName), p.strips n = true → (fs.strippedAt p).contains n = false := by
    intro fs n hn
    rw [Fields.contains_strippedAt, hn]
    rfl
  refine ⟨?_, ?_⟩
  · intro m' hm' part n hn
    obtain ⟨m, -, rfl⟩ := Option.map_eq_some_iff.mp hm'
    rw [Message.fields_modifyBoth]
    exact hstrip _ n hn
  · intro record' hr' n hn
    obtain ⟨record, -, rfl⟩ := Option.map_eq_some_iff.mp hr'
    exact hstrip record n hn

/-- A strand that is told a value under a name tells it, and nothing else under that name. -/
theorem retold_told (k : Strand) (n : FieldName) (v : String) : k.Retold n v (k.told (.single n v)) := by
  have hself : (Fields.single n v).values n = [v] := by rw [Fields.values_single, if_pos rfl]
  have hover : ∀ fs : Fields, (fs.overlay (.single n v)).values n = [v] := by
    intro fs
    rw [Fields.values_overlay, Fields.contains_single, beq_self_eq_true, if_pos rfl, hself]
  refine ⟨?_, ?_, k.isSome_record_told _⟩
  · intro m hm
    refine ⟨m.modifyActive (·.overlay (.single n v)), ?_, m.activePart_modify _ _, ?_, ?_⟩
    · rw [told, hm, Option.map_some]
    · rw [Message.active_modifyActive]
      exact hover m.active
    · intro part hpart
      exact m.fields_modifyActive_of_ne hpart _
  · intro record' hr'
    obtain ⟨live, record⟩ := k
    cases record with
    | some record =>
      have he : record.overlay (.single n v) = record' := by cases live <;> exact Option.some.inj hr'
      rw [← he]
      exact hover record
    | none =>
      cases live with
      | some m => cases hr'
      | none => rw [← Option.some.inj hr', hself]

/-- A move changes only the names that it is about. -/
theorem changedUnder_moved (k : Strand) (p : Parent) : k.ChangedUnder p.about (k.moved p) := by
  cases p with
  | none => exact k.changedUnder_stripped .none
  | root => exact k.changedUnder_stripped .root
  | stream d => exact k.changedUnder_told (Fields.single_without (beq_self_eq_true FieldName.dependency) d.text)

/-- A move below no stream leaves nothing of what its place strips, and the record if there was one. -/
theorem lacks_moved (k : Strand) {p : Parent} (h : p.dependency = none) :
    (k.moved p).Lacks p.strips ∧ (k.moved p).record.isSome = k.record.isSome := by
  have hstripped : k.moved p = k.stripped p := by rw [moved, h]
  rw [hstripped]
  exact ⟨k.lacks_stripped p, k.isSome_record_stripped p⟩

end Strand

/-! ## Relays -/

namespace Relay

/-- Two relays hold and did the same, but for the message and the record of one stream. -/
structure SameElsewhere (r q : Relay) (s : StreamId) : Prop where
  config : q.config = r.config
  assembly : q.assembly = { r.assembly with live := q.assembly.live }
  other : ∀ t, t ≠ s → q.strand t = r.strand t

theorem sameElsewhere_moved (r : Relay) (s : StreamId) (p : Parent) : r.SameElsewhere (r.moved s p) s where
  config := by
    unfold moved
    cases r.isLive s <;> cases p.dependency <;> rfl
  assembly := by
    unfold moved
    cases r.isLive s <;> cases p.dependency <;> rfl
  other t ht := (r.moved_became s p).other t ht.symm

theorem sameElsewhere_reweighted (r : Relay) (s : StreamId) (w : Weight) : r.SameElsewhere (r.reweighted s w) s where
  config := by
    unfold reweighted
    cases r.isLive s <;> rfl
  assembly := by
    unfold reweighted
    cases r.isLive s <;> rfl
  other t ht := (r.told_became s (.ofWeight w)).other t ht.symm

/-- What a signal from the tree does, whatever the relay holds. It never fails, and changes nothing but entries of its stream
under the names that it is about. Out of the tree, neither name has an entry; below the root, the dependency has none and
the weight has what it had; neither makes a record or takes one away. Below a stream, the dependency has that one value, and
with another weight the weight has that. -/
theorem tree_change (r : Relay) (n : Node) (old : Parent) (was : Weight) :
    let k := r.strand n.id
    let moved (p : Parent) := r.step (.signal (.moved { n with parent := p } old))
    let placed (p : Parent) := (moved p).after.strand n.id
    let reweighted := r.step (.signal (.reweighted n was))
    (∀ p, (moved p).failure = none ∧ r.SameElsewhere (moved p).after n.id ∧ k.ChangedUnder p.about (placed p)) ∧
      ((placed .none).Lacks FieldName.isPriority ∧ (placed .none).record.isSome = k.record.isSome) ∧
      ((placed .root).Lacks (· == .dependency) ∧ k.ChangedUnder (· != .weight) (placed .root) ∧
        (placed .root).record.isSome = k.record.isSome) ∧
      (∀ d, k.Retold .dependency d.text (placed (.stream d))) ∧
      (reweighted.failure = none ∧ r.SameElsewhere reweighted.after n.id ∧
        k.ChangedUnder (· == .weight) (reweighted.after.strand n.id) ∧
        k.Retold .weight n.weight.text (reweighted.after.strand n.id)) := by
  intro k moved placed reweighted
  have hplaced : ∀ p, placed p = k.moved p := fun p => (r.moved_became n.id p).own
  have hreweighted : reweighted.after.strand n.id = k.told (.ofWeight n.weight) :=
    (r.told_became n.id (.ofWeight n.weight)).own
  simp only [hplaced, hreweighted]
  refine ⟨?_, k.lacks_moved rfl, ⟨(k.lacks_moved rfl).1, ?_, (k.lacks_moved rfl).2⟩, ?_, rfl,
    r.sameElsewhere_reweighted n.id n.weight, ?_, k.retold_told .weight n.weight.text⟩
  · intro p
    exact ⟨rfl, r.sameElsewhere_moved n.id p, k.changedUnder_moved p⟩
  · refine (k.changedUnder_moved .root).mono ?_
    intro m hm
    rw [beq_iff_eq.mp hm]
    exact bne_iff_ne.mpr FieldName.dependency_ne_weight
  · intro d
    exact k.retold_told .dependency d.text
  · exact k.changedUnder_told (Fields.single_without (beq_self_eq_true FieldName.weight) n.weight.text)

-- Of forged entries under the name, those in the active part and in the record give way; those before the content stay.
example :
    let s : StreamId := ⟨7⟩
    let fs := Fields.ofList [("x-http2-stream-weight", "1"), ("a", "2"), ("X-HTTP2-Stream-Weight", "3"), ("a", "4")]
    let m : Message := { head := .response 200, headers := fs, trailing := fs, content := [0] }
    let r : Relay := { config := {}, assembly := { live := Table.empty.insert s m }, records := ⟨Table.empty.insert s fs⟩ }
    let told := Fields.ofList [("a", "2"), ("a", "4"), ("x-http2-stream-weight", "256")]
    (r.step (.signal (.reweighted { id := s, weight := .max } .default))).after.strand s =
      { live := some { m with trailing := told }, record := some told } := by
  decide

end Relay

end StreamPriority
