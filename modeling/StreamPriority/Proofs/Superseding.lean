import StreamPriority.Proofs.Parking

/-!
# Superseded changes of the tree

A stream that was put below another stream and is put below one again, or that got a weight and gets one again, is left as
if it had been told the second time only, whatever else the tree was heard to do in between (`Relay.superseded_absorbed`).
It is not enough to look at two such changes one right after the other: in between, what the first one told may have been
stripped again, while the record that it made has stayed.

What is told to a strand is laid over what is there, and where there is neither a message nor a record it makes one. Told
again in the end, it does both once more. So strands that cannot be told apart once they are told some fields stay so under
every change of the tree (`Strand.told_hear_congr`).
-/

namespace StreamPriority

/-- One change of the tree tells a stream anew what another told it: below which stream it is, or which weight it has. -/
inductive Signal.SupersededBy : Signal → Signal → Prop where
  | moved {n n' : Node} {p q : StreamId} {old old' : Parent} (stream : n'.id = n.id) (parent : n.parent = .stream p)
      (parent' : n'.parent = .stream q) : SupersededBy (.moved n old) (.moved n' old')
  | reweighted {n n' : Node} {old old' : Weight} (stream : n'.id = n.id) :
      SupersededBy (.reweighted n old) (.reweighted n' old')

/-! ## Strands -/

namespace Strand

/-- Fields told one after another might be told at once. -/
theorem told_told (k : Strand) (fs gs : Fields) : (k.told fs).told gs = k.told (fs.overlay gs) := by
  obtain ⟨live, record⟩ := k
  cases live <;> cases record <;>
    simp only [told, Option.map_none, Option.map_some, Message.modifyActive_modifyActive, Fields.overlay_assoc]

/-- What is told may be stripped before, with the strand that it is told to. -/
theorem stripped_told (k : Strand) (fs : Fields) (p : Parent) :
    (k.told fs).stripped p = (k.stripped p).told (fs.strippedAt p) := by
  obtain ⟨live, record⟩ := k
  cases live <;> cases record <;>
    simp only [told, stripped, Option.map_none, Option.map_some, Message.strippedAt_overlay, Fields.strippedAt_overlay]

/-- What is told leaves no trace once all its names are told again. -/
theorem told_told_of_contains (k : Strand) {fs gs : Fields}
    (h : ∀ n, fs.contains n = true → gs.contains n = true) : (k.told fs).told gs = k.told gs := by
  rw [told_told, Fields.overlay_eq_of_contains h]

/-- What is told after a change of the tree need not be told before it. -/
theorem told_hear_told (k : Strand) (fs : Fields) (sig : Signal) :
    ((k.told fs).hear sig).told fs = (k.hear sig).told fs := by
  have htold : ∀ gs, ((k.told fs).told gs).told fs = (k.told gs).told fs := by
    intro gs
    rw [told_told, told_told, told_told, ← Fields.overlay_assoc, Fields.overlay_overlay_left]
  have hstripped : ∀ p, ((k.told fs).stripped p).told fs = (k.stripped p).told fs := by
    intro p
    rw [stripped_told]
    apply told_told_of_contains
    intro n hn
    rw [Fields.contains_strippedAt, Bool.and_eq_true] at hn
    exact hn.2
  cases sig with
  | moved n old =>
    simp only [hear, moved]
    cases n.parent.dependency with
    | some d => exact htold _
    | none => exact hstripped n.parent
  | reweighted n old => exact htold _
  | frame f => exact k.told_told_of_contains fun _ hn => hn

/-- Strands that are the same once they are told some fields are so after a change of the tree. -/
theorem told_hear_congr {k k' : Strand} {fs : Fields} (h : k.told fs = k'.told fs) (sig : Signal) :
    (k.hear sig).told fs = (k'.hear sig).told fs := by
  rw [← told_hear_told, h, told_hear_told]

theorem told_foldl_hear_congr {k k' : Strand} {fs : Fields} (h : k.told fs = k'.told fs) (sigs : List Signal) :
    (sigs.foldl hear k).told fs = (sigs.foldl hear k').told fs := by
  induction sigs generalizing k k' with
  | nil => exact h
  | cons sig sigs ih => exact ih (told_hear_congr h sig)

/-- A change that is superseded later makes no difference to its strand. -/
theorem hear_superseded {sig sig' : Signal} (h : sig.SupersededBy sig') (k : Strand) (sigs : List Signal) :
    (sigs.foldl hear (k.hear sig)).hear sig' = (sigs.foldl hear k).hear sig' := by
  cases h with
  | moved stream parent parent' =>
    simp only [hear, moved, parent, parent', Parent.dependency]
    apply told_foldl_hear_congr
    exact k.told_told_of_contains fun _ hn => hn
  | reweighted stream =>
    apply told_foldl_hear_congr
    exact k.told_told_of_contains fun _ hn => hn

end Strand

/-! ## Relays -/

theorem Signal.SupersededBy.stream_eq {sig sig' : Signal} (h : sig.SupersededBy sig') : sig'.stream = sig.stream := by
  cases h with
  | moved stream parent parent' => exact stream
  | reweighted stream => exact stream

/-- Neither is a PRIORITY frame. -/
theorem Signal.SupersededBy.isFrame_eq {sig sig' : Signal} (h : sig.SupersededBy sig') :
    sig.isFrame = false ∧ sig'.isFrame = false := by
  cases h <;> exact ⟨rfl, rfl⟩

/-- A change that can be superseded is superseded by itself. -/
theorem Signal.SupersededBy.refl_left {sig sig' : Signal} (h : sig.SupersededBy sig') : sig.SupersededBy sig := by
  cases h with
  | moved stream parent parent' => exact .moved rfl parent parent
  | reweighted stream => exact .reweighted rfl

namespace Relay

/-- The relay without its messages under way and its records. -/
def bare (r : Relay) : Relay :=
  { r with assembly := { r.assembly with live := .empty }, records := .empty }

/-- A relay is its strands, and what there is besides. -/
theorem eq_of_strands {r q : Relay} (h : q.bare = r.bare) (hstrand : ∀ s, q.strand s = r.strand s) : q = r := by
  have hlive : q.assembly.live = r.assembly.live := Table.ext_get? fun s => congrArg Strand.live (hstrand s)
  have hrecords : q.records = r.records := Records.ext_get? fun s => congrArg Strand.record (hstrand s)
  have hback : ∀ p : Relay,
      p = { p.bare with assembly := { p.bare.assembly with live := p.assembly.live }, records := p.records } :=
    fun _ => rfl
  rw [hback q, h, hlive, hrecords, ← hback r]

/-- A change of the tree changes only strands. -/
theorem bare_step_signal (r : Relay) {sig : Signal} (h : sig.isFrame = false) :
    (r.step (.signal sig)).after.bare = r.bare := by
  cases sig with
  | moved n old =>
    simp only [step, hear, moved]
    cases r.isLive n.id <;> cases n.parent.dependency <;> rfl
  | reweighted n old =>
    simp only [step, hear, reweighted]
    cases r.isLive n.id <;> rfl
  | frame f => cases h

theorem bare_run_signals (r : Relay) {sigs : List Signal} (h : ∀ sig ∈ sigs, sig.isFrame = false) :
    (r.run (sigs.map .signal)).bare = r.bare := by
  induction sigs generalizing r with
  | nil => rfl
  | cons sig sigs ih =>
    rw [List.map_cons, run_cons, ih _ fun x hx => h x (List.mem_cons_of_mem sig hx)]
    exact r.bare_step_signal (h sig List.mem_cons_self)

/-- A change of the tree that is superseded after other changes makes no difference. -/
theorem run_superseded (r : Relay) {sig sig' : Signal} (h : sig.SupersededBy sig')
    {between : List Signal} (hbetween : ∀ x ∈ between, x.isFrame = false) :
    (r.step (.signal sig)).after.run ((between ++ [sig']).map .signal) = r.run ((between ++ [sig']).map .signal) := by
  obtain ⟨hsig, hsig'⟩ := h.isFrame_eq
  have htree : ∀ x ∈ between ++ [sig'], x.isFrame = false := by
    intro x hx
    rcases List.mem_append.mp hx with hx | hx
    · exact hbetween x hx
    · rw [List.mem_singleton.mp hx]
      exact hsig'
  apply eq_of_strands
  · rw [bare_run_signals _ htree, bare_run_signals _ htree, r.bare_step_signal hsig]
  intro s
  rw [strand_run_tree _ s htree, strand_run_tree _ s htree]
  -- Only on their own stream do the two make a difference at all.
  by_cases hs : sig.stream = s
  · have hop : (Op.signal sig).stream = s := hs
    have hlast : [sig'].filter (·.stream == s) = [sig'] := List.filter_cons_of_pos (by simpa using h.stream_eq.trans hs)
    rw [strand_step r hop, Strand.step_signal _ _ hsig, List.filter_append, hlast, List.foldl_append, List.foldl_append]
    exact Strand.hear_superseded h _ _
  · have hop : (Op.signal sig).stream ≠ s := hs
    rw [strand_step_of_ne r hop]

/-- A change of the tree that is superseded may as well not have been heard. Let a relay hold what it may, and be told below
which stream one hangs, or which weight it has, and after any changes of the tree, of that stream or of others, be told the
same of it once more. Without the first of the two, the relay ends up as the very same. So to hear such a change time and
again is to hear it once. -/
theorem superseded_absorbed (r : Relay) {sig sig' : Signal} (h : sig.SupersededBy sig') :
    (∀ (before after : List Op) (between : List Signal), (∀ x ∈ between, x.isFrame = false) →
      r.run (before ++ .signal sig :: (between.map .signal ++ .signal sig' :: after)) =
        r.run (before ++ (between.map .signal ++ .signal sig' :: after))) ∧
      ∀ times, r.run (List.replicate (times + 1) (.signal sig)) = (r.step (.signal sig)).after := by
  constructor
  · intro before after between hbetween
    have hsplit : between.map .signal ++ .signal sig' :: after = (between ++ [sig']).map .signal ++ after := by
      rw [List.map_append, List.append_assoc]
      rfl
    rw [run_append, run_append, run_cons, hsplit, run_append, run_append, run_superseded _ h hbetween]
  · intro times
    induction times with
    | zero => rfl
    | succ times ih =>
      have hnone : ∀ x ∈ ([] : List Signal), x.isFrame = false := fun _ hx => nomatch hx
      have hself := run_superseded r h.refl_left hnone
      have hagain : ((r.step (.signal sig)).after.step (.signal sig)).after = (r.step (.signal sig)).after := hself
      rw [List.replicate_succ, run_cons, List.replicate_succ, run_cons, hagain]
      rwa [List.replicate_succ, run_cons] at ih

/-- Two streams are taken out of the tree and put back into it, and get other weights. -/
def upheaval : List Signal :=
  let s : StreamId := ⟨3⟩
  let t : StreamId := ⟨5⟩
  [.reweighted { id := s, weight := .max } .default, .moved { id := t, parent := .none } .root,
    .moved { id := s, parent := .none } .root, .moved { id := t, parent := .stream s } .none,
    .reweighted { id := s, weight := .min } .max]

/-- A stream whose peer wrote both fields itself is moved below another before and after, and one that nothing is held of gets
a weight. -/
theorem superseded_absorbed_upheaval :
    let s : StreamId := ⟨3⟩
    let t : StreamId := ⟨5⟩
    let forged := Fields.ofList [("x-http2-stream-weight", "1"), ("a", "2"), ("X-HTTP2-Stream-Dependency-Id", "3"), ("a", "4")]
    let m : Message := { head := .response 200, headers := forged, trailing := forged, content := [0] }
    let r : Relay := { config := {}, assembly := { live := Table.empty.insert s m }, records := ⟨Table.empty.insert s forged⟩ }
    let moved (p : StreamId) := Signal.moved { id := s, parent := .stream p } .root
    let reweighted (w : Weight) := Signal.reweighted { id := t, weight := w } .default
    let told := Fields.ofList [("a", "2"), ("a", "4"), ("x-http2-stream-weight", "1"), ("x-http2-stream-dependency-id", "9")]
    (moved ⟨7⟩).SupersededBy (moved ⟨9⟩) ∧ (reweighted .min).SupersededBy (reweighted .max) ∧
      (∀ x ∈ upheaval, x.isFrame = false) ∧
      r.run (.signal (moved ⟨7⟩) :: (upheaval.map .signal ++ [.signal (moved ⟨9⟩)])) =
        r.run (upheaval.map .signal ++ [.signal (moved ⟨9⟩)]) ∧
      (r.run (upheaval.map .signal ++ [.signal (moved ⟨9⟩)])).strand s =
        { live := some { m with headers := .ofList [("a", "2"), ("a", "4")], trailing := told }, record := some told } ∧
      r.run (.signal (reweighted .min) :: (upheaval.map .signal ++ [.signal (reweighted .max)])) =
        r.run (upheaval.map .signal ++ [.signal (reweighted .max)]) ∧
      (r.run (upheaval.map .signal ++ [.signal (reweighted .max)])).strand t =
        { record := some (.ofList [("x-http2-stream-dependency-id", "3"), ("x-http2-stream-weight", "256")]) } ∧
      r.run (List.replicate 3 (.signal (moved ⟨7⟩))) = (r.step (.signal (moved ⟨7⟩))).after := by
  intro s t forged m r moved reweighted told
  have hmoved : (moved ⟨7⟩).SupersededBy (moved ⟨9⟩) := .moved rfl rfl rfl
  have hreweighted : (reweighted .min).SupersededBy (reweighted .max) := .reweighted rfl
  have htree : ∀ x ∈ upheaval, x.isFrame = false := by decide
  obtain ⟨hrun, hagain⟩ := superseded_absorbed r hmoved
  refine ⟨hmoved, hreweighted, htree, hrun [] [] upheaval htree, by decide, ?_, by decide, hagain 2⟩
  exact (superseded_absorbed r hreweighted).1 [] [] upheaval htree

end Relay

end StreamPriority
