import StreamPriority.Proofs.Overlay

/-!
# Told before the message or after

A change of the tree reaches a message in one of two ways. Before there is a message it is kept in the record of the stream,
and the record is laid over the message that a block opens; from then on it is told to the message itself. Both come to the
same: a message has the fields of its block with every change told in them (`Fields.hear`), in the order of the changes,
wherever among them the block was read.

That rests on one law. Fields that do not tell priority stay below what is told, so that changes may be told in a record and
the record laid over the fields, or told in the fields at once (`Fields.hear_overlay`).
-/

namespace StreamPriority

/-- Whether a signal is a PRIORITY frame, and no change of the tree. -/
def Signal.isFrame : Signal → Bool
  | .frame _ => true
  | _ => false

/-- Fields in which a change of the tree is told. A PRIORITY frame changes nothing. -/
def Fields.hear (fs : Fields) : Signal → Fields
  | .moved n _ =>
    match n.parent.dependency with
    | some d => fs.overlay (.ofDependency d)
    | none => fs.strippedAt n.parent
  | .reweighted n _ => fs.overlay (.ofWeight n.weight)
  | .frame _ => fs

/-! ## Fields -/

namespace Fields

/-- No place strips anything off fields that do not tell priority. -/
theorem strippedAt_eq_self {fs : Fields} (h : ∀ f ∈ fs.entries, f.name.isPriority = false) (p : Parent) :
    fs.strippedAt p = fs := by
  rw [strippedAt_eq_without]
  apply without_eq_self
  intro f hf
  have hn : f.name.isPriority = false := h f hf
  cases p with
  | none => exact hn
  | root => exact (Bool.or_eq_false_iff.mp hn).1
  | stream d => rfl

/-- What is told in fields that were laid over others is told in what was laid over, as long as the others do not tell
priority. -/
theorem hear_overlay {fs : Fields} (h : ∀ f ∈ fs.entries, f.name.isPriority = false) (gs : Fields) (sig : Signal) :
    (fs.overlay gs).hear sig = fs.overlay (gs.hear sig) := by
  cases sig with
  | moved n old =>
    simp only [hear]
    cases n.parent.dependency with
    | some d => exact fs.overlay_assoc gs _
    | none => rw [strippedAt_overlay, strippedAt_eq_self h]
  | reweighted n old => exact fs.overlay_assoc gs _
  | frame f => rfl

theorem foldl_hear_overlay {fs : Fields} (h : ∀ f ∈ fs.entries, f.name.isPriority = false) (gs : Fields)
    (sigs : List Signal) : sigs.foldl hear (fs.overlay gs) = fs.overlay (sigs.foldl hear gs) := by
  induction sigs generalizing gs with
  | nil => rfl
  | cons sig sigs ih => rw [List.foldl_cons, List.foldl_cons, hear_overlay h, ih]

/-- What is told in fields that do not tell priority may be told in no fields, and laid over them afterwards. -/
theorem foldl_hear_eq_overlay {fs : Fields} (h : ∀ f ∈ fs.entries, f.name.isPriority = false) (sigs : List Signal) :
    sigs.foldl hear fs = fs.overlay (sigs.foldl hear empty) := by
  rw [← foldl_hear_overlay h, overlay_empty]

end Fields

/-! ## Strands -/

namespace Strand

/-- The strand of a stream that was in a change of the tree. -/
def hear (k : Strand) : Signal → Strand
  | .moved n _ => k.moved n.parent
  | .reweighted n _ => k.told (.ofWeight n.weight)
  | .frame _ => k

theorem step_signal (k : Strand) (c : Setup) {sig : Signal} (h : sig.isFrame = false) :
    (k.step c (.signal sig)).after = k.hear sig := by
  cases sig with
  | moved n old => rfl
  | reweighted n old => rfl
  | frame f => cases h

/-- Without a message, a change of the tree is told in what is kept. -/
theorem hear_of_none {k : Strand} (h : k.live = none) (sig : Signal) :
    (k.hear sig).live = none ∧ (k.hear sig).kept = k.kept.hear sig := by
  have htold : ∀ fs, (k.told fs).live = none ∧ (k.told fs).kept = k.kept.overlay fs := by
    intro fs
    refine ⟨by rw [told, h, Option.map_none], ?_⟩
    cases hr : k.record with
    | some record => simp only [kept, told, h, hr, Option.map_some, Option.getD_some]
    | none => simp only [kept, told, h, hr, Option.getD_some, Option.getD_none, Fields.empty_overlay]
  have hstripped : ∀ p, (k.stripped p).live = none ∧ (k.stripped p).kept = k.kept.strippedAt p :=
    fun p => ⟨by rw [stripped, h, Option.map_none], k.kept_stripped p⟩
  cases sig with
  | moved n old =>
    simp only [hear, moved, Fields.hear]
    cases n.parent.dependency with
    | some d => exact htold _
    | none => exact hstripped n.parent
  | reweighted n old => exact htold _
  | frame f => exact ⟨h, rfl⟩

theorem foldl_hear_of_none {k : Strand} (h : k.live = none) (sigs : List Signal) :
    (sigs.foldl hear k).live = none ∧ (sigs.foldl hear k).kept = sigs.foldl Fields.hear k.kept := by
  induction sigs generalizing k with
  | nil => exact ⟨h, rfl⟩
  | cons sig sigs ih =>
    obtain ⟨hlive, hkept⟩ := hear_of_none h sig
    rw [List.foldl_cons, List.foldl_cons, ← hkept]
    exact ih hlive

/-- Without content, a change of the tree is told in the fields before it, and in the record there is. -/
theorem hear_of_some {k : Strand} {head : Head} {fs : Fields} (h : k.live = some { head, headers := fs }) (sig : Signal) :
    (k.hear sig).live = some { head, headers := fs.hear sig } ∧ (k.hear sig).record = k.record.map (·.hear sig) := by
  have htold : ∀ gs, (k.told gs).live = some { head, headers := fs.overlay gs } ∧
      (k.told gs).record = k.record.map (·.overlay gs) := by
    intro gs
    refine ⟨?_, by rw [told, h]⟩
    rw [told, h]
    rfl
  have hstripped : ∀ p, (k.stripped p).live = some { head, headers := fs.strippedAt p } ∧
      (k.stripped p).record = k.record.map (·.strippedAt p) := by
    intro p
    simp only [stripped, h, Option.map_some, Message.modifyBoth, Fields.empty_strippedAt, and_self]
  cases sig with
  | moved n old =>
    simp only [hear, moved, Fields.hear]
    cases n.parent.dependency with
    | some d => exact htold _
    | none => exact hstripped n.parent
  | reweighted n old => exact htold _
  | frame f => exact ⟨h, Option.map_id_apply.symm⟩

theorem foldl_hear_of_some {k : Strand} {head : Head} {fs : Fields} (h : k.live = some { head, headers := fs })
    (sigs : List Signal) :
    (sigs.foldl hear k).live = some { head, headers := sigs.foldl Fields.hear fs } ∧
      (sigs.foldl hear k).record = k.record.map (sigs.foldl Fields.hear ·) := by
  induction sigs generalizing k fs with
  | nil => exact ⟨h, Option.map_id_apply.symm⟩
  | cons sig sigs ih =>
    obtain ⟨hlive, hrecord⟩ := hear_of_some h sig
    obtain ⟨hlive', hrecord'⟩ := ih hlive
    refine ⟨hlive', ?_⟩
    rw [List.foldl_cons, hrecord', hrecord, Option.map_map]
    rfl

end Strand

/-! ## Runs -/

namespace Relay

variable {s : StreamId}

/-- Changes of the tree do to a strand what those of its stream do to it one after another. -/
theorem strand_run_tree (r : Relay) (s : StreamId) {sigs : List Signal} (h : ∀ sig ∈ sigs, sig.isFrame = false) :
    (r.run (sigs.map .signal)).strand s = (sigs.filter (·.stream == s)).foldl Strand.hear (r.strand s) := by
  induction sigs generalizing r with
  | nil => rfl
  | cons sig sigs ih =>
    rw [List.map_cons, run_cons, ih _ fun x hx => h x (List.mem_cons_of_mem sig hx)]
    by_cases hs : sig.stream = s
    · have hop : (Op.signal sig).stream = s := hs
      rw [strand_step r hop, Strand.step_signal _ _ (h sig List.mem_cons_self), List.filter_cons_of_pos (by simpa using hs),
        List.foldl_cons]
    · have hop : (Op.signal sig).stream ≠ s := hs
      rw [strand_step_of_ne r hop, List.filter_cons_of_neg (by simpa using hs)]

/-- If they are all of one stream, they do it all to the strand of that. -/
theorem strand_run_signals (r : Relay) {sigs : List Signal} (h : ∀ sig ∈ sigs, sig.stream = s ∧ sig.isFrame = false) :
    (r.run (sigs.map .signal)).strand s = sigs.foldl Strand.hear (r.strand s) := by
  have hall : sigs.filter (·.stream == s) = sigs := List.filter_eq_self.mpr fun sig hsig => beq_iff_eq.mpr (h sig hsig).1
  rw [strand_run_tree r s fun sig hsig => (h sig hsig).2, hall]

/-- A block opens a message with its fields, and what was kept is laid over them. -/
theorem strand_step_block {r : Relay} {b : Block} {m : Message} (hl : (r.strand s).live = none)
    (hm : Message.ofBlock s b r.config.validate = .ok m) :
    (r.step (.block s b false)).after.strand s =
      { r.strand s with live := some { head := m.head, headers := b.fields.overlay (r.strand s).kept } } := by
  have htake : (r.strand s).takeBlock r.setup s b = .ok m := by
    rw [Strand.takeBlock, hl]
    exact hm
  have hdress : (r.strand s).dress m = { head := m.head, headers := b.fields.overlay (r.strand s).kept } := by
    rw [Strand.dress_eq_overlay_kept, Message.eq_of_ofBlock hm]
    rfl
  have hop : (Op.block s b false).stream = s := rfl
  rw [strand_step r hop, ← hdress]
  simp only [Strand.step, htake]
  rfl

/-- The message of a stream that was told changes before its block and after it has the fields of the block with all of them
told in it, and what record there is holds what was told. -/
theorem strand_told_around {r : Relay} {b : Block} {m : Message} (hr : r.strand s = {})
    (hb : ∀ f ∈ b.fields.entries, f.name.isPriority = false) (hm : Message.ofBlock s b r.config.validate = .ok m)
    {before after : List Signal} (hsigs : ∀ sig ∈ before ++ after, sig.stream = s ∧ sig.isFrame = false) :
    let k := (((r.run (before.map .signal)).step (.block s b false)).after.run (after.map .signal)).strand s
    k.live = some { head := m.head, headers := (before ++ after).foldl Fields.hear b.fields } ∧
      ∀ record, k.record = some record → record = (before ++ after).foldl Fields.hear .empty := by
  intro k
  have hbefore : ∀ sig ∈ before, sig.stream = s ∧ sig.isFrame = false :=
    fun sig h => hsigs sig (List.mem_append_left after h)
  have hafter : ∀ sig ∈ after, sig.stream = s ∧ sig.isFrame = false :=
    fun sig h => hsigs sig (List.mem_append_right before h)
  -- Before the block, everything goes into the record.
  obtain ⟨hlive₁, hkept₁⟩ := Strand.foldl_hear_of_none (k := {}) rfl before
  have hk₁ : (r.run (before.map .signal)).strand s = before.foldl Strand.hear {} := by
    rw [strand_run_signals r hbefore, hr]
  rw [← hk₁] at hlive₁ hkept₁
  have hempty : ({} : Strand).kept = .empty := rfl
  rw [hempty] at hkept₁
  -- The block opens a message over which the record is laid.
  have hc : (r.run (before.map .signal)).config = r.config := congrArg Setup.config (r.setup_run _)
  have hk₂ := strand_step_block hlive₁ (hc ▸ hm)
  rw [hkept₁, ← Fields.foldl_hear_eq_overlay hb] at hk₂
  -- From then on, everything goes into the message and the record.
  obtain ⟨hlive, hrecord⟩ := Strand.foldl_hear_of_some (congrArg Strand.live hk₂) after
  have hk : k = after.foldl Strand.hear (((r.run (before.map .signal)).step (.block s b false)).after.strand s) :=
    strand_run_signals _ hafter
  rw [← hk] at hlive hrecord
  refine ⟨by rw [hlive, List.foldl_append], fun record hrec => ?_⟩
  rw [hrecord, hk₂, Option.map_eq_some_iff] at hrec
  obtain ⟨record₁, hrec₁, rfl⟩ := hrec
  have hsame : record₁ = before.foldl Fields.hear .empty := by
    rw [← hkept₁, Strand.kept, hrec₁, Option.getD_some]
  rw [hsame, List.foldl_append]

/-- No content completes a stream whose message has none, and that message is delivered dressed. -/
theorem step_data_nil {r : Relay} {m : Message} (hm : r.assembly.live.get? s = some m) (hc : m.content = []) :
    (r.step (.data s [] true)).failure = none ∧
      (r.step (.data s [] true)).after.assembly.delivered = r.assembly.delivered ++ [(s, (r.strand s).dress m)] := by
  have hlive : (r.strand s).live = some m := hm
  have hfits : r.setup.limit.filter (·.octets < m.content.length + ([] : List UInt8).length) = none := by
    rw [hc]
    cases r.setup.limit <;> simp
  have happend : m.append [] = m := by rw [Message.append, List.append_nil]
  have htake : (r.strand s).takeData r.setup s [] = .ok m := by
    simp only [Strand.takeData, hlive, hfits, happend]
  have heffect : (r.strand s).step r.setup (.data s [] true) = (r.strand s).delivering m := by
    simp only [Strand.step, htake]
    rfl
  have hshows := r.step_shows (.data s [] true)
  have hstream : (Op.data s [] true).stream = s := rfl
  rw [hstream, heffect] at hshows
  exact ⟨hshows.failure, hshows.became.delivered⟩

/-- It makes no difference when a message is opened among the changes of the tree that are told of its stream. Wherever the
block is read, the message has the head of the block, the fields of the block with every change told in them in turn, and
nothing else; and so it is delivered. -/
theorem told_before_or_after (r : Relay) (s : StreamId) (b : Block) (a : Assembly) (sigs : List Signal)
    (hlive : r.assembly.live.get? s = none) (hrecord : r.records.get? s = none)
    (hb : ∀ f ∈ b.fields.entries, f.name.isPriority = false)
    (ha : r.assembly.takeBlock s b r.config.validate = .ok a)
    (hsigs : ∀ sig ∈ sigs, sig.stream = s ∧ sig.isFrame = false) :
    ∃ head, Head.ofBlock s b = .ok head ∧
      let m : Message := { head, headers := sigs.foldl Fields.hear b.fields, trailing := .empty, content := [] }
      ∀ before after, before ++ after = sigs →
        let q := ((r.run (before.map .signal)).step (.block s b false)).after.run (after.map .signal)
        q.assembly.live.get? s = some m ∧
          (q.step (.data s [] true)).failure = none ∧
          (q.step (.data s [] true)).after.assembly.delivered = q.assembly.delivered ++ [(s, m)] := by
  have hr : r.strand s = {} := by rw [strand, hlive, hrecord]
  obtain ⟨m₀, hm₀⟩ : ∃ m₀, Message.ofBlock s b r.config.validate = .ok m₀ := by
    rw [Assembly.takeBlock, hlive] at ha
    cases hm : Message.ofBlock s b r.config.validate with
    | ok m₀ => exact ⟨m₀, rfl⟩
    | error why =>
      simp only [hm] at ha
      cases ha
  refine ⟨m₀.head, (Message.ofBlock_eq_ok_iff.mp hm₀).1, ?_⟩
  rintro m before after rfl q
  obtain ⟨hm, hrec⟩ := strand_told_around hr hb hm₀ hsigs
  -- What the record says is told in the message already.
  have hdress : (q.strand s).dress m = m := by
    cases hk : (q.strand s).record with
    | none => exact Strand.dress_eq_self hk m
    | some record =>
      have hheaders : m.headers.overlay record = m.headers := by
        rw [hrec record hk]
        simp only [m, Fields.foldl_hear_eq_overlay hb, Fields.overlay_overlay_self]
      rw [Strand.dress_eq_overlay hk]
      exact congrArg (fun fs => ({ head := m₀.head, headers := fs } : Message)) hheaders
  obtain ⟨hfailure, hdelivered⟩ := step_data_nil (r := q) hm rfl
  rw [hdress] at hdelivered
  exact ⟨hm, hfailure, hdelivered⟩

/-- A stream that is moved, given a weight, taken out of the tree and moved again. -/
def wandering : List Signal :=
  let s : StreamId := ⟨3⟩
  [.moved { id := s, parent := .stream ⟨5⟩ } .root, .reweighted { id := s, weight := .max } .default,
    .moved { id := s, parent := .none } (.stream ⟨5⟩), .moved { id := s, parent := .stream ⟨7⟩ } .none]

/-- Wherever its request is read, the message tells the last place, and not the weight from before. -/
theorem told_before_or_after_wandering :
    let r := new {} none false
    let b := Block.plainRequest.build [.field "accept" "text/html"]
    let m : Message := {
      head := .request "GET" "/"
      headers := .ofList [("accept", "text/html"), ("x-http2-stream-dependency-id", "7")] }
    (∀ f ∈ b.fields.entries, f.name.isPriority = false) ∧
      (∃ a, r.assembly.takeBlock ⟨3⟩ b r.config.validate = .ok a) ∧
      (∀ sig ∈ wandering, sig.stream = ⟨3⟩ ∧ sig.isFrame = false) ∧
      ∀ before after, before ++ after = wandering →
        let q := ((r.run (before.map .signal)).step (.block ⟨3⟩ b false)).after.run (after.map .signal)
        q.assembly.live.get? ⟨3⟩ = some m ∧
          (q.step (.data ⟨3⟩ [] true)).after.assembly.delivered = q.assembly.delivered ++ [(⟨3⟩, m)] := by
  intro r b m
  have hb : ∀ f ∈ b.fields.entries, f.name.isPriority = false := by decide
  have ha : r.assembly.takeBlock ⟨3⟩ b r.config.validate =
      .ok (r.assembly.hold ⟨3⟩ { head := .request "GET" "/", headers := b.fields }) := rfl
  have hsigs : ∀ sig ∈ wandering, sig.stream = ⟨3⟩ ∧ sig.isFrame = false := by decide
  have hm : wandering.foldl Fields.hear b.fields = m.headers := by decide
  refine ⟨hb, ⟨_, ha⟩, hsigs, fun before after hsplit => ?_⟩
  obtain ⟨head, hhead, hall⟩ := told_before_or_after r ⟨3⟩ b _ wandering rfl rfl hb ha hsigs
  obtain rfl : Head.request "GET" "/" = head := Except.ok.inj hhead
  rw [hm] at hall
  obtain ⟨hlive, -, hdelivered⟩ := hall before after hsplit
  exact ⟨hlive, hdelivered⟩

end Relay

end StreamPriority
