import StreamPriority.Proofs.Bookkeeping
import StreamPriority.Proofs.Parking
import StreamPriority.Relay.Session

/-!
# What can be read off a relay

A relay is watched through its notes: a session captures the lines and a meter the ticks, and a look at either starts it anew.
So a look tells of the operations since the last one, and of nothing before (`Session.drainHolds_run`,
`Meter.reading_record_reset`); on a meter these are the operations of each kind (`Meter.reads_journal`). What a session answers to a PRIORITY frame and what it captures say the same (`Session.frame_answered`).
-/

namespace StreamPriority

/-! ## Meters -/

namespace Meter

/-- The counters above zero are read, with what they stand at. -/
theorem mem_reading_iff {m : Meter} {c : Counter} {v : Nat} : (c, v) ∈ m.reading ↔ m.get? c = some v ∧ v ≠ 0 := by
  rw [reading, List.mem_filterMap]
  constructor
  · rintro ⟨d, -, hd⟩
    obtain ⟨w, hw, hread⟩ := Option.bind_eq_some_iff.mp hd
    split at hread
    · cases hread
    · next hne =>
      cases hread
      exact ⟨hw, hne⟩
  · rintro ⟨hv, hne⟩
    exact ⟨c, c.mem_all, by simp [hv, hne]⟩

/-- A counter is found by its name, which no other one is published under. -/
theorem standsAt_iff {m : Meter} {c : Counter} {v : Nat} : m.standsAt c.name v = true ↔ m.get? c = some v := by
  simp only [standsAt, List.any_eq_true, Bool.and_eq_true, beq_iff_eq]
  constructor
  · rintro ⟨d, -, hname, hv⟩
    rw [← Counter.name_inj hname]
    exact hv
  · intro hv
    exact ⟨c, c.mem_all, rfl, hv⟩

/-- After a look a meter stands as high as a counter was ticked since. -/
theorem getD_record_reset (m : Meter) (notes : List Note) (c : Counter) :
    ((m.reset.record notes).get? c).getD 0 = Note.ticks notes c := by
  have hreset : (m.reset.get? c).getD 0 = 0 := by
    rw [get?_reset]
    cases m.get? c <;> rfl
  rw [getD_record, hreset, Nat.zero_add]

/-- What is read off a meter is a tally of the notes since the last look. -/
theorem reading_record_reset (m : Meter) (notes : List Note) : (m.reset.record notes).reading = Note.tally notes := by
  rw [reading, Note.tally, ← List.filterMap_eq_filter, List.filterMap_map]
  apply List.filterMap_congr
  intro c _
  have hstands := m.getD_record_reset notes c
  cases hv : (m.reset.record notes).get? c with
  | none =>
    rw [hv] at hstands
    have hnone : Note.ticks notes c = 0 := hstands.symm
    simp [Option.guard, hnone]
  | some v =>
    rw [hv] at hstands
    have hsome : Note.ticks notes c = v := hstands.symm
    by_cases h : v = 0 <;> simp [Option.guard, hsome, h]

/-- What a meter shows after a look and a run: of every counter that was ticked, how many operations of its kind there were. -/
theorem reads_journal (m : Meter) (r : Relay) (ops : List Op) :
    let q := m.reset.record (r.journal ops)
    ∀ c v, v ≠ 0 →
      ((c, v) ∈ q.reading ↔ (r.met ops).countP c.counts = v) ∧
        (q.standsAt c.name v = true ↔ (r.met ops).countP c.counts = v) := by
  intro q c v hv
  have hstands : (q.get? c).getD 0 = (r.met ops).countP c.counts := by
    rw [m.getD_record_reset, r.ticks_journal]
  have hget : q.get? c = some v ↔ (r.met ops).countP c.counts = v := by
    rw [← hstands]
    cases q.get? c with
    | none => simp [hv.symm]
    | some w => simp
  rw [mem_reading_iff, standsAt_iff, hget]
  exact ⟨and_iff_left hv, Iff.rfl⟩

end Meter

/-! ## What is answered to a PRIORITY frame -/

namespace Relay

/-- A relay that may make messages answers a PRIORITY frame unless nothing is known of its stream. -/
theorem failure_readFrame {r : Relay} {s : StreamId} (hr : r.strand s = {}) (hnew : r.assembly.refusesNew = false)
    (ops : List Op) :
    ((r.run ops).readFrame s).failure =
      if (r.run ops).isLive s || (r.run ops).records.contains s then none else some (.unknownStream s) := by
  have hrefuses : (r.run ops).assembly.refusesNew = false := (congrArg Setup.refusesNew (r.setup_run ops)).trans hnew
  cases hlive : (r.run ops).isLive s with
  | true =>
    rw [readFrame_of_isLive hlive]
    rfl
  | false =>
    rw [Bool.false_or, Records.contains_eq_isSome]
    cases hrecord : (r.run ops).records.get? s with
    | none =>
      rw [readFrame_of_unknown hlive hrecord]
      rfl
    | some record => exact (surfaced_readFrame hlive hrecord (each_valid_record hr hrecord) hrefuses).1

/-- A change of the tree leaves a message under way if there is one. -/
theorem isLive_tree (r : Relay) {sig : Signal} (h : sig.isFrame = false) (s : StreamId) :
    (r.step (.signal sig)).after.isLive s = r.isLive s := by
  by_cases hs : (Op.signal sig).stream = s
  · rw [isLive_eq, isLive_eq, strand_step r hs]
    cases sig with
    | moved n old =>
      simp only [Strand.step, Strand.moved]
      cases n.parent.dependency with
      | some d => simp [Strand.told]
      | none => simp [Strand.stripped]
    | reweighted n old => simp [Strand.step, Strand.told]
    | frame f => cases h
  · rw [isLive_eq, isLive_eq, strand_step_of_ne r hs]

/-- What the tree tells of a stream is known from then on: by its message, or by its record. -/
theorem known_of_tells {r : Relay} {sig : Signal} (h : sig.isFrame = false)
    (htells : parks (r, .signal sig) = !r.isLive sig.stream) :
    ((r.step (.signal sig)).after.isLive sig.stream || (r.step (.signal sig)).after.records.contains sig.stream) = true := by
  have hkept := r.contains_step_self (.signal sig)
  have hstream : (Op.signal sig).stream = sig.stream := rfl
  rw [hstream] at hkept
  rw [r.isLive_tree h, hkept, htells]
  cases r.isLive sig.stream <;> rfl

end Relay

/-! ## Sessions -/

namespace Session

/-- Answers operations one after another. -/
def run (s : Session) (ops : List Op) : Session :=
  ops.foldl (fun s op => (s.step op).1) s

/-- A session goes through the states of its relay, and captures all lines that are noted on the way. -/
theorem run_eq (s : Session) (ops : List Op) :
    s.run ops = ⟨s.relay.run ops, s.captured ++ Note.lines (s.relay.journal ops)⟩ := by
  induction ops generalizing s with
  | nil => exact congrArg (Session.mk s.relay) (List.append_nil _).symm
  | cons op ops ih =>
    have hcons : s.run (op :: ops) = (s.step op).1.run ops := rfl
    rw [hcons, ih, step, Relay.run_cons, Relay.journal_cons, Note.lines_append, List.append_assoc]

/-- A look finds a needle if it stands in some captured line of the level. -/
theorem drainHolds_iff (s : Session) (level : Level) (needle : String) :
    (s.drainHolds level needle).2 = true ↔
      ∃ l ∈ s.captured, l.level = level ∧ needle.toList <:+: l.message.toList := by
  simp only [drainHolds, Line.anyHolds, List.any_eq_true, Bool.and_eq_true, beq_iff_eq, occursIn_iff]

/-- What was captured before one look is not found by the next, and all that was noted since is. -/
theorem drainHolds_run (s : Session) (level level' : Level) (needle needle' : String) (ops : List Op) :
    (((s.drainHolds level needle).1.run ops).drainHolds level' needle').2 = true ↔
      ∃ l ∈ Note.lines (s.relay.journal ops), l.level = level' ∧ needle'.toList <:+: l.message.toList := by
  rw [drainHolds_iff, run_eq]
  rfl

/-- A session has captured a warning if some operation failed as nothing was known of its stream. -/
theorem warned_iff (s : Session) (ops : List Op) :
    ((s.clear.run ops).drainHolds .warn "").2 = true ↔ ∃ x ∈ s.relay.met ops, Relay.misses x = true := by
  have hcount := Relay.countP_lines_journal Relay.countP_warn_step s.relay ops
  have hempty : ∀ l : Line, "".toList <:+: l.message.toList := fun l => List.nil_infix
  rw [← List.countP_pos_iff, ← hcount, List.countP_pos_iff, drainHolds_iff, run_eq]
  simp only [hempty, and_true, beq_iff_eq]
  rfl

variable (role : Role) (ops : List Op)

/-- A session answers a PRIORITY frame exactly if there is a message or a record of its stream, and otherwise has a warning. -/
theorem frame_answered (t : StreamId) :
    let s := (start role).run ops
    ((s.readFrame t).2.failure = none ↔ s.relay.isLive t = true ∨ s.relay.records.contains t = true) ∧
      ((s.clear.readFrame t).1.drainHolds .warn "").2 = (s.readFrame t).2.failure.isSome := by
  intro s
  have hrelay : s.relay = (Relay.new { role } none false).run ops := congrArg Session.relay (run_eq _ ops)
  have hfailure : (s.readFrame t).2.failure =
      if s.relay.isLive t || s.relay.records.contains t then none else some (.unknownStream t) := by
    have hanswer : (s.readFrame t).2.failure = (s.relay.readFrame t).failure := rfl
    rw [hanswer, hrelay]
    exact Relay.failure_readFrame (r := .new { role } none false) rfl rfl ops
  have hmisses : Relay.misses (s.relay, .signal (.frame { stream := t })) =
      (s.readFrame t).2.failure.any Failure.isUnknownStream := rfl
  have hwarned := s.warned_iff [.signal (.frame { stream := t })]
  simp only [Relay.met, List.mem_singleton, exists_eq_left, hmisses] at hwarned
  refine ⟨?_, Bool.eq_iff_iff.mpr (hwarned.trans ?_)⟩
  · rw [hfailure, ← Bool.or_eq_true]
    cases s.relay.isLive t || s.relay.records.contains t <;> simp
  · rw [hfailure]
    cases s.relay.isLive t || s.relay.records.contains t <;> simp [Failure.isUnknownStream]

/-- A PRIORITY frame is answered once the tree put its stream below another one, or gave it a weight. -/
theorem frame_answered_of_told (n : Node) :
    let s := (start role).run ops
    (n.parent.dependency.isSome = true → ((s.move n).1.readFrame n.id).2.failure = none) ∧
      ((s.reweight n).1.readFrame n.id).2.failure = none := by
  intro s
  have hsession : ∀ sig, (s.step (.signal sig)).1 = (start role).run (ops ++ [.signal sig]) := by
    intro sig
    rw [run, List.foldl_append]
    rfl
  have hrelay : ∀ sig, ((start role).run (ops ++ [.signal sig])).relay = (s.relay.step (.signal sig)).after := by
    intro sig
    rw [← hsession]
    rfl
  have hknown : ∀ sig, sig.isFrame = false → Relay.parks (s.relay, .signal sig) = !s.relay.isLive sig.stream →
      ((s.step (.signal sig)).1.readFrame sig.stream).2.failure = none := by
    intro sig htree htells
    rw [hsession]
    apply (frame_answered role _ _).1.mpr
    rw [hrelay, ← Bool.or_eq_true]
    exact Relay.known_of_tells htree htells
  refine ⟨?_, hknown (.reweighted n .default) rfl rfl⟩
  intro hdependency
  refine hknown (.moved n .root) rfl ?_
  simp [Relay.parks, Signal.stream, hdependency]

end Session

end StreamPriority
