import StreamPriority.Proofs.Atomicity
import StreamPriority.Proofs.Provenance

/-!
# What a PRIORITY frame brings out

A PRIORITY frame is answered in one of three ways. Where a message is under way nothing is to be done, where nothing is known
of the stream the frame fails, and otherwise the record of the stream is brought out in a message of its own
(`Relay.Surfaced`): its entries are those of the record, each once and in order, and nothing of the stream is left behind.
The record has to make a message, whatever was told before: that is so because every entry of a record is valid
(`Relay.each_valid_record`). Nothing depends on what the frame itself says beside its stream.
-/

namespace StreamPriority

namespace Strand

variable {k : Strand} {c : Setup} {s : StreamId} {record : Fields}

/-- A record of valid entries is brought out in a message, unless no such messages may be made. -/
theorem readFrame_of_record (hlive : k.live = none) (hrecord : k.record = some record) (hvalid : record.Each Field.Valid)
    (hnew : c.refusesNew = false) :
    k.readFrame c s =
      { after := {}, delivered := some { head := .placeholder c.config.role, headers := record }, givenUp := true } := by
  have hmade : synthesis c s record = .ok { head := .placeholder c.config.role, headers := record } := by
    rw [synthesis, hnew, if_neg Bool.false_ne_true]
    exact Message.ofBlock_synthetic hvalid s c.config.role c.config.validate
  simp only [readFrame, hlive, hrecord, hmade, delivering, dress_eq_self]

end Strand

/-- A message that no frame opened counts once it is made. -/
theorem Assembly.constructed_construct {a : Assembly} {s : StreamId} {b : Block} {validate : Bool}
    {made : Message × Assembly} (h : a.construct s b validate = .ok made) :
    made.2.constructed = a.constructed + 1 := by
  unfold construct at h
  split at h
  · cases h
  · cases hm : Message.ofBlock s b validate with
    | error why => rw [hm] at h; cases h
    | ok m => rw [hm] at h; cases h; rfl

namespace Relay

/-! ## Messages that no frame opened -/

/-- Completing a stream makes no such message. -/
theorem constructed_complete (r : Relay) (s : StreamId) :
    (r.complete s).assembly.constructed = r.assembly.constructed := by
  unfold complete
  cases r.assembly.live.get? s <;> rfl

/-- Making a message of a record counts once, if it succeeds. -/
theorem constructed_synthesize (r : Relay) (s : StreamId) (record : Fields) :
    (r.synthesize s record).after.assembly.constructed =
      r.assembly.constructed + (r.synthesize s record).failure.isNone.toNat := by
  cases hm : r.assembly.construct s (.synthetic r.config.role record) r.config.validate with
  | error why =>
    simp only [synthesize, hm]
    rfl
  | ok made =>
    simp only [synthesize, hm]
    exact Assembly.constructed_construct hm

/-- A PRIORITY frame makes such a message if it succeeds without a message under way. -/
theorem constructed_readFrame (r : Relay) (s : StreamId) :
    (r.readFrame s).after.assembly.constructed =
      r.assembly.constructed + (!r.isLive s && (r.readFrame s).failure.isNone).toNat := by
  unfold readFrame
  cases r.isLive s with
  | true => rfl
  | false =>
    cases r.records.get? s with
    | none => rfl
    | some record => exact r.constructed_synthesize s record

/-! ## The three answers -/

/-- The record of a stream was brought out: it was delivered in a message of its own, and nothing of the stream is left. -/
structure Surfaced (r q : Relay) (s : StreamId) (record : Fields) : Prop where
  setup : q.setup = r.setup
  delivered : q.assembly.delivered = r.assembly.delivered ++
    [(s, { head := .placeholder r.config.role, headers := record, trailing := .empty, content := [] })]
  constructed : q.assembly.constructed = r.assembly.constructed + 1
  removed : q.assembly.removed = r.assembly.removed ++ [s]
  live : q.assembly.live.get? s = none
  record : q.records.get? s = none
  /-- Of every other stream the same message is under way as before, and the same record is kept. -/
  other : ∀ t, t ≠ s → q.strand t = r.strand t

variable {r : Relay} {s : StreamId} {record : Fields}

/-- Every entry of a record is valid, after every run. -/
theorem each_valid_record (hr : r.strand s = {}) {ops : List Op} (h : (r.run ops).records.get? s = some record) :
    record.Each Field.Valid := by
  have hnew : (r.strand s).Keeps (Fields.Each Field.Valid) := by
    rw [hr]
    exact Strand.keeps_empty
  refine keeps_run Fields.stable_each hnew ops ?_ record h
  intro op _ _ fs htells
  rcases op.cases_of_tells htells with ⟨n, old, p, -, -, rfl⟩ | ⟨n, old, -, rfl⟩
  · exact Fields.each_valid_ofDependency p
  · exact Fields.each_valid_ofWeight n.weight

theorem readFrame_of_isLive (h : r.isLive s = true) : r.readFrame s = ⟨r, none, [.line (.frameIgnored s)]⟩ := by
  rw [readFrame, if_pos h]

theorem readFrame_of_unknown (hlive : r.isLive s = false) (hrecord : r.records.get? s = none) :
    r.readFrame s = ⟨r, some (.unknownStream s), [.tick .unknownStream, .line (.frameUnknown s)]⟩ := by
  rw [readFrame, hlive, if_neg Bool.false_ne_true, hrecord]

/-- A record of valid entries is brought out by a PRIORITY frame. -/
theorem surfaced_readFrame (hlive : r.isLive s = false) (hrecord : r.records.get? s = some record)
    (hvalid : record.Each Field.Valid) (hnew : r.assembly.refusesNew = false) :
    (r.readFrame s).failure = none ∧ r.Surfaced (r.readFrame s).after s record := by
  have hnone : (r.strand s).live = none := (r.isLive_eq_false_iff s).mp hlive
  have hshows := r.readFrame_shows s
  rw [Strand.readFrame_of_record hnone hrecord hvalid hnew] at hshows
  have hfailure : (r.readFrame s).failure = none := hshows.failure
  have hown : (r.readFrame s).after.strand s = {} := hshows.became.own
  refine ⟨hfailure, hshows.became.setup, hshows.became.delivered, ?_, hshows.became.removed, congrArg Strand.live hown,
    congrArg Strand.record hown, fun t ht => hshows.became.other t ht.symm⟩
  rw [constructed_readFrame, hlive, hfailure]
  rfl

/-- Once a record was brought out, nothing is known of its stream. -/
theorem Surfaced.unknown {q : Relay} (h : r.Surfaced q s record) {g : PriorityFrame} (hg : g.stream = s) :
    (q.step (.signal (.frame g))).failure = some (.unknownStream s) := by
  subst hg
  have hgone : q.isLive g.stream = false := (q.isLive_eq_false_iff g.stream).mpr h.live
  exact congrArg Outcome.failure (readFrame_of_unknown hgone h.record)

/-- What a PRIORITY frame does after any run. With a message under way on its stream it succeeds and changes nothing; with
neither message nor record it fails for the unknown stream and changes nothing. With a record it succeeds, unless no messages
may be made, and the record is brought out in one message; the next such frame then finds nothing. What the frame says beside
its stream makes no difference to any of this, nor to what is noted after the line that quotes the frame. -/
theorem frame_outcome (config : Config) (limit : Option SizeLimit) (refusesNew : Bool) (ops : List Op) (f : PriorityFrame) :
    let r := (new config limit refusesNew).run ops
    let s := f.stream
    let out := r.step (.signal (.frame f))
    (r.isLive s = true → out.failure = none ∧ out.after = r) ∧
      (r.isLive s = false → r.records.get? s = none → out.failure = some (.unknownStream s) ∧ out.after = r) ∧
      (∀ record, r.isLive s = false → r.records.get? s = some record → refusesNew = false →
        out.failure = none ∧ r.Surfaced out.after s record ∧
          ∀ g, g.stream = s → (out.after.step (.signal (.frame g))).failure = some (.unknownStream s)) ∧
      ∀ g, g.stream = s →
        (r.step (.signal (.frame g))).failure = out.failure ∧ (r.step (.signal (.frame g))).after = out.after ∧
          (r.step (.signal (.frame g))).notes.tail = out.notes.tail := by
  intro r s out
  have hfailure : out.failure = (r.readFrame s).failure := rfl
  have hafter : out.after = (r.readFrame s).after := rfl
  rw [hfailure, hafter]
  refine ⟨?_, ?_, ?_, ?_⟩
  · intro hlive
    rw [readFrame_of_isLive hlive]
    exact ⟨rfl, rfl⟩
  · intro hlive hrecord
    rw [readFrame_of_unknown hlive hrecord]
    exact ⟨rfl, rfl⟩
  · intro record hlive hrecord hnew
    have hsetup : r.setup = ⟨config, limit, refusesNew⟩ := setup_run _ ops
    have hrefuses : r.assembly.refusesNew = false := (congrArg Setup.refusesNew hsetup).trans hnew
    have hvalid : record.Each Field.Valid :=
      each_valid_record (strand_new config limit refusesNew s) hrecord
    obtain ⟨hok, hsurfaced⟩ := surfaced_readFrame hlive hrecord hvalid hrefuses
    exact ⟨hok, hsurfaced, fun g hg => hsurfaced.unknown hg⟩
  · intro g hg
    have hsame : r.readFrame g.stream = r.readFrame s := congrArg r.readFrame hg
    have hfail : (r.readFrame g.stream).failure = (r.readFrame s).failure := congrArg Outcome.failure hsame
    have hstate : (r.readFrame g.stream).after = (r.readFrame s).after := congrArg Outcome.after hsame
    have hnotes : (r.readFrame g.stream).notes = (r.readFrame s).notes := congrArg Outcome.notes hsame
    exact ⟨hfail, hstate, hnotes⟩

/-- Stream 1 has a message put in past the relay; stream 5 was below another stream, and was moved below the root; stream 7
was below another one, got a weight and was moved again. -/
def unsettledRun : List Op :=
  [.hold ⟨1⟩ { head := .request "GET" "/" }, .signal (.moved { id := ⟨5⟩, parent := .stream ⟨1⟩ } .root),
    .signal (.moved { id := ⟨5⟩, parent := .root } (.stream ⟨1⟩)),
    .signal (.moved { id := ⟨7⟩, parent := .stream ⟨1⟩ } .root), .signal (.reweighted { id := ⟨7⟩, weight := .max } .default),
    .signal (.moved { id := ⟨7⟩, parent := .stream ⟨9⟩ } (.stream ⟨1⟩))]

/-- A client brings a record out in its order, what was told last at its end, and one without entries in a message that says
nothing but that all is well. -/
theorem frame_outcome_unsettledRun :
    let r := (new { role := .client } none false).run unsettledRun
    let answer (f : PriorityFrame) := r.step (.signal (.frame f))
    let f : PriorityFrame := { stream := ⟨5⟩, dependency := ⟨1⟩, weight := .max, exclusive := true }
    let g : PriorityFrame := { stream := ⟨7⟩, dependency := ⟨3⟩ }
    let told := Fields.ofList [("x-http2-stream-weight", "256"), ("x-http2-stream-dependency-id", "9")]
    ((answer { stream := ⟨1⟩ }).failure = none ∧ (answer { stream := ⟨1⟩ }).after = r) ∧
      ((answer { stream := ⟨9⟩ }).failure = some (.unknownStream ⟨9⟩) ∧ (answer { stream := ⟨9⟩ }).after = r) ∧
      (r.records.get? ⟨5⟩ = some .empty ∧ r.Surfaced (answer f).after ⟨5⟩ .empty ∧
        ((answer f).after.step (.signal (.frame { stream := ⟨5⟩ }))).failure = some (.unknownStream ⟨5⟩) ∧
        (answer { stream := ⟨5⟩ }).after = (answer f).after) ∧
      r.records.get? ⟨7⟩ = some told ∧ r.Surfaced (answer g).after ⟨7⟩ told ∧
      (answer g).after.assembly.delivered = [(⟨7⟩, { head := .response 200, headers := told })] := by
  intro r answer f g told
  have outcome (g : PriorityFrame) := frame_outcome { role := .client } none false unsettledRun g
  have hlive : r.isLive ⟨1⟩ = true := by decide
  have hunknown : r.isLive ⟨9⟩ = false ∧ r.records.get? ⟨9⟩ = none := by decide
  have hemptied : r.isLive ⟨5⟩ = false ∧ r.records.get? ⟨5⟩ = some .empty := by decide
  have htold : r.isLive ⟨7⟩ = false ∧ r.records.get? ⟨7⟩ = some told := by decide
  obtain ⟨-, -, hknown, hrest⟩ := outcome f
  obtain ⟨-, hsurfaced, hnext⟩ := hknown .empty hemptied.1 hemptied.2 rfl
  have htwo := ((outcome g).2.2.1 told htold.1 htold.2 rfl).2.1
  refine ⟨(outcome { stream := ⟨1⟩ }).1 hlive, (outcome { stream := ⟨9⟩ }).2.1 hunknown.1 hunknown.2,
    ⟨hemptied.2, hsurfaced, ?_, (hrest { stream := ⟨5⟩ } rfl).2.1⟩, htold.2, htwo, htwo.delivered⟩
  exact hnext { stream := ⟨5⟩ } rfl

end Relay

end StreamPriority
