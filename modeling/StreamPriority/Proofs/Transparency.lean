import StreamPriority.Proofs.Overlay

/-!
# A relay keeps out of the way

A relay stands between a connection and an assembler, and all it may do to a message is tell it priority. To say so, the
relay is compared with its assembler alone: `Assembly.answer` is what that does with an operation when nobody lays records
over its messages, and nobody hears of priority. Without the two fields that tell priority, both have the same messages
under way, deliver the same, and fail for the same reason.

The two are compared strand by strand (`Strand.Alike`), since an assembler alone is a relay without records
(`Relay.step_unaided`).
-/

namespace StreamPriority

/-! ## What tells priority is not seen -/

namespace Fields

/-- Of a record nothing is left. -/
theorem IsRecord.without_isPriority {fs : Fields} (h : fs.IsRecord) : fs.without FieldName.isPriority = empty := by
  ext1
  rw [entries_without, entries_empty, List.filter_eq_nil_iff]
  intro f hf hn
  have hp : f.name.isPriority = true := h.priority f.name ((contains_iff fs f.name).mpr ⟨f, hf, rfl⟩)
  rw [hp] at hn
  cases hn

end Fields

/-- What a place strips tells priority. -/
theorem Parent.isPriority_of_strips {p : Parent} {n : FieldName} (h : p.strips n = true) : n.isPriority = true := by
  cases p with
  | none => exact h
  | root => rw [beq_iff_eq.mp h, FieldName.isPriority_dependency]
  | stream d => cases h

/-! ## Strands that are alike -/

/-- Two strands that have the same message under way but for priority; what records they have are proper. -/
structure Strand.Alike (k k' : Strand) : Prop where
  live : k.live.map (Message.without · FieldName.isPriority) = k'.live.map (Message.without · FieldName.isPriority)
  proper : k.Proper
  proper' : k'.Proper

/-- Two effects that differ in nothing but priority. -/
structure Effect.Alike (e e' : Effect) : Prop where
  after : e.after.Alike e'.after
  failure : e.failure = e'.failure
  delivered : e.delivered.map (Message.without · FieldName.isPriority) =
    e'.delivered.map (Message.without · FieldName.isPriority)

/-- Whether something was heard about priority. -/
def Op.isSignal : Op → Bool
  | .signal _ => true
  | _ => false

theorem Op.exists_eq_signal {op : Op} (h : op.isSignal = true) : ∃ sig, op = .signal sig := by
  cases op with
  | signal sig => exact ⟨sig, rfl⟩
  | _ => cases h

namespace Strand

theorem alike_empty : Alike {} {} :=
  ⟨rfl, proper_empty, proper_empty⟩

/-- Nothing is seen of a record that a message is dressed with. -/
theorem Proper.without_isPriority_dress {k : Strand} (h : k.Proper) (m : Message) :
    (k.dress m).without FieldName.isPriority = m.without FieldName.isPriority := by
  cases hr : k.record with
  | none => rw [dress_eq_self hr]
  | some record => rw [dress_eq_overlay hr, Message.without_overlay_of_empty (h record hr).without_isPriority]

theorem Proper.map_live_announce {k : Strand} (h : k.Proper) :
    k.announce.live.map (Message.without · FieldName.isPriority) =
      k.live.map (Message.without · FieldName.isPriority) := by
  rw [announce, Option.map_map]
  apply Option.map_congr
  exact fun m _ => h.without_isPriority_dress m

/-- What two strands make of one block is the same but for priority, or the same rejection. -/
theorem Alike.takeBlock {k k' : Strand} (h : k.Alike k') {c c' : Setup} (hc : c'.config = c.config) (s : StreamId)
    (b : Block) :
    (k.takeBlock c s b).map (Message.without · FieldName.isPriority) =
      (k'.takeBlock c' s b).map (Message.without · FieldName.isPriority) := by
  unfold Strand.takeBlock
  rcases Option.cases_of_map_eq h.live with ⟨hk, hk'⟩ | ⟨m, m', hk, hk', hm⟩
  · simp only [hk, hk', hc]
  · simp only [hk, hk', Except.map, Message.without_overlay, hm]

/-- What two strands make of the same content is the same but for priority, or the same rejection. -/
theorem Alike.takeData {k k' : Strand} (h : k.Alike k') {c c' : Setup} (hl : c'.limit = c.limit) (s : StreamId)
    (data : List UInt8) :
    (k.takeData c s data).map (Message.without · FieldName.isPriority) =
      (k'.takeData c' s data).map (Message.without · FieldName.isPriority) := by
  unfold Strand.takeData
  rcases Option.cases_of_map_eq h.live with ⟨hk, hk'⟩ | ⟨m, m', hk, hk', hm⟩
  · simp only [hk, hk']
  · have hcontent : m.content = m'.content := by
      rw [← m.content_without FieldName.isPriority, hm, Message.content_without]
    simp only [hk, hk', hl, hcontent]
    split
    · rfl
    · simp only [Except.map, Message.without_append, hm]

theorem Alike.refused {k k' : Strand} (h : k.Alike k') (why : Rejection) : (k.refused why).Alike (k'.refused why) :=
  ⟨h, rfl, rfl⟩

theorem Alike.delivering {k k' : Strand} (h : k.Alike k') {m m' : Message}
    (hm : m.without FieldName.isPriority = m'.without FieldName.isPriority) :
    (k.delivering m).Alike (k'.delivering m') where
  after := alike_empty
  failure := rfl
  delivered := by
    simp only [Strand.delivering, Option.map_some]
    rw [h.proper.without_isPriority_dress, h.proper'.without_isPriority_dress, hm]

theorem Alike.taken {k k' : Strand} (h : k.Alike k') {m m' : Message}
    (hm : m.without FieldName.isPriority = m'.without FieldName.isPriority) (last : Bool) :
    (k.taken last m).Alike (k'.taken last m') := by
  cases last with
  | true => exact h.delivering hm
  | false => exact ⟨⟨by simp [Strand.taken, hm], h.proper, h.proper'⟩, rfl, rfl⟩

/-- An operation other than a signal has effects that are alike on strands that are. -/
theorem Alike.step {k k' : Strand} (h : k.Alike k') {c c' : Setup} (hc : c'.config = c.config) (hl : c'.limit = c.limit)
    {op : Op} (hop : op.isSignal = false) : (k.step c op).Alike (k'.step c' op) := by
  cases op with
  | block s b last =>
    simp only [Strand.step]
    rcases Except.cases_of_map_eq (h.takeBlock hc s b) with ⟨why, hk, hk'⟩ | ⟨m, m', hk, hk', hm⟩
    · simp only [hk, hk']
      exact h.refused why
    · simp only [hk, hk']
      refine h.taken ?_ last
      rw [h.proper.without_isPriority_dress, h.proper'.without_isPriority_dress, hm]
  | data s octets last =>
    simp only [Strand.step]
    rcases Except.cases_of_map_eq (h.takeData hl s octets) with ⟨why, hk, hk'⟩ | ⟨m, m', hk, hk', hm⟩
    · simp only [hk, hk']
      exact h.refused why
    · simp only [hk, hk']
      exact h.taken hm last
  | remove s => exact ⟨alike_empty, rfl, rfl⟩
  | announce s =>
    have hlive := h.proper.map_live_announce.trans (h.live.trans h.proper'.map_live_announce.symm)
    exact ⟨⟨hlive, h.proper, h.proper'⟩, rfl, rfl⟩
  | deliver s m => exact h.delivering rfl
  | hold s m => exact ⟨⟨rfl, h.proper, h.proper'⟩, rfl, rfl⟩
  | signal sig => cases hop

theorem map_live_told (k : Strand) {fs : Fields} (h : fs.IsRecord) :
    (k.told fs).live.map (Message.without · FieldName.isPriority) =
      k.live.map (Message.without · FieldName.isPriority) := by
  rw [told, Option.map_map]
  apply Option.map_congr
  exact fun m _ => Message.without_overlay_of_empty h.without_isPriority m

theorem map_live_stripped (k : Strand) (p : Parent) :
    (k.stripped p).live.map (Message.without · FieldName.isPriority) =
      k.live.map (Message.without · FieldName.isPriority) := by
  rw [stripped, Option.map_map]
  apply Option.map_congr
  exact fun m _ => Message.without_strippedAt_of_strips (fun _ => Parent.isPriority_of_strips) m

/-- A signal changes nothing but priority. -/
theorem Alike.signal {k k' : Strand} (h : k.Alike k') (c : Setup) (sig : Signal) :
    (k.step c (.signal sig)).after.Alike k' := by
  refine ⟨?_, h.proper.step c _, h.proper'⟩
  rw [← h.live]
  cases sig with
  | moved n old =>
    simp only [Strand.step, Strand.moved]
    cases n.parent.dependency with
    | some d => exact k.map_live_told (Fields.isRecord_ofDependency d)
    | none => exact k.map_live_stripped n.parent
  | reweighted n old => exact k.map_live_told (Fields.isRecord_ofWeight n.weight)
  | frame f =>
    simp only [Strand.step, after_readFrame]
    split
    · rfl
    · next hk => rw [Option.not_isSome_iff_eq_none.mp hk]

end Strand

/-! ## The assembler alone -/

namespace Assembly

/-- Gives a stream up and delivers a message of it. -/
def handOver (a : Assembly) (s : StreamId) (m : Message) : Assembly :=
  (a.remove s).deliver s m

/-- Delivers the message of a stream, if there is one. -/
def complete (a : Assembly) (s : StreamId) : Assembly :=
  match a.live.get? s with
  | some m => (a.handOut s).handOver s m
  | none => a

/-- Ends an operation on what came in, which was taken or not. -/
def ended (a : Assembly) (s : StreamId) (last : Bool) : Except Rejection Assembly → Assembly × Option Rejection
  | .error why => (a, some why)
  | .ok a' => (if last then a'.complete s else a', none)

/-- Answers one operation alone: what is about priority is left out. -/
def answer (a : Assembly) (validate : Bool) : Op → Assembly × Option Rejection
  | .block s b last => a.ended s last (a.takeBlock s b validate)
  | .data s octets last => a.ended s last (a.takeData s octets)
  | .remove s => (a.remove s, none)
  | .announce _ => (a, none)
  | .deliver s m => (a.handOver s m, none)
  | .signal _ => (a, none)
  | .hold s m => (a.hold s m, none)

/-- Answers operations one after another alone, whatever their results. -/
def run (a : Assembly) (validate : Bool) (ops : List Op) : Assembly :=
  ops.foldl (fun a op => (a.answer validate op).1) a

@[simp] theorem run_cons (a : Assembly) (validate : Bool) (op : Op) (ops : List Op) :
    a.run validate (op :: ops) = (a.answer validate op).1.run validate ops :=
  rfl

end Assembly

/-- A relay without records. -/
def Relay.unaided (config : Config) (a : Assembly) : Relay :=
  { config, assembly := a }

/-- An outcome without records that is what an assembler alone answers. -/
structure Outcome.IsAnswer (out : Outcome) (config : Config) (answer : Assembly × Option Rejection) : Prop where
  after : out.after = Relay.unaided config answer.1
  failure : out.failure = answer.2.map .rejected

namespace Relay

theorem announce_unaided (config : Config) (a : Assembly) (s : StreamId) :
    (unaided config a).announce s = unaided config a := by
  have hid : (fun m : Message => m.modifyActive (Records.empty.layOver s)) = id := by
    funext m
    exact m.modifyActive_id
  have hlive : a.live.adjust s id = a.live := by
    apply Table.ext_get?
    intro t
    simp [Table.get?_adjust]
  simp only [announce, unaided, Assembly.adjust, hid, hlive]

theorem deliver_unaided (config : Config) (a : Assembly) (s : StreamId) (m : Message) :
    (unaided config a).deliver s m = unaided config (a.handOver s m) := by
  have hm : m.modifyActive (Records.empty.layOver s) = m := m.modifyActive_id
  simp only [deliver, remove, unaided, Assembly.handOver, hm]
  rfl

theorem complete_unaided (config : Config) (a : Assembly) (s : StreamId) :
    (unaided config a).complete s = unaided config (a.complete s) := by
  unfold complete Assembly.complete
  cases h : a.live.get? s with
  | none => simp only [unaided, h]
  | some m =>
    simp only [unaided, h]
    exact deliver_unaided config (a.handOut s) s m

theorem taken_unaided (config : Config) (a a' : Assembly) (s : StreamId) (last : Bool) (call : Note) :
    ((unaided config a').taken s last call).IsAnswer config (a.ended s last (.ok a')) := by
  cases last with
  | true => exact ⟨complete_unaided config a' s, rfl⟩
  | false => exact ⟨rfl, rfl⟩

/-- Without records, a relay does with an operation that is no signal what its assembler does alone. -/
theorem step_unaided (config : Config) (a : Assembly) {op : Op} (hop : op.isSignal = false) :
    ((unaided config a).step op).IsAnswer config (a.answer config.validate op) := by
  cases op with
  | block s b last =>
    simp only [step, readBlock, afterBlock, Assembly.answer, unaided]
    cases a.takeBlock s b config.validate with
    | error why => exact ⟨rfl, rfl⟩
    | ok a' =>
      have h := taken_unaided config a a' s last (.call (.takeBlock s config.validate))
      rw [← announce_unaided config a' s] at h
      exact h
  | data s octets last =>
    simp only [step, readData, Assembly.answer, unaided]
    cases a.takeData s octets with
    | error why => exact ⟨rfl, rfl⟩
    | ok a' => exact taken_unaided config a a' s last _
  | remove s => exact ⟨rfl, rfl⟩
  | announce s => exact ⟨announce_unaided config a s, rfl⟩
  | deliver s m => exact ⟨deliver_unaided config a s m, rfl⟩
  | hold s m => exact ⟨rfl, rfl⟩
  | signal sig => cases hop

/-! ## The two side by side -/

/-- A relay and an assembler alone that differ in nothing but priority. -/
structure Mirrors (r : Relay) (a : Assembly) : Prop where
  limit : a.limit = r.assembly.limit
  alike : ∀ s, (r.strand s).Alike ((unaided r.config a).strand s)

theorem config_step (r : Relay) (op : Op) : (r.step op).after.config = r.config :=
  congrArg Setup.config (r.setup_step op)

theorem limit_step (r : Relay) (op : Op) : (r.step op).after.assembly.limit = r.assembly.limit :=
  congrArg Setup.limit (r.setup_step op)

variable {r : Relay} {a : Assembly} {op : Op}

/-- What an operation other than a signal does to its stream differs in nothing but priority. -/
theorem Mirrors.effect (h : r.Mirrors a) (hop : op.isSignal = false) :
    ((r.strand op.stream).step r.setup op).Alike
      (((unaided r.config a).strand op.stream).step (unaided r.config a).setup op) := by
  have hc : (unaided r.config a).setup.config = r.setup.config := rfl
  exact (h.alike op.stream).step hc h.limit hop

theorem Mirrors.failure (h : r.Mirrors a) (hop : op.isSignal = false) :
    (r.step op).failure = (a.answer r.config.validate op).2.map .rejected := by
  rw [← (step_unaided r.config a hop).failure, (r.step_shows op).failure, (step_shows _ op).failure]
  exact (h.effect hop).failure

/-- A relay and an assembler alone still differ in nothing but priority after one more operation. -/
theorem Mirrors.step (h : r.Mirrors a) (op : Op) : (r.step op).after.Mirrors (a.answer r.config.validate op).1 := by
  cases hop : op.isSignal with
  | true =>
    obtain ⟨sig, rfl⟩ := Op.exists_eq_signal hop
    refine ⟨h.limit.trans (r.limit_step _).symm, fun s => ?_⟩
    rw [config_step]
    by_cases hs : (Op.signal sig).stream = s
    · rw [strand_step r hs]
      exact (h.alike s).signal r.setup sig
    · rw [strand_step_of_ne r hs]
      exact h.alike s
  | false =>
    have hafter := (step_unaided r.config a hop).after
    refine ⟨?_, fun s => ?_⟩
    · have hl : ((unaided r.config a).step op).after.assembly.limit = a.limit := limit_step _ op
      rw [hafter] at hl
      rw [limit_step]
      exact hl.trans h.limit
    · rw [config_step, ← hafter]
      by_cases hs : op.stream = s
      · subst hs
        rw [strand_step r rfl, strand_step _ rfl]
        exact (h.effect hop).after
      · rw [strand_step_of_ne r hs, strand_step_of_ne _ hs]
        exact h.alike s

/-- What an operation delivers, unless it delivers a message made of a record. -/
def passedOn (x : Relay × Op) : List (StreamId × Message) :=
  match x.2 with
  | .signal (.frame _) => []
  | op => x.1.deliveries op

/-- What is passed on differs from what an assembler alone delivers in nothing but priority. -/
theorem Mirrors.passedOn (h : r.Mirrors a) (op : Op) :
    (a.answer r.config.validate op).1.delivered.map (Prod.map id (Message.without · FieldName.isPriority)) =
      a.delivered.map (Prod.map id (Message.without · FieldName.isPriority)) ++
        (Relay.passedOn (r, op)).map (Prod.map id (Message.without · FieldName.isPriority)) := by
  cases hop : op.isSignal with
  | true =>
    obtain ⟨sig, rfl⟩ := Op.exists_eq_signal hop
    have hnone : Relay.passedOn (r, .signal sig) = [] := by
      cases sig with
      | moved n old => exact r.deliveries_eq _
      | reweighted n old => exact r.deliveries_eq _
      | frame f => rfl
    rw [hnone, List.map_nil, List.append_nil]
    rfl
  | false =>
    have hpassed : Relay.passedOn (r, op) = r.deliveries op := by
      cases op with
      | signal sig => cases hop
      | _ => rfl
    have hd : (a.answer r.config.validate op).1.delivered = a.delivered ++ (unaided r.config a).deliveries op := by
      have hstep := (unaided r.config a).delivered_step op
      rw [(step_unaided r.config a hop).after] at hstep
      exact hstep
    rw [hd, hpassed, List.map_append, deliveries_eq, deliveries_eq, Option.map_toList_pair, Option.map_toList_pair,
      (h.effect hop).delivered]

/-- Along a run, a relay and an assembler alone differ in nothing but priority, and so does what they deliver. -/
theorem Mirrors.run (h : r.Mirrors a) (ops : List Op) :
    (r.run ops).Mirrors (a.run r.config.validate ops) ∧
      (a.run r.config.validate ops).delivered.map (Prod.map id (Message.without · FieldName.isPriority)) =
        a.delivered.map (Prod.map id (Message.without · FieldName.isPriority)) ++
          ((r.met ops).flatMap Relay.passedOn).map (Prod.map id (Message.without · FieldName.isPriority)) := by
  induction ops generalizing r a with
  | nil => exact ⟨h, by simp [met, Assembly.run]⟩
  | cons op ops ih =>
    obtain ⟨hm, hd⟩ := ih (h.step op)
    rw [config_step] at hm hd
    refine ⟨hm, ?_⟩
    rw [Assembly.run_cons, hd, h.passedOn op, met, List.flatMap_cons, List.map_append, List.append_assoc]

theorem mirrors_new (config : Config) (limit : Option SizeLimit) (refusesNew : Bool) :
    (new config limit refusesNew).Mirrors { limit } :=
  ⟨rfl, fun _ => Strand.alike_empty⟩

/-- But for the two fields that tell priority, a relay does with messages exactly what its assembler does alone. After
every run, blocks and content are taken by both or rejected by both for the same reason, both have messages under way for
the same streams, and these are the same in all but the two fields; and so are, in their order, the messages that were
delivered, but for those that are made of records. -/
theorem transparent (config : Config) (limit : Option SizeLimit) (refusesNew : Bool) (ops : List Op) :
    let r := (new config limit refusesNew).run ops
    let a := ({ limit } : Assembly).run config.validate ops
    let bare (m : Message) := m.without FieldName.isPriority
    (∀ s b last, (r.step (.block s b last)).failure =
      (a.answer config.validate (.block s b last)).2.map .rejected) ∧
    (∀ s octets last, (r.step (.data s octets last)).failure =
      (a.answer config.validate (.data s octets last)).2.map .rejected) ∧
    (∀ s, (r.assembly.live.get? s).map bare = (a.live.get? s).map bare) ∧
    (((new config limit refusesNew).met ops).flatMap passedOn).map (Prod.map id bare) =
      a.delivered.map (Prod.map id bare) := by
  intro r a bare
  obtain ⟨hm, hd⟩ := (mirrors_new config limit refusesNew).run ops
  have hc : r.config = config := congrArg Setup.config (setup_run _ ops)
  have hfailure : ∀ op, op.isSignal = false → (r.step op).failure = (a.answer config.validate op).2.map .rejected := by
    intro op hop
    rw [← hc]
    exact hm.failure hop
  exact ⟨fun s b last => hfailure _ rfl, fun s octets last => hfailure _ rfl, fun s => (hm.alike s).live, hd.symm⟩

end Relay

end StreamPriority
