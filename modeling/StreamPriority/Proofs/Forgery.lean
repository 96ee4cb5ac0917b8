import Mathlib.Data.List.Find
import StreamPriority.Proofs.Overlay

/-!
# What a peer can forge

Nothing keeps a peer from writing the fields that tell priority into its blocks itself. What comes of that is said for two
runs whose blocks differ only in fields under some names. Such fields reach no record, make nothing fail, and change no
entry under another name; and a field under a name that the record of its stream holds leaves no trace at all, since the
record is laid over the block (`Relay.step_without`). Without such a record, the field is delivered like one that was told.
-/

namespace StreamPriority

variable {p : FieldName → Bool}

/-- The fields under some names are valid. -/
def Fields.ValidIn (p : FieldName → Bool) (fs : Fields) : Prop :=
  ∀ f ∈ fs.entries, p f.name = true → f.Valid

instance (p : FieldName → Bool) (fs : Fields) : Decidable (fs.ValidIn p) :=
  inferInstanceAs (Decidable (∀ _ ∈ _, _ → _))

namespace Op

/-- The operation with the fields of its block under all other names. -/
def without (op : Op) (p : FieldName → Bool) : Op :=
  match op with
  | .block s b last => .block s (b.without p) last
  | op => op

/-- The fields of the block that an operation reads, if it reads one. -/
def fields : Op → Fields
  | .block _ b _ => b.fields
  | _ => .empty

@[simp] theorem stream_without (op : Op) (p : FieldName → Bool) : (op.without p).stream = op.stream := by
  cases op <;> rfl

end Op

/-! ## Blocks -/

/-- Leaving out valid fields, a block is checked with the same result. -/
theorem Fields.firstInvalid?_without {fs : Fields} (h : fs.ValidIn p) :
    (fs.without p).firstInvalid? = fs.firstInvalid? := by
  rw [firstInvalid?, firstInvalid?, entries_without, List.find?_filter]
  apply List.find?_congr
  intro f hf
  cases hp : p f.name with
  | true => simp [f.isValid_iff.mpr (h f hf hp)]
  | false => simp

/-- Leaving out valid fields, a block opens the same message without them, or is rejected for the same reason. -/
theorem Message.ofBlock_without (s : StreamId) {b : Block} (h : b.fields.ValidIn p) (validate : Bool) :
    ofBlock s (b.without p) validate = (ofBlock s b validate).map (·.without p) := by
  have hhead : Head.ofBlock s (b.without p) = Head.ofBlock s b := rfl
  have hcheck : (b.without p).fields.check s = b.fields.check s := by
    unfold Fields.check
    rw [Block.without, Fields.firstInvalid?_without h]
  unfold ofBlock
  rw [hhead, hcheck]
  cases Head.ofBlock s b with
  | error why => rfl
  | ok head =>
    cases validate with
    | false => rfl
    | true => cases b.fields.check s <;> rfl

/-! ## Strands that differ under some names -/

/-- Two strands with the same record, whose messages under way differ only under some names. -/
structure Strand.SameBut (p : FieldName → Bool) (k k' : Strand) : Prop where
  live : k.live.map (·.without p) = k'.live.map (·.without p)
  record : k.record = k'.record

/-- Two effects that differ only under some names. -/
structure Effect.SameBut (p : FieldName → Bool) (e e' : Effect) : Prop where
  after : e.after.SameBut p e'.after
  failure : e.failure = e'.failure
  delivered : e.delivered.map (·.without p) = e'.delivered.map (·.without p)

namespace Strand

variable {k k' : Strand} {m m' : Message}

theorem SameBut.refl (p : FieldName → Bool) (k : Strand) : k.SameBut p k :=
  ⟨rfl, rfl⟩

theorem SameBut.symm (h : k.SameBut p k') : k'.SameBut p k :=
  ⟨h.live.symm, h.record.symm⟩

theorem SameBut.trans {k'' : Strand} (h : k.SameBut p k') (h' : k'.SameBut p k'') : k.SameBut p k'' :=
  ⟨h.live.trans h'.live, h.record.trans h'.record⟩

theorem SameBut.effectRefl (p : FieldName → Bool) (e : Effect) : e.SameBut p e :=
  ⟨SameBut.refl p _, rfl, rfl⟩

/-- Two such strands are equal, or both have a message under way. -/
theorem SameBut.cases (h : k.SameBut p k') :
    (k = k' ∧ k.live = none) ∨
      ∃ m m', k.live = some m ∧ k'.live = some m' ∧ m.without p = m'.without p := by
  obtain ⟨live, record⟩ := k
  obtain ⟨live', record'⟩ := k'
  obtain ⟨hlive, rfl⟩ := h
  rcases Option.cases_of_map_eq hlive with ⟨rfl, rfl⟩ | ⟨m, m', rfl, rfl, hm⟩
  · exact Or.inl ⟨rfl, rfl⟩
  · exact Or.inr ⟨m, m', rfl, rfl, hm⟩

theorem SameBut.withLive (h : k.SameBut p k') (hm : m.without p = m'.without p) :
    SameBut p { k with live := some m } { k' with live := some m' } :=
  ⟨congrArg some hm, h.record⟩

theorem SameBut.dress (h : k.SameBut p k') (hm : m.without p = m'.without p) :
    (k.dress m).without p = (k'.dress m').without p := by
  cases hr : k.record with
  | none => rw [dress_eq_self hr, dress_eq_self (h.record ▸ hr), hm]
  | some record =>
    rw [dress_eq_overlay hr, dress_eq_overlay (h.record ▸ hr), Message.without_overlay, Message.without_overlay, hm]

theorem SameBut.delivering (h : k.SameBut p k') (hm : m.without p = m'.without p) :
    (k.delivering m).SameBut p (k'.delivering m') :=
  ⟨SameBut.refl p _, rfl, congrArg some (h.dress hm)⟩

theorem SameBut.taken (h : k.SameBut p k') (hm : m.without p = m'.without p) (last : Bool) :
    (k.taken last m).SameBut p (k'.taken last m') := by
  cases last with
  | true => exact h.delivering hm
  | false => exact ⟨h.withLive hm, rfl, rfl⟩

theorem SameBut.refused (h : k.SameBut p k') (why : Rejection) : (k.refused why).SameBut p (k'.refused why) :=
  ⟨h, rfl, rfl⟩

theorem SameBut.told (h : k.SameBut p k') (fs : Fields) : (k.told fs).SameBut p (k'.told fs) := by
  rcases h.cases with ⟨rfl, -⟩ | ⟨m, m', hl, hl', hm⟩
  · exact SameBut.refl p _
  · refine ⟨?_, ?_⟩
    · simp only [Strand.told, hl, hl', Option.map_some, Message.without_overlay, hm]
    · simp only [Strand.told, hl, hl', h.record]

theorem SameBut.stripped (h : k.SameBut p k') (q : Parent) : (k.stripped q).SameBut p (k'.stripped q) := by
  rcases h.cases with ⟨rfl, -⟩ | ⟨m, m', hl, hl', hm⟩
  · exact SameBut.refl p _
  · refine ⟨?_, ?_⟩
    · simp only [Strand.stripped, hl, hl', Option.map_some, Message.without_strippedAt, hm]
    · simp only [Strand.stripped, h.record]

theorem SameBut.moved (h : k.SameBut p k') (q : Parent) : (k.moved q).SameBut p (k'.moved q) := by
  unfold Strand.moved
  cases q.dependency with
  | some d => exact h.told _
  | none => exact h.stripped q

/-- What two such strands make of a block with and without valid fields is the same but for them. -/
theorem SameBut.takeBlock (h : k.SameBut p k') (c : Setup) (s : StreamId) {b : Block} (hb : b.fields.ValidIn p) :
    (k.takeBlock c s b).map (·.without p) = (k'.takeBlock c s (b.without p)).map (·.without p) := by
  have hself : (b.without p).fields.without p = b.fields.without p := by
    apply Fields.without_eq_self
    intro f hf
    simpa using (List.mem_filter.mp hf).2
  unfold Strand.takeBlock
  rcases h.cases with ⟨rfl, hl⟩ | ⟨m, m', hl, hl', hm⟩
  · simp only [hl]
    rw [Message.ofBlock_without s hb]
    cases hm : Message.ofBlock s b c.config.validate with
    | error why => rfl
    | ok m =>
      have hm' : (m.without p).without p = m.without p := by
        rw [Message.eq_of_ofBlock hm]
        simp only [Message.without, Message.modifyBoth]
        exact congrArg (fun fs => ({ head := m.head, headers := fs } : Message)) hself
      exact congrArg Except.ok hm'.symm
  · simp only [hl, hl', Except.map, Message.without_overlay, hm, hself]

theorem SameBut.takeData (h : k.SameBut p k') (c : Setup) (s : StreamId) (data : List UInt8) :
    (k.takeData c s data).map (·.without p) = (k'.takeData c s data).map (·.without p) := by
  rcases h.cases with ⟨rfl, -⟩ | ⟨m, m', hl, hl', hm⟩
  · rfl
  · have hcontent : m.content = m'.content := by
      rw [← m.content_without p, hm, m'.content_without p]
    simp only [Strand.takeData, hl, hl', hcontent]
    split
    · rfl
    · simp only [Except.map, Message.without_append, hm]

/-- An operation with valid fields under some names has on one strand the effect that it has without them on the other. -/
theorem SameBut.step (h : k.SameBut p k') (c : Setup) {op : Op} (hop : op.fields.ValidIn p) :
    (k.step c op).SameBut p (k'.step c (op.without p)) := by
  cases op with
  | block s b last =>
    simp only [Strand.step, Op.without]
    rcases Except.cases_of_map_eq (h.takeBlock c s hop) with ⟨why, hk, hk'⟩ | ⟨m, m', hk, hk', hm⟩
    · simp only [hk, hk']
      exact h.refused why
    · simp only [hk, hk']
      exact h.taken (h.dress hm) last
  | data s octets last =>
    simp only [Strand.step, Op.without]
    rcases Except.cases_of_map_eq (h.takeData c s octets) with ⟨why, hk, hk'⟩ | ⟨m, m', hk, hk', hm⟩
    · simp only [hk, hk']
      exact h.refused why
    · simp only [hk, hk']
      exact h.taken hm last
  | remove s => exact SameBut.effectRefl p _
  | announce s =>
    rcases h.cases with ⟨rfl, -⟩ | ⟨m, m', hl, hl', hm⟩
    · exact SameBut.effectRefl p _
    · refine ⟨?_, rfl, rfl⟩
      show k.announce.SameBut p k'.announce
      rw [announce_of_some hl, announce_of_some hl']
      exact h.withLive (h.dress hm)
  | deliver s m => exact h.delivering rfl
  | hold s m => exact ⟨h.withLive rfl, rfl, rfl⟩
  | signal sig =>
    cases sig with
    | moved n old => exact ⟨h.moved n.parent, rfl, rfl⟩
    | reweighted n old => exact ⟨h.told _, rfl, rfl⟩
    | frame f =>
      rcases h.cases with ⟨rfl, -⟩ | ⟨m, m', hl, hl', -⟩
      · exact SameBut.effectRefl p _
      · simp only [Strand.step, Op.without, readFrame, hl, hl']
        exact ⟨h, rfl, rfl⟩

end Strand

/-! ## Runs that differ under some names -/

namespace Relay

/-- Two relays whose strands and deliveries differ only under some names. -/
structure SameBut (p : FieldName → Bool) (r q : Relay) : Prop where
  setup : r.setup = q.setup
  strand : ∀ s, (r.strand s).SameBut p (q.strand s)
  delivered : r.assembly.delivered.map (Prod.map id (·.without p)) = q.assembly.delivered.map (Prod.map id (·.without p))

variable {r q : Relay} {op : Op}

theorem SameBut.refl (p : FieldName → Bool) (r : Relay) : r.SameBut p r :=
  ⟨rfl, fun _ => Strand.SameBut.refl p _, rfl⟩

theorem SameBut.symm (h : r.SameBut p q) : q.SameBut p r :=
  ⟨h.setup.symm, fun s => (h.strand s).symm, h.delivered.symm⟩

theorem SameBut.trans {q' : Relay} (h : r.SameBut p q) (h' : q.SameBut p q') : r.SameBut p q' :=
  ⟨h.setup.trans h'.setup, fun s => (h.strand s).trans (h'.strand s), h.delivered.trans h'.delivered⟩

theorem SameBut.effect (h : r.SameBut p q) (hop : op.fields.ValidIn p) :
    ((r.strand op.stream).step r.setup op).SameBut p ((q.strand op.stream).step q.setup (op.without p)) := by
  rw [← h.setup]
  exact (h.strand op.stream).step r.setup hop

theorem SameBut.failure (h : r.SameBut p q) (hop : op.fields.ValidIn p) :
    (r.step op).failure = (q.step (op.without p)).failure := by
  rw [(r.step_shows op).failure, (q.step_shows _).failure, Op.stream_without]
  exact (h.effect hop).failure

theorem SameBut.step (h : r.SameBut p q) (hop : op.fields.ValidIn p) :
    (r.step op).after.SameBut p (q.step (op.without p)).after where
  setup := by rw [setup_step, setup_step, h.setup]
  strand s := by
    by_cases hs : op.stream = s
    · subst hs
      rw [strand_step r rfl, strand_step q (op.stream_without p)]
      exact (h.effect hop).after
    · rw [strand_step_of_ne r hs, strand_step_of_ne q (by rwa [Op.stream_without])]
      exact h.strand s
  delivered := by
    rw [delivered_step, delivered_step, List.map_append, List.map_append, h.delivered, deliveries_eq, deliveries_eq,
      Option.map_toList_pair, Option.map_toList_pair, Op.stream_without, (h.effect hop).delivered]

/-- Along a run with valid fields under some names and the run without them, the relays differ only under these names, and
the same operations fail for the same reasons. -/
theorem SameBut.run (h : r.SameBut p q) {ops : List Op} (hops : ∀ op ∈ ops, op.fields.ValidIn p) :
    (r.run ops).SameBut p (q.run (ops.map (·.without p))) ∧
      (r.trace ops).map (·.failure) = (q.trace (ops.map (·.without p))).map (·.failure) := by
  induction ops generalizing r q with
  | nil => exact ⟨h, rfl⟩
  | cons op ops ih =>
    have hop := hops op List.mem_cons_self
    obtain ⟨hrun, htrace⟩ := ih (h.step hop) fun o ho => hops o (List.mem_cons_of_mem op ho)
    refine ⟨hrun, ?_⟩
    rw [List.map_cons, trace, trace, List.map_cons, List.map_cons, htrace, h.failure hop]

/-! ## Names that a record holds -/

/-- The record of its stream holds every name under which an operation brings in one of some fields. -/
def Guarded (p : FieldName → Bool) (x : Relay × Op) : Prop :=
  ∀ f ∈ x.2.fields.entries, p f.name = true → (x.1.records.get? x.2.stream).any (·.contains f.name) = true

instance (p : FieldName → Bool) (x : Relay × Op) : Decidable (Guarded p x) :=
  inferInstanceAs (Decidable (∀ _ ∈ _, _ → _))

end Relay

/-- What is laid over fields may be left out where it is overlaid again. -/
theorem Fields.overlay_without_overlay {fs other record : Fields}
    (h : ∀ f ∈ other.entries, p f.name = true → record.contains f.name = true) :
    (fs.overlay (other.without p)).overlay record = (fs.overlay other).overlay record := by
  ext1
  simp only [entries_overlay, entries_without, List.filter_append, List.filter_filter]
  congr 2
  · apply List.filter_congr
    intro f _
    cases hr : record.contains f.name with
    | true => rfl
    | false =>
      have hc : (other.without p).contains f.name = other.contains f.name := by
        rw [contains_without]
        cases hp : p f.name with
        | false => rfl
        | true =>
          -- Another entry under this name would be one that the record holds.
          rw [Bool.not_true, Bool.false_and, eq_comm, Bool.eq_false_iff]
          intro ho
          obtain ⟨g, hg, hn⟩ := (contains_iff other f.name).mp ho
          have hheld := h g hg (by rw [hn, hp])
          rw [hn, hr] at hheld
          cases hheld
      rw [hc]
  · apply List.filter_congr
    intro f hf
    cases hr : record.contains f.name with
    | true => rfl
    | false =>
      cases hp : p f.name with
      | false => rfl
      | true =>
        rw [h f hf hp] at hr
        cases hr

/-- Where the record holds the names, what is laid over fields may be left out before the record is laid over them. -/
theorem Records.layOver_without {records : Records} {s : StreamId} {other : Fields}
    (h : ∀ f ∈ other.entries, p f.name = true → (records.get? s).any (·.contains f.name) = true) (fs : Fields) :
    records.layOver s (fs.overlay (other.without p)) = records.layOver s (fs.overlay other) := by
  cases hr : records.get? s with
  | none =>
    have hself : other.without p = other := by
      apply Fields.without_eq_self
      intro f hf
      cases hp : p f.name with
      | false => rfl
      | true =>
        have hheld := h f hf hp
        rw [hr] at hheld
        cases hheld
    rw [hself]
  | some record =>
    have hlay : records.layOver s = (·.overlay record) := by
      funext gs
      rw [layOver, ← get?, hr]
    rw [hlay]
    refine Fields.overlay_without_overlay fun f hf hp => ?_
    have hheld := h f hf hp
    rwa [hr] at hheld

namespace Relay

/-- A message that was put in is dressed at once. -/
theorem announce_hold (r : Relay) (s : StreamId) (m : Message) :
    announce { r with assembly := r.assembly.hold s m } s =
      { r with assembly := r.assembly.hold s (m.modifyActive (r.records.layOver s)) } := by
  unfold announce
  rw [Assembly.adjust_hold]

/-- Fields under names that the record of the stream holds make no difference at all, if they are valid: the operation
leaves the same relay without them, with the same result and the same notes. -/
theorem step_without {r : Relay} {op : Op} (hg : Guarded p (r, op)) (hop : op.fields.ValidIn p) :
    r.step (op.without p) = r.step op := by
  cases op with
  | block s b last =>
    have hlay : ∀ fs : Fields, r.records.layOver s (fs.overlay (b.without p).fields) =
        r.records.layOver s (fs.overlay b.fields) :=
      Records.layOver_without hg
    simp only [Op.without, step, readBlock, Assembly.takeBlock]
    cases r.assembly.live.get? s with
    | some m => simp only [afterBlock, announce_hold, Message.modifyActive_modifyActive, hlay]
    | none =>
      simp only [Message.ofBlock_without s hop]
      cases hm : Message.ofBlock s b r.config.validate with
      | error why => rfl
      | ok m =>
        have hm' : (m.without p).modifyActive (r.records.layOver s) = m.modifyActive (r.records.layOver s) := by
          have hopen := hlay .empty
          rw [Fields.empty_overlay, Fields.empty_overlay] at hopen
          rw [Message.eq_of_ofBlock hm]
          exact congrArg (fun fs => ({ head := m.head, headers := fs } : Message)) hopen
        simp only [Except.map, afterBlock, announce_hold, hm']
  | _ => rfl

/-- Along a run, fields under names that the records hold make no difference. -/
theorem run_without {r : Relay} {ops : List Op} (hg : ∀ x ∈ r.met ops, Guarded p x)
    (hops : ∀ op ∈ ops, op.fields.ValidIn p) : r.run (ops.map (·.without p)) = r.run ops := by
  induction ops generalizing r with
  | nil => rfl
  | cons op ops ih =>
    rw [List.map_cons, run_cons, run_cons, step_without (hg (r, op) List.mem_cons_self) (hops op List.mem_cons_self)]
    exact ih (fun x hx => hg x (List.mem_cons_of_mem _ hx)) fun o ho => hops o (List.mem_cons_of_mem op ho)

/-! ## Two runs -/

/-- Two runs whose blocks differ only in valid fields under some names differ in nothing but what stands under these names:
the same operations fail for the same reasons, the records are the same, and so are the messages under way and delivered but
for these names. If the records hold the names wherever such fields come in, the runs leave the same relay. -/
theorem forged_fields_confined (config : Config) (limit : Option SizeLimit) (refusesNew : Bool) (p : FieldName → Bool)
    (ops ops' : List Op) (hsame : ops.map (·.without p) = ops'.map (·.without p))
    (hvalid : ∀ op ∈ ops ++ ops', op.fields.ValidIn p) :
    let r := new config limit refusesNew
    (r.run ops).SameBut p (r.run ops') ∧
      (r.trace ops).map (·.failure) = (r.trace ops').map (·.failure) ∧
      ((∀ x ∈ r.met ops ++ r.met ops', Guarded p x) → r.run ops = r.run ops') := by
  intro r
  have hops : ∀ op ∈ ops, op.fields.ValidIn p := fun op hop => hvalid op (List.mem_append_left _ hop)
  have hops' : ∀ op ∈ ops', op.fields.ValidIn p := fun op hop => hvalid op (List.mem_append_right _ hop)
  obtain ⟨hrun, htrace⟩ := (SameBut.refl p r).run hops
  obtain ⟨hrun', htrace'⟩ := (SameBut.refl p r).run hops'
  rw [hsame] at hrun htrace
  refine ⟨hrun.trans hrun'.symm, htrace.trans htrace'.symm, fun hg => ?_⟩
  calc r.run ops
      = r.run (ops.map (·.without p)) := (run_without (fun x hx => hg x (List.mem_append_left _ hx)) hops).symm
    _ = r.run (ops'.map (·.without p)) := by rw [hsame]
    _ = r.run ops' := run_without (fun x hx => hg x (List.mem_append_right _ hx)) hops'

/-- A stream that was moved and given a weight before its request, in which the peer writes both fields itself. -/
def guardedRun (forged : String) : List Op :=
  let s : StreamId := ⟨3⟩
  [.signal (.moved { id := s, parent := .stream ⟨5⟩ } .root), .signal (.reweighted { id := s, weight := .max } .default),
    .block s (Block.plainRequest.build
      [.field "X-HTTP2-Stream-Dependency-Id" forged, .field "x-http2-stream-weight" forged]) true]

/-- Whatever the peer writes there, the message that is delivered tells what was heard. -/
theorem forged_fields_confined_guardedRun :
    let r := new {} none false
    (guardedRun "7").map (·.without FieldName.isPriority) = (guardedRun "9").map (·.without FieldName.isPriority) ∧
      (∀ op ∈ guardedRun "7" ++ guardedRun "9", op.fields.ValidIn FieldName.isPriority) ∧
      (∀ x ∈ r.met (guardedRun "7") ++ r.met (guardedRun "9"), Guarded FieldName.isPriority x) ∧
      r.run (guardedRun "7") = r.run (guardedRun "9") ∧
      (r.run (guardedRun "7")).assembly.delivered.map
        (fun d => (d.2.headers.values .dependency, d.2.headers.values .weight)) = [(["5"], ["256"])] := by
  intro r
  have hsame : (guardedRun "7").map (·.without FieldName.isPriority) =
      (guardedRun "9").map (·.without FieldName.isPriority) := by decide
  have hvalid : ∀ op ∈ guardedRun "7" ++ guardedRun "9", op.fields.ValidIn FieldName.isPriority := by decide
  have hg : ∀ x ∈ r.met (guardedRun "7") ++ r.met (guardedRun "9"), Guarded FieldName.isPriority x := by decide
  have hrun : r.run (guardedRun "7") = r.run (guardedRun "9") :=
    (forged_fields_confined {} none false FieldName.isPriority (guardedRun "7") (guardedRun "9") hsame hvalid).2.2 hg
  exact ⟨hsame, hvalid, hg, hrun, by decide⟩

/-- A request with fields, which is the only thing on its stream. -/
def soleRequest (steps : List Block.Step) : List Op :=
  [.block ⟨1⟩ (Block.plainRequest.build steps) true]

/-- Without a record, a weight that the peer writes is delivered like one that was heard. -/
theorem forged_weight :
    let r := new {} none false
    let forged := soleRequest [.field "x-http2-stream-weight" "7"]
    let plain := soleRequest []
    forged.map (·.without FieldName.isPriority) = plain.map (·.without FieldName.isPriority) ∧
      (∀ op ∈ forged ++ plain, op.fields.ValidIn FieldName.isPriority) ∧
      (r.run forged).assembly.delivered.map (fun d => d.2.headers.values .weight) = [["7"]] ∧
      (r.run plain).assembly.delivered.map (fun d => d.2.headers.values .weight) = [[]] := by
  decide

end Relay

end StreamPriority
