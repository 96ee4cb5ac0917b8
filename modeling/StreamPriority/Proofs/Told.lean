import StreamPriority.Proofs.Coherence

/-!
# What was told is what is delivered

`Relay.told` follows a run and keeps, for one stream, what the tree last told of its priority: the stream it depends on
and its weight. It looks at the signals and at whether the stream came to an end, and at nothing the relay holds. The relay
itself keeps that in up to four places: in the record, before the content of the message, after it, and in a message made
of the record. Its invariant is that together these tell the same (`Strand.Tells`); so a message is delivered with exactly
what was told, unless the peer writes the two fields itself.
-/

namespace StreamPriority

/-- Whether an operation reads a block that has a field which tells priority. -/
def Op.carriesPriority : Op → Bool
  | .block _ b _ => b.fields.entries.any (·.name.isPriority)
  | _ => false

/-- Whether an operation is the delivery of a message that was put together elsewhere. -/
def Op.isDeliver : Op → Bool
  | .deliver _ _ => true
  | _ => false

/-- What was last told of the priority of a stream. -/
structure Told where
  dependency : Option StreamId := none
  weight : Option Weight := none
deriving DecidableEq

namespace Told

/-- What is told after a signal. -/
def hear (t : Told) : Signal → Told
  | .moved n _ =>
    match n.parent with
    | .stream d => { t with dependency := some d }
    | .root => { t with dependency := none }
    | .none => {}
  | .reweighted n _ => { t with weight := some n.weight }
  | .frame _ => t

/-- What is told under the names of the two fields. -/
def values (t : Told) (n : FieldName) : List String :=
  if n = .dependency then (t.dependency.map StreamId.text).toList
  else if n = .weight then (t.weight.map Weight.text).toList
  else []

/-- What is told after an operation: nothing any more if that ended the stream, and otherwise what a signal says. -/
def next (t : Told) (op : Op) (ended : Bool) : Told :=
  if ended then {}
  else
    match op with
    | .signal sig => t.hear sig
    | _ => t

end Told

/-- Whether an operation ends its stream: it delivers a message, gives the stream up, or is a PRIORITY frame for which no
message could be made. -/
def Op.ends (op : Op) (delivers : Bool) (failure : Option Failure) : Bool :=
  delivers ||
    match op, failure with
    | .remove _, _ => true
    | .signal (.frame _), some (.rejected _) => true
    | _, _ => false

/-- Whether an operation ends its stream, seen from its effect. -/
def Effect.ends (e : Effect) (op : Op) : Bool :=
  op.ends e.delivered.isSome e.failure

namespace Relay

/-- Whether an operation ends its stream, seen from the relay that answers it. -/
def ends (r : Relay) (op : Op) : Bool :=
  op.ends (!(r.deliveries op).isEmpty) (r.step op).failure

/-- What is told of a stream after a run, given what was told before. -/
def told (r : Relay) (s : StreamId) (t : Told) : List Op → Told
  | [] => t
  | op :: ops => told (r.step op).after s (if op.stream = s then t.next op (r.ends op) else t) ops

end Relay

/-! ## What a strand tells -/

/-- Each of the two fields stands at most once before the content, and at most once after it. -/
def Message.TellsOnce (m : Message) : Prop :=
  ∀ p n, n.isPriority = true → ((m.fields p).values n).length ≤ 1

theorem Message.TellsOnce.modify {m : Message} (h : m.TellsOnce) {f : Fields → Fields}
    (hf : ∀ fs : Fields, ∀ n, n.isPriority = true → (fs.values n).length ≤ 1 → ((f fs).values n).length ≤ 1) (p : Part) :
    (m.modify p f).TellsOnce := by
  intro q n hn
  by_cases hq : p = q
  · subst hq
    rw [fields_modify_self]
    exact hf _ n hn (h p n hn)
  · rw [fields_modify_of_ne m hq]
    exact h q n hn

theorem Message.TellsOnce.overlay {m : Message} (h : m.TellsOnce) {fs : Fields}
    (hfs : ∀ n, n.isPriority = true → (fs.values n).length ≤ 1) : (m.modifyActive (·.overlay fs)).TellsOnce := by
  apply h.modify
  intro fs' n hn hle
  rw [Fields.values_overlay]
  split
  · exact hfs n hn
  · exact hle

theorem Message.TellsOnce.stripped {m : Message} (h : m.TellsOnce) (p : Parent) :
    (m.modifyBoth (·.strippedAt p)).TellsOnce := by
  have hle : ∀ q n, n.isPriority = true → (((m.fields q).strippedAt p).values n).length ≤ 1 := by
    intro q n hn
    rw [Fields.values_strippedAt]
    split
    · simp
    · exact h q n hn
  intro q n hn
  cases q with
  | headers => exact hle .headers n hn
  | trailing => exact hle .trailing n hn

namespace Strand

/-- What a strand tells under a name: its message, or its record as long as there is none. -/
def values (k : Strand) (n : FieldName) : List String :=
  match k.live, k.record with
  | some m, _ => m.effective n
  | none, some record => record.values n
  | none, none => []

/-- A strand tells what was told, and its message tells nothing twice. -/
structure Tells (k : Strand) (t : Told) : Prop where
  coherent : k.Coherent
  values_eq : ∀ n, n.isPriority = true → k.values n = t.values n
  once : ∀ m, k.live = some m → m.TellsOnce

theorem tells_empty : ({} : Strand).Tells {} where
  coherent := coherent_empty
  values_eq n _ := by
    show [] = Told.values {} n
    simp [Told.values]
  once _ h := nomatch h

/-- What a strand tells after it was told a single field. -/
theorem values_told_single {k : Strand} (h : k.Coherent) (n m : FieldName) (v : String) :
    (k.told (.single n v)).values m = if n = m then [v] else k.values m := by
  obtain ⟨live, record⟩ := k
  cases live with
  | some msg =>
    have hm := Message.effective_overlay (h.inPhase msg rfl) (.single n v) m
    rw [Fields.contains_single, Fields.values_single] at hm
    by_cases hnm : n = m <;> simpa [told, values, hnm] using hm
  | none =>
    cases record with
    | some record =>
      have hm := Fields.values_overlay record (.single n v) m
      rw [Fields.contains_single, Fields.values_single] at hm
      by_cases hnm : n = m <;> simpa [told, values, hnm] using hm
    | none => exact Fields.values_single n m v

/-- What a strand tells after it was stripped. -/
theorem values_stripped (k : Strand) (p : Parent) (n : FieldName) :
    (k.stripped p).values n = if p.strips n then [] else k.values n := by
  obtain ⟨live, record⟩ := k
  cases live with
  | some m => exact Message.effective_strippedAt m p n
  | none =>
    cases record with
    | some record => exact Fields.values_strippedAt record p n
    | none => simp [stripped, values]

theorem Tells.told_single {k : Strand} {t t' : Told} (h : k.Tells t) {n : FieldName} (hn : n.isPriority = true)
    (v : String) (ht : ∀ m, t'.values m = if n = m then [v] else t.values m) : (k.told (.single n v)).Tells t' where
  coherent := h.coherent.told (Fields.isRecord_single hn v)
  values_eq m hm := by
    rw [values_told_single h.coherent, ht, h.values_eq m hm]
  once m hm := by
    obtain ⟨m₀, hm₀, rfl⟩ := Option.map_eq_some_iff.mp hm
    exact (h.once m₀ hm₀).overlay fun m _ => (Fields.isRecord_single hn v).once m

theorem Tells.stripped {k : Strand} {t t' : Told} (h : k.Tells t) (p : Parent)
    (ht : ∀ n, t'.values n = if p.strips n then [] else t.values n) : (k.stripped p).Tells t' where
  coherent := h.coherent.stripped p
  values_eq n hn := by
    rw [values_stripped, ht, h.values_eq n hn]
  once m hm := by
    obtain ⟨m₀, hm₀, rfl⟩ := Option.map_eq_some_iff.mp hm
    exact (h.once m₀ hm₀).stripped p

/-- A strand that was moved tells the new place. -/
theorem Tells.moved {k : Strand} {t : Told} (h : k.Tells t) (n : Node) (old : Parent) :
    (k.moved n.parent).Tells (t.hear (.moved n old)) := by
  cases hp : n.parent with
  | stream d =>
    apply h.told_single FieldName.isPriority_dependency d.text
    intro m
    by_cases hm : m = .dependency
    · simp [Told.hear, hp, Told.values, hm]
    · simp [Told.hear, hp, Told.values, hm, Ne.symm hm]
  | root =>
    apply h.stripped .root
    intro m
    by_cases hm : m = .dependency <;> simp [Told.hear, hp, Told.values, Parent.strips, hm]
  | none =>
    apply h.stripped .none
    intro m
    by_cases hm : m = .dependency <;> by_cases hw : m = .weight <;>
      simp [Told.hear, hp, Told.values, Parent.strips, FieldName.isPriority, hm, hw]

/-- A strand that was given a weight tells it. -/
theorem Tells.reweighted {k : Strand} {t : Told} (h : k.Tells t) (n : Node) (old : Weight) :
    (k.told (.ofWeight n.weight)).Tells (t.hear (.reweighted n old)) := by
  apply h.told_single FieldName.isPriority_weight n.weight.text
  intro m
  by_cases hm : m = .weight
  · simp [Told.hear, Told.values, hm, FieldName.dependency_ne_weight.symm]
  · simp [Told.hear, Told.values, hm, Ne.symm hm]

/-- What a record holds, its strand tells. -/
theorem Coherent.values_eq_of_contains {k : Strand} (h : k.Coherent) {record : Fields} (hr : k.record = some record)
    {n : FieldName} (hn : record.contains n = true) : k.values n = record.values n := by
  cases hl : k.live with
  | some m => simpa only [values, hl] using h.agrees m record hl hr n hn
  | none => simp only [values, hl, hr]

/-- A message that is dressed by the record of a strand tells what the strand tells, once it does so under the names that
the record does not hold. -/
theorem Tells.dressed {k : Strand} {t : Told} (h : k.Tells t) {m : Message} (hm : m.InPhase) (honce : m.TellsOnce)
    (hv : ∀ n, n.isPriority = true → (∀ record, k.record = some record → record.contains n = false) →
      m.effective n = k.values n) :
    Tells { k with live := some (k.dress m) } t where
  coherent := Coherent.dressed h.coherent.proper hm
  values_eq n hn := by
    rw [← h.values_eq n hn]
    show (k.dress m).effective n = k.values n
    rw [effective_dress k hm]
    cases hr : k.record with
    | none => exact hv n hn fun _ he => by rw [hr] at he; cases he
    | some record =>
      simp only
      split
      · next hc => exact (h.coherent.values_eq_of_contains hr hc).symm
      · next hc => exact hv n hn fun _ he => by rw [hr] at he; cases he; simpa using hc
  once m' hm' := by
    cases hm'
    cases hr : k.record with
    | some record =>
      rw [dress_eq_overlay hr]
      exact honce.overlay fun n _ => (h.coherent.proper record hr).once n
    | none =>
      rw [dress_eq_self hr]
      exact honce

/-- Dressing the message of a strand changes nothing that the strand tells. -/
theorem Tells.dress {k : Strand} {t : Told} (h : k.Tells t) {m : Message} (hm : k.live = some m) :
    Tells { k with live := some (k.dress m) } t :=
  h.dressed (h.coherent.inPhase m hm) (h.once m hm) fun n _ _ => by simp only [values, hm]

/-- A block without the two fields leaves a message that tells what the strand tells. -/
theorem Tells.takeBlock {k : Strand} {t : Told} (h : k.Tells t) {c : Setup} {s : StreamId} {b : Block} {m : Message}
    (hb : ∀ n, n.isPriority = true → b.fields.values n = []) (hm : k.takeBlock c s b = .ok m) :
    Tells { k with live := some (k.dress m) } t := by
  have hin := h.coherent.inPhase_takeBlock hm
  have honce : ∀ n, n.isPriority = true → (b.fields.values n).length ≤ 1 := fun n hn => by simp [hb n hn]
  unfold Strand.takeBlock at hm
  cases hl : k.live with
  | some m₀ =>
    simp only [hl] at hm
    cases hm
    apply h.dressed hin ((h.once m₀ hl).overlay honce)
    intro n hn _
    have hov := Message.effective_overlay (h.coherent.inPhase m₀ hl) b.fields n
    rw [(Fields.values_eq_nil_iff _ n).mp (hb n hn), if_neg Bool.false_ne_true] at hov
    simpa only [values, hl] using hov
  | none =>
    simp only [hl] at hm
    rw [Message.eq_of_ofBlock hm] at hin ⊢
    apply h.dressed hin
    · intro p n hn
      cases p with
      | headers => exact honce n hn
      | trailing => exact Nat.zero_le 1
    · intro n hn hnone
      have hnil : k.values n = [] := by
        cases hr : k.record with
        | none => simp only [values, hl, hr]
        | some record => simpa only [values, hl, hr] using (Fields.values_eq_nil_iff record n).mpr (hnone record hr)
      rw [hnil]
      exact hb n hn

/-- Content tells nothing. -/
theorem Tells.append {k : Strand} {t : Told} (h : k.Tells t) {m : Message} (hm : k.live = some m) (data : List UInt8) :
    Tells { k with live := some (m.append data) } t where
  coherent := h.coherent.append hm data
  values_eq n hn := by
    rw [← h.values_eq n hn]
    simp only [values, hm]
    exact Message.effective_append m data n
  once m' hm' := by
    cases hm'
    exact h.once m hm

/-- A strand delivers its message with exactly what was told. -/
theorem Tells.delivering {k : Strand} {t : Told} (h : k.Tells t) {m : Message} (hm : k.live = some m) :
    (k.dress m).TellsOnce ∧ ∀ n, n.isPriority = true → (k.dress m).effective n = t.values n :=
  ⟨(h.dress hm).once _ rfl, (h.dress hm).values_eq⟩

/-- A block whose fields are none of the two has no value under their names. -/
theorem values_eq_nil_of_carriesPriority {s : StreamId} {b : Block} {last : Bool}
    (h : (Op.block s b last).carriesPriority = false) : ∀ n, n.isPriority = true → b.fields.values n = [] := by
  intro n hn
  rw [Fields.values_eq_nil_iff, Bool.eq_false_iff]
  intro hc
  obtain ⟨f, hf, rfl⟩ := (Fields.contains_iff _ n).mp hc
  exact List.any_eq_false.mp h f hf hn

/-- The message that is made of a record tells exactly what was told. -/
theorem Tells.synthesis {k : Strand} {t : Told} (h : k.Tells t) (hl : k.live = none) {record : Fields}
    (hr : k.record = some record) {c : Setup} {s : StreamId} {m : Message} (hm : Strand.synthesis c s record = .ok m) :
    m.TellsOnce ∧ ∀ n, n.isPriority = true → m.effective n = t.values n := by
  unfold Strand.synthesis at hm
  split at hm
  · cases hm
  · rw [Message.eq_of_ofBlock hm, Block.fields_synthetic]
    refine ⟨fun p n _ => ?_, fun n hn => ?_⟩
    · cases p with
      | headers => exact (h.coherent.proper record hr).once n
      | trailing => exact Nat.zero_le 1
    · rw [← h.values_eq n hn]
      simp only [values, hl, hr]
      rfl

/-- The message that an operation delivers tells exactly what was told before, unless it was put together elsewhere. -/
theorem Tells.delivered_step {k : Strand} {t : Told} (h : k.Tells t) {c : Setup} {op : Op}
    (hc : op.carriesPriority = false) (hd : op.isDeliver = false) {m : Message} (hm : (k.step c op).delivered = some m) :
    m.TellsOnce ∧ ∀ n, n.isPriority = true → m.effective n = t.values n := by
  cases op with
  | block s b last =>
    rcases k.step_block_cases c s b last with ⟨why, -, he⟩ | ⟨m₀, hb, he⟩ <;> rw [he] at hm
    · cases hm
    · have ht := h.takeBlock (values_eq_nil_of_carriesPriority hc) hb
      obtain ⟨-, rfl⟩ := delivered_taken hm
      exact ht.delivering rfl
  | data s octets last =>
    rcases k.step_data_cases c s octets last with ⟨why, -, he⟩ | ⟨m₀, hl, -, he⟩ <;> rw [he] at hm
    · cases hm
    · have ht := h.append hl octets
      obtain ⟨-, rfl⟩ := delivered_taken hm
      exact ht.delivering rfl
  | remove s => cases hm
  | announce s => cases hm
  | deliver s m₀ => cases hd
  | hold s m₀ => cases hm
  | signal sig =>
    cases sig with
    | moved n old => cases hm
    | reweighted n old => cases hm
    | frame f =>
      have hm' : (k.readFrame c f.stream).delivered = some m := hm
      rcases k.readFrame_cases c f.stream with ⟨-, he⟩ | ⟨-, he⟩ | ⟨record, rfl, ⟨why, -, he⟩ | ⟨m₀, hs, he⟩⟩ <;>
        rw [he] at hm'
      · cases hm'
      · cases hm'
      · cases hm'
      · have hdress : m = m₀ := by
          rw [← Option.some.inj hm']
          exact dress_eq_self rfl m₀
        exact hdress ▸ h.synthesis rfl rfl hs

theorem Tells.taken {k : Strand} {t : Told} {m : Message} (h : Tells { k with live := some m } t) (last : Bool) :
    (k.taken last m).after.Tells (if last then {} else t) := by
  cases last with
  | true => exact tells_empty
  | false => exact h

/-- After an operation a strand tells what is told then. -/
theorem Tells.step {k : Strand} {t : Told} (h : k.Tells t) (c : Setup) {op : Op} (hop : op.isHold = false)
    (hc : op.carriesPriority = false) : (k.step c op).after.Tells (t.next op ((k.step c op).ends op)) := by
  cases op with
  | block s b last =>
    rcases k.step_block_cases c s b last with ⟨why, -, he⟩ | ⟨m, hb, he⟩ <;> rw [he]
    · exact h
    · have ht := (h.takeBlock (values_eq_nil_of_carriesPriority hc) hb).taken last
      cases last <;> exact ht
  | data s octets last =>
    rcases k.step_data_cases c s octets last with ⟨why, -, he⟩ | ⟨m, hl, -, he⟩ <;> rw [he]
    · exact h
    · have ht := (h.append hl octets).taken last
      cases last <;> exact ht
  | remove s => exact tells_empty
  | announce s =>
    show k.announce.Tells t
    cases hl : k.live with
    | none =>
      rw [announce_of_none hl]
      exact h
    | some m =>
      rw [announce_of_some hl]
      exact h.dress hl
  | deliver s m => exact tells_empty
  | hold s m => cases hop
  | signal sig =>
    cases sig with
    | moved n old => exact h.moved n old
    | reweighted n old => exact h.reweighted n old
    | frame f =>
      show (k.readFrame c f.stream).after.Tells (t.next _ ((k.readFrame c f.stream).ends _))
      rcases k.readFrame_cases c f.stream with ⟨-, he⟩ | ⟨-, he⟩ | ⟨record, -, ⟨why, -, he⟩ | ⟨m, -, he⟩⟩ <;> rw [he]
      · exact h
      · exact h
      · exact tells_empty
      · exact tells_empty

end Strand

/-! ## Runs -/

namespace Relay

theorem ends_eq (r : Relay) (op : Op) : r.ends op = ((r.strand op.stream).step r.setup op).ends op := by
  have hd : (!(r.deliveries op).isEmpty) = ((r.strand op.stream).step r.setup op).delivered.isSome := by
    rw [deliveries_eq]
    cases ((r.strand op.stream).step r.setup op).delivered <;> rfl
  rw [ends, Effect.ends, hd, (r.step_shows op).failure]

/-- Along a run, a strand tells what is told of its stream. -/
theorem tells_run {r : Relay} {s : StreamId} {t : Told} {ops : List Op} (h : (r.strand s).Tells t)
    (hops : ∀ op ∈ ops, op.isHold = false ∧ op.carriesPriority = false) :
    ((r.run ops).strand s).Tells (r.told s t ops) := by
  induction ops generalizing r t with
  | nil => exact h
  | cons op ops ih =>
    rw [run_cons, told]
    apply ih _ fun o ho => hops o (List.mem_cons_of_mem op ho)
    obtain ⟨hop, hc⟩ := hops op List.mem_cons_self
    by_cases hs : op.stream = s
    · subst hs
      rw [if_pos rfl, strand_step r rfl, ends_eq]
      exact h.step r.setup hop hc
    · rw [if_neg hs, strand_step_of_ne r hs]
      exact h

/-- Every message that is delivered because its stream is complete or a PRIORITY frame was read tells exactly what the tree
last told of the stream: neither field stands twice before the content or twice after it, and the values that count are the
stream depended on and the weight. So it is after every run in which no message is put in past the relay and no block has
one of the two fields. -/
theorem delivered_tells_told (config : Config) (limit : Option SizeLimit) (refusesNew : Bool) (ops : List Op) (op : Op)
    (hops : ∀ o ∈ ops ++ [op], o.isHold = false ∧ o.carriesPriority = false) (hd : op.isDeliver = false)
    (s : StreamId) (m : Message)
    (hm : (s, m) ∈ ((new config limit refusesNew).run ops).deliveries op) :
    let t := (new config limit refusesNew).told s {} ops
    (∀ p n, n.isPriority = true → ((m.fields p).values n).length ≤ 1) ∧
    m.effective .dependency = (t.dependency.map StreamId.text).toList ∧
    m.effective .weight = (t.weight.map Weight.text).toList := by
  intro t
  have hk : (((new config limit refusesNew).run ops).strand s).Tells t :=
    tells_run Strand.tells_empty fun o ho => hops o (List.mem_append_left _ ho)
  rw [deliveries_eq, Option.mem_toList, Option.map_eq_some_iff] at hm
  obtain ⟨m', hm', he⟩ := hm
  obtain ⟨rfl, rfl⟩ := Prod.mk.inj he
  obtain ⟨honce, hv⟩ := hk.delivered_step (hops op (by simp)).2 hd hm'
  exact ⟨honce, hv _ FieldName.isPriority_dependency, hv _ FieldName.isPriority_weight⟩

/-- A stream that is moved and given a weight before its message, while there is one, and after its first octet. -/
def movingRun : List Op :=
  let s : StreamId := ⟨3⟩
  [.signal (.moved { id := s, parent := .stream ⟨5⟩ } .root),
    .signal (.reweighted { id := ⟨5⟩, weight := .min } .default),
    .block s Block.plainRequest false,
    .data s [1] false,
    .signal (.reweighted { id := s, weight := .max } .default),
    .signal (.moved { id := s } (.stream ⟨5⟩)),
    .signal (.moved { id := s, parent := .stream ⟨7⟩ } .root)]

/-- The message is delivered below the last stream it was moved to, with the last weight of its own stream. -/
theorem delivered_tells_told_movingRun :
    let op : Op := .data ⟨3⟩ [2] true
    let m : Message := {
      head := .request "GET" "/"
      trailing := .ofList [("x-http2-stream-weight", "256"), ("x-http2-stream-dependency-id", "7")]
      content := [1, 2] }
    (∀ o ∈ movingRun ++ [op], o.isHold = false ∧ o.carriesPriority = false) ∧ op.isDeliver = false ∧
      (⟨3⟩, m) ∈ ((new {} none false).run movingRun).deliveries op ∧
      m.effective .dependency = ["7"] ∧ m.effective .weight = ["256"] := by
  intro op m
  have hops : ∀ o ∈ movingRun ++ [op], o.isHold = false ∧ o.carriesPriority = false := by decide
  have hd : op.isDeliver = false := by decide
  have hm : (⟨3⟩, m) ∈ ((new {} none false).run movingRun).deliveries op := by decide
  have ht : (new {} none false).told ⟨3⟩ {} movingRun = ⟨some ⟨7⟩, some .max⟩ := by decide
  obtain ⟨-, hdependency, hweight⟩ := delivered_tells_told {} none false movingRun op hops hd ⟨3⟩ m hm
  rw [ht] at hdependency hweight
  exact ⟨hops, hd, hm, hdependency, hweight⟩

end Relay

end StreamPriority
