import StreamPriority.Proofs.Effective
import StreamPriority.Proofs.Keeping

/-!
# Record and message agree

A stream may have a record and a message under way at the same time: the record was there first, and is laid over the
message again when the message is delivered. Were the two to differ, that would bring back what no longer holds. They
never do, whatever the peer writes into its blocks: after every operation, each name that the record holds counts in the
message with the value it has there (`Strand.Coherent`).
-/

namespace StreamPriority

/-- Whether an operation puts a message in past the relay. -/
def Op.isHold : Op → Bool
  | .hold _ _ => true
  | _ => false

namespace Strand

/-! ## Records -/

/-- The record, if there is one, is made of fields that tell priority, each at most once. -/
def Proper (k : Strand) : Prop :=
  ∀ record, k.record = some record → record.IsRecord

theorem proper_empty : ({} : Strand).Proper :=
  fun _ h => nomatch h

theorem stable_isRecord : Fields.Stable Fields.IsRecord where
  overlay _ _ h h' := h.overlay h'
  strippedAt _ p h := h.strippedAt p

theorem Proper.told {k : Strand} (h : k.Proper) {fs : Fields} (hfs : fs.IsRecord) : (k.told fs).Proper :=
  Keeps.told h stable_isRecord hfs

theorem Proper.stripped {k : Strand} (h : k.Proper) (p : Parent) : (k.stripped p).Proper :=
  Keeps.stripped h stable_isRecord p

/-- Whatever is told may be a record. -/
theorem isRecord_of_tells {op : Op} {fs : Fields} (h : op.tells = some fs) : fs.IsRecord := by
  rcases op.cases_of_tells h with ⟨_, _, p, -, -, rfl⟩ | ⟨n, _, -, rfl⟩
  · exact Fields.isRecord_ofDependency p
  · exact Fields.isRecord_ofWeight n.weight

/-- Whatever happens to a stream, its record keeps its form. -/
theorem Proper.step {k : Strand} (h : k.Proper) (c : Setup) (op : Op) : (k.step c op).after.Proper :=
  Keeps.step h stable_isRecord c fun _ => isRecord_of_tells

/-! ## Coherence -/

/-- A strand whose record says nothing but what its message says, too. -/
structure Coherent (k : Strand) : Prop where
  proper : k.Proper
  inPhase : ∀ m, k.live = some m → m.InPhase
  agrees : ∀ m record, k.live = some m → k.record = some record →
    ∀ n, record.contains n = true → m.effective n = record.values n

theorem coherent_empty : ({} : Strand).Coherent where
  proper := proper_empty
  inPhase _ h := nomatch h
  agrees _ _ h := nomatch h

/-- Without a record, dressing changes nothing. -/
theorem dress_eq_self {k : Strand} (h : k.record = none) (m : Message) : k.dress m = m := by
  have hid : k.layOver = fun fs => fs := by
    funext fs
    rw [layOver, h]
  rw [dress, hid, Message.modifyActive_id]

theorem dress_eq_overlay {k : Strand} {record : Fields} (h : k.record = some record) (m : Message) :
    k.dress m = m.modifyActive (·.overlay record) := by
  have hover : k.layOver = (·.overlay record) := by
    funext fs
    rw [layOver, h]
  rw [dress, hover]

/-- In a dressed message the record counts. -/
theorem effective_dress (k : Strand) {m : Message} (h : m.InPhase) (n : FieldName) :
    (k.dress m).effective n =
      match k.record with
      | some record => if record.contains n then record.values n else m.effective n
      | none => m.effective n := by
  cases hr : k.record with
  | some record =>
    rw [dress_eq_overlay hr]
    exact Message.effective_overlay h record n
  | none => rw [dress_eq_self hr]

/-- Dressing the message of a coherent strand changes no value that counts. -/
theorem Coherent.effective_dress {k : Strand} {m : Message} (h : k.Coherent) (hm : k.live = some m) (n : FieldName) :
    (k.dress m).effective n = m.effective n := by
  rw [Strand.effective_dress k (h.inPhase m hm)]
  cases hr : k.record with
  | none => rfl
  | some record =>
    simp only
    split
    · next hn => exact (h.agrees m record hm hr n hn).symm
    · rfl

/-- A strand is coherent once its message is dressed, whatever the message was. -/
theorem Coherent.dressed {k : Strand} (h : k.Proper) {m : Message} (hm : m.InPhase) :
    Coherent { k with live := some (k.dress m) } where
  proper := h
  inPhase m' hm' := by
    cases hm'
    exact hm.modifyActive _
  agrees m' record hm' hr n hn := by
    cases hm'
    have hk : k.record = some record := hr
    simp only [Strand.effective_dress k hm, hk, hn, if_true]

theorem Coherent.told {k : Strand} (h : k.Coherent) {fs : Fields} (hfs : fs.IsRecord) : (k.told fs).Coherent where
  proper := h.proper.told hfs
  inPhase m hm := by
    obtain ⟨m₀, hm₀, rfl⟩ := Option.map_eq_some_iff.mp hm
    exact (h.inPhase m₀ hm₀).modifyActive _
  agrees m record hm hr n hn := by
    obtain ⟨m₀, hm₀, rfl⟩ := Option.map_eq_some_iff.mp hm
    have hr' : k.record.map (·.overlay fs) = some record := by simpa [Strand.told, hm₀] using hr
    obtain ⟨old, hold, rfl⟩ := Option.map_eq_some_iff.mp hr'
    rw [Message.effective_overlay (h.inPhase m₀ hm₀), Fields.values_overlay]
    rw [Fields.contains_overlay, Bool.or_eq_true] at hn
    cases hf : fs.contains n with
    | true => rfl
    | false => exact h.agrees m₀ old hm₀ hold n (hn.resolve_left (by simp [hf]))

theorem Coherent.stripped {k : Strand} (h : k.Coherent) (p : Parent) : (k.stripped p).Coherent where
  proper := h.proper.stripped p
  inPhase m hm := by
    obtain ⟨m₀, hm₀, rfl⟩ := Option.map_eq_some_iff.mp hm
    exact (h.inPhase m₀ hm₀).modifyBoth (by cases p <;> rfl)
  agrees m record hm hr n hn := by
    obtain ⟨m₀, hm₀, rfl⟩ := Option.map_eq_some_iff.mp hm
    obtain ⟨old, hold, rfl⟩ := Option.map_eq_some_iff.mp hr
    rw [Message.effective_strippedAt, Fields.values_strippedAt]
    rw [Fields.contains_strippedAt, Bool.and_eq_true] at hn
    rw [h.agrees m₀ old hm₀ hold n hn.2]

theorem Coherent.moved {k : Strand} (h : k.Coherent) (p : Parent) : (k.moved p).Coherent := by
  cases p with
  | none => exact h.stripped .none
  | root => exact h.stripped .root
  | stream d => exact h.told (Fields.isRecord_ofDependency d)

/-- A block leaves a message in which nothing stands after the content before there is any. -/
theorem Coherent.inPhase_takeBlock {k : Strand} (h : k.Coherent) {c : Setup} {s : StreamId} {b : Block} {m : Message}
    (hm : k.takeBlock c s b = .ok m) : m.InPhase := by
  unfold takeBlock at hm
  cases hl : k.live with
  | some m₀ =>
    simp only [hl] at hm
    cases hm
    exact (h.inPhase m₀ hl).modifyActive _
  | none =>
    simp only [hl] at hm
    exact Message.inPhase_of_ofBlock hm

theorem Coherent.append {k : Strand} (h : k.Coherent) {m : Message} (hm : k.live = some m) (data : List UInt8) :
    Coherent { k with live := some (m.append data) } where
  proper := h.proper
  inPhase m' hm' := by
    cases hm'
    exact (h.inPhase m hm).append data
  agrees m' record hm' hr n hn := by
    cases hm'
    exact h.agrees m record hm hr n hn

theorem Coherent.taken {k : Strand} {m : Message} (h : Coherent { k with live := some m }) (last : Bool) :
    (k.taken last m).after.Coherent := by
  cases last with
  | true => exact coherent_empty
  | false => exact h

/-- Every operation but one that goes past the relay keeps a strand coherent. -/
theorem Coherent.step {k : Strand} (h : k.Coherent) (c : Setup) {op : Op} (hop : op.isHold = false) :
    (k.step c op).after.Coherent := by
  cases op with
  | block s b last =>
    rcases k.step_block_cases c s b last with ⟨why, -, he⟩ | ⟨m, hm, he⟩ <;> rw [he]
    · exact h
    · exact (Coherent.dressed h.proper (h.inPhase_takeBlock hm)).taken last
  | data s octets last =>
    rcases k.step_data_cases c s octets last with ⟨why, -, he⟩ | ⟨m, hm, -, he⟩ <;> rw [he]
    · exact h
    · exact (h.append hm octets).taken last
  | remove s => exact coherent_empty
  | announce s =>
    show k.announce.Coherent
    cases hl : k.live with
    | none =>
      rw [announce_of_none hl]
      exact h
    | some m =>
      rw [announce_of_some hl]
      exact Coherent.dressed h.proper (h.inPhase m hl)
  | deliver s m => exact coherent_empty
  | hold s m => cases hop
  | signal sig =>
    cases sig with
    | moved n old => exact h.moved n.parent
    | reweighted n old => exact h.told (Fields.isRecord_ofWeight n.weight)
    | frame f =>
      simp only [Strand.step, after_readFrame]
      split
      · exact h
      · exact coherent_empty

end Strand

/-! ## Runs -/

namespace Relay

/-- After every run that puts no message in past the relay, the strands are coherent. -/
theorem coherent_run (config : Config) (limit : Option SizeLimit) (refusesNew : Bool) {ops : List Op}
    (h : ∀ op ∈ ops, op.isHold = false) (s : StreamId) :
    (((new config limit refusesNew).run ops).strand s).Coherent :=
  strand_run _ s ops Strand.coherent_empty fun op hop _ _ hk => hk.step _ (h op hop)

/-- Completing a stream delivers its message with the record laid over it. -/
theorem delivered_complete {r : Relay} {s : StreamId} {m : Message} (hm : r.assembly.live.get? s = some m) :
    (r.complete s).assembly.delivered = r.assembly.delivered ++ [(s, m.modifyActive (r.records.layOver s))] := by
  have hc : r.Became (r.complete s) s ((r.strand s).delivering m) := complete_became hm
  rw [hc.delivered, layOver_records]
  rfl

/-- Whatever a relay hears and whatever the peer writes into its blocks, the record of a stream and its message agree: each
name that the record holds has one value there, and that is the value that counts in the message. So nothing that counts
is changed when the record is laid over the message for its delivery. -/
theorem record_agrees (config : Config) (limit : Option SizeLimit) (refusesNew : Bool) (ops : List Op)
    (h : ∀ op ∈ ops, op.isHold = false) (s : StreamId) (m : Message)
    (hm : ((new config limit refusesNew).run ops).assembly.live.get? s = some m) :
    let r := (new config limit refusesNew).run ops
    (∀ record, r.records.get? s = some record →
      ∀ n, record.contains n = true → ∃ v, record.values n = [v] ∧ m.effective n = [v]) ∧
    ∃ m', (r.complete s).assembly.delivered = r.assembly.delivered ++ [(s, m')] ∧
      ∀ n, m'.effective n = m.effective n := by
  intro r
  have hk : (r.strand s).Coherent := coherent_run config limit refusesNew h s
  have hlive : (r.strand s).live = some m := hm
  refine ⟨fun record hr n hn => ?_, _, delivered_complete hm, fun n => ?_⟩
  · obtain ⟨v, hv⟩ := (hk.proper record hr).exists_values_eq hn
    exact ⟨v, hv, (hk.agrees m record hlive hr n hn).trans hv⟩
  · rw [layOver_records]
    exact hk.effective_dress hlive n

/-- A stream that was moved and given a weight before its message, and whose peer writes both fields itself, before the
content and after it. -/
def forgedRun : List Op :=
  let s : StreamId := ⟨3⟩
  let forged (v : String) : Block :=
    Block.plainRequest.build [.field "X-HTTP2-Stream-Dependency-Id" v, .field "x-http2-stream-weight" v]
  [.signal (.moved { id := s, parent := .stream ⟨5⟩ } .root), .block s (forged "7") false, .data s [1] false,
    .signal (.reweighted { id := s, weight := .max } .default), .block s (forged "9") false]

/-- Of what the peer wrote there is only what the record does not hold, and what does not count. -/
theorem record_agrees_forgedRun :
    let r := (new {} none false).run forgedRun
    let record : Fields := .ofList [("x-http2-stream-dependency-id", "5"), ("x-http2-stream-weight", "256")]
    let m : Message := {
      head := .request "GET" "/"
      headers := .ofList [("x-http2-stream-weight", "7"), ("x-http2-stream-dependency-id", "5")]
      trailing := record
      content := [1] }
    (∀ op ∈ forgedRun, op.isHold = false) ∧ r.assembly.live.get? ⟨3⟩ = some m ∧ r.records.get? ⟨3⟩ = some record ∧
      ∀ n, record.contains n = true → ∃ v, record.values n = [v] ∧ m.effective n = [v] := by
  intro r record m
  have h : ∀ op ∈ forgedRun, op.isHold = false := by decide
  have hm : r.assembly.live.get? ⟨3⟩ = some m := by decide
  have hr : r.records.get? ⟨3⟩ = some record := by decide
  exact ⟨h, hm, hr, (record_agrees {} none false forgedRun h ⟨3⟩ m hm).1 record hr⟩

end Relay

end StreamPriority
