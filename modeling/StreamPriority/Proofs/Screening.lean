import StreamPriority.Proofs.Isolation
import StreamPriority.Proofs.Told

/-!
# Which fields are checked

A relay that checks fields has them checked where a message is made: of the block that opens it, or of a record. The fields
of a later block are laid over the message under way as they are. So of the entries of a message every one is valid, but for
those of blocks that were read while it was under way (`Relay.Late`), and such a block does bring in what the check is there
to keep out.

What is followed along a run is a property of single entries (`Strand.Each`), since nothing a relay does to fields makes an
entry that was not there before.
-/

namespace StreamPriority

/-! ## What is told is valid -/

/-- A number in decimal keeps to its line. -/
theorem isBreakChar_of_mem_repr {n : Nat} {c : Char} (h : c ∈ n.repr.toList) : isBreakChar c = false := by
  rw [Nat.toList_repr] at h
  have hdigit : c.isDigit = true := Nat.isDigit_of_mem_toDigits (by decide) (by decide) h
  rw [Bool.eq_false_iff]
  intro hbreak
  simp only [isBreakChar, Bool.or_eq_true, beq_iff_eq] at hbreak
  rcases hbreak with (rfl | rfl) | rfl <;> exact absurd hdigit (by decide)

/-- The names of the two fields that tell priority are tokens. -/
theorem FieldName.isToken_of_isPriority {n : FieldName} (hn : n.isPriority = true) :
    n.text ≠ "" ∧ ∀ c ∈ n.text.toList, isTokenChar c := by
  rcases Bool.or_eq_true _ _ ▸ hn with hd | hw
  · rw [beq_iff_eq.mp hd]
    exact ⟨by decide, List.all_eq_true.mp (by decide)⟩
  · rw [beq_iff_eq.mp hw]
    exact ⟨by decide, List.all_eq_true.mp (by decide)⟩

/-- A field that tells priority in a number is valid. -/
theorem Field.valid_of_isPriority {n : FieldName} (hn : n.isPriority = true) (k : Nat) : Field.Valid ⟨n, k.repr⟩ := by
  obtain ⟨hne, htoken⟩ := FieldName.isToken_of_isPriority hn
  refine ⟨hne, htoken, fun c hc => ?_⟩
  rw [isBreakChar_of_mem_repr hc]
  rfl

/-! ## Properties of single entries -/

/-- Every entry has a property. -/
def Fields.Each (P : Field → Prop) (fs : Fields) : Prop :=
  ∀ f ∈ fs.entries, P f

/-- Every entry before the content and after it has a property. -/
def Message.Each (P : Field → Prop) (m : Message) : Prop :=
  ∀ p, (m.fields p).Each P

variable {P : Field → Prop}

namespace Fields

theorem Each.mono {Q : Field → Prop} {fs : Fields} (h : fs.Each P) (hPQ : ∀ f, P f → Q f) : fs.Each Q :=
  fun f hf => hPQ f (h f hf)

theorem Each.overlay {fs other : Fields} (h : fs.Each P) (h' : other.Each P) : (fs.overlay other).Each P := by
  intro f hf
  rw [entries_overlay, List.mem_append] at hf
  rcases hf with hf | hf
  · exact h f (List.mem_filter.mp hf).1
  · exact h' f hf

theorem Each.strippedAt {fs : Fields} (h : fs.Each P) (p : Parent) : (fs.strippedAt p).Each P := by
  intro f hf
  cases p with
  | none =>
    simp only [Fields.strippedAt, entries_removePriority, List.mem_filter] at hf
    exact h f hf.1
  | root =>
    simp only [Fields.strippedAt, entries_remove, List.mem_filter] at hf
    exact h f hf.1
  | stream d => exact h f hf

theorem stable_each : Stable (Each P) where
  overlay _ _ h h' := h.overlay h'
  strippedAt _ p h := h.strippedAt p

theorem each_valid_ofDependency (s : StreamId) : (ofDependency s).Each Field.Valid := by
  intro f hf
  obtain rfl := List.mem_singleton.mp hf
  exact Field.valid_of_isPriority FieldName.isPriority_dependency s.val.toNat

theorem each_valid_ofWeight (w : Weight) : (ofWeight w).Each Field.Valid := by
  intro f hf
  obtain rfl := List.mem_singleton.mp hf
  exact Field.valid_of_isPriority FieldName.isPriority_weight w.val

/-- There is no first field that is not valid exactly if all are. -/
theorem firstInvalid?_eq_none_iff {fs : Fields} : fs.firstInvalid? = none ↔ fs.Each Field.Valid := by
  simp only [firstInvalid?, List.find?_eq_none, Bool.not_eq_true', Bool.not_eq_false, Field.isValid_iff]
  rfl

/-- Fields are not refused exactly if all are valid. -/
theorem check_eq_ok_iff {s : StreamId} {fs : Fields} : fs.check s = .ok () ↔ fs.Each Field.Valid := by
  rw [← firstInvalid?_eq_none_iff, check]
  cases fs.firstInvalid? <;> simp

end Fields

namespace Message

theorem Each.modify {m : Message} (h : m.Each P) {f : Fields → Fields} (hf : ∀ fs : Fields, fs.Each P → (f fs).Each P)
    (p : Part) : (m.modify p f).Each P := by
  intro q
  by_cases hq : p = q
  · subst hq
    rw [fields_modify_self]
    exact hf _ (h p)
  · rw [fields_modify_of_ne m hq]
    exact h q

theorem Each.overlay {m : Message} (h : m.Each P) {fs : Fields} (hfs : fs.Each P) :
    (m.modifyActive (·.overlay fs)).Each P :=
  h.modify (fun _ h' => h'.overlay hfs) m.activePart

theorem Each.strippedAt {m : Message} (h : m.Each P) (p : Parent) : (m.modifyBoth (·.strippedAt p)).Each P := by
  intro q
  cases q with
  | headers => exact (h .headers).strippedAt p
  | trailing => exact (h .trailing).strippedAt p

theorem Each.append {m : Message} (h : m.Each P) (data : List UInt8) : (m.append data).Each P := by
  intro p
  cases p with
  | headers => exact h .headers
  | trailing => exact h .trailing

/-- A message that a block opens has the fields of the block. -/
theorem each_of_ofBlock {s : StreamId} {b : Block} {validate : Bool} {m : Message} (h : ofBlock s b validate = .ok m)
    (hb : b.fields.Each P) : m.Each P := by
  rw [eq_of_ofBlock h]
  intro p
  cases p with
  | headers => exact hb
  | trailing => exact fun f hf => nomatch hf

/-- A block that opens a message and is checked has only valid fields. -/
theorem each_valid_of_ofBlock {s : StreamId} {b : Block} {m : Message} (h : ofBlock s b true = .ok m) :
    b.fields.Each Field.Valid :=
  Fields.check_eq_ok_iff.mp ((ofBlock_eq_ok_iff.mp h).2.1 rfl)

/-- With a head and nothing to refuse there is a message. -/
theorem ofBlock_of_valid {s : StreamId} {b : Block} {validate : Bool} {head : Head} (h : Head.ofBlock s b = .ok head)
    (hvalid : validate = false ∨ b.fields.Each Field.Valid) :
    ofBlock s b validate = .ok { head, headers := b.fields } := by
  refine ofBlock_eq_ok_iff.mpr ⟨h, fun hcheck => ?_, rfl⟩
  rcases hvalid with hoff | hvalid
  · rw [hoff] at hcheck
    cases hcheck
  · exact Fields.check_eq_ok_iff.mpr hvalid

end Message

/-! ## Strands -/

namespace Strand

/-- Every entry of the message under way and of the record has a property. -/
structure Each (P : Field → Prop) (k : Strand) : Prop where
  live : ∀ m, k.live = some m → m.Each P
  record : ∀ fs, k.record = some fs → fs.Each P

theorem each_empty : Each P {} where
  live _ h := nomatch h
  record _ h := nomatch h

theorem Each.dress {k : Strand} (h : k.Each P) {m : Message} (hm : m.Each P) : (k.dress m).Each P := by
  cases hr : k.record with
  | none =>
    rw [dress_eq_self hr]
    exact hm
  | some record =>
    rw [dress_eq_overlay hr]
    exact hm.overlay (h.record record hr)

theorem Each.withLive {k : Strand} (h : k.Each P) {m : Message} (hm : m.Each P) : Each P { k with live := some m } where
  live m' hm' := by
    cases hm'
    exact hm
  record := h.record

theorem Each.told {k : Strand} (h : k.Each P) {fs : Fields} (hfs : fs.Each P) : (k.told fs).Each P where
  live m hm := by
    obtain ⟨m₀, hm₀, rfl⟩ := Option.map_eq_some_iff.mp hm
    exact (h.live m₀ hm₀).overlay hfs
  record := Keeps.told h.record Fields.stable_each hfs

theorem Each.stripped {k : Strand} (h : k.Each P) (p : Parent) : (k.stripped p).Each P where
  live m hm := by
    obtain ⟨m₀, hm₀, rfl⟩ := Option.map_eq_some_iff.mp hm
    exact (h.live m₀ hm₀).strippedAt p
  record := Keeps.stripped h.record Fields.stable_each p

theorem Each.moved {k : Strand} (h : k.Each P) (hP : ∀ f : Field, f.Valid → P f) (p : Parent) : (k.moved p).Each P := by
  cases p with
  | none => exact h.stripped .none
  | root => exact h.stripped .root
  | stream d => exact h.told ((Fields.each_valid_ofDependency d).mono hP)

/-- A block leaves a message whose entries have the property, if the check or the block itself sees to that. -/
theorem Each.takeBlock {k : Strand} (h : k.Each P) (hP : ∀ f : Field, f.Valid → P f) {c : Setup}
    (hc : c.config.validate = true) {s : StreamId} {b : Block} (hb : k.live.isSome = true → b.fields.Each P) {m : Message}
    (hm : k.takeBlock c s b = .ok m) : m.Each P := by
  unfold Strand.takeBlock at hm
  cases hl : k.live with
  | some m₀ =>
    simp only [hl] at hm
    cases hm
    exact (h.live m₀ hl).overlay (hb (by rw [hl]; rfl))
  | none =>
    simp only [hl, hc] at hm
    exact Message.each_of_ofBlock hm ((Message.each_valid_of_ofBlock hm).mono hP)

end Strand

/-- Every entry of what an effect leaves and delivers has a property. -/
structure Effect.Each (P : Field → Prop) (e : Effect) : Prop where
  after : e.after.Each P
  delivered : ∀ m, e.delivered = some m → m.Each P

namespace Strand

theorem Each.delivering {k : Strand} (h : k.Each P) {m : Message} (hm : m.Each P) : (k.delivering m).Each P where
  after := each_empty
  delivered m' hm' := by
    cases hm'
    exact h.dress hm

theorem Each.taken {k : Strand} (h : k.Each P) (last : Bool) {m : Message} (hm : m.Each P) :
    (k.taken last m).Each P := by
  cases last with
  | true => exact h.delivering hm
  | false => exact ⟨h.withLive hm, fun m' hm' => nomatch hm'⟩

theorem Each.unchanged {k : Strand} (h : k.Each P) (failure : Option Failure) :
    Effect.Each P { after := k, failure } :=
  ⟨h, fun _ hm => nomatch hm⟩

/-- The message that is made of a record has the entries of the record. -/
theorem Each.readFrame {k : Strand} (h : k.Each P) (c : Setup) (s : StreamId) : (k.readFrame c s).Each P := by
  rcases k.readFrame_cases c s with ⟨-, he⟩ | ⟨-, he⟩ | ⟨record, rfl, ⟨why, -, he⟩ | ⟨m, hm, he⟩⟩ <;> rw [he]
  · exact h.unchanged none
  · exact h.unchanged _
  · exact each_empty.unchanged _
  · refine each_empty.delivering ?_
    unfold synthesis at hm
    split at hm
    · cases hm
    · refine Message.each_of_ofBlock hm ?_
      rw [Block.fields_synthetic]
      exact h.record record rfl

/-- An operation that puts no message together elsewhere keeps a property that every valid entry has, if the entries of a
block that is read for a message under way have it. -/
theorem Each.step {k : Strand} (h : k.Each P) (hP : ∀ f : Field, f.Valid → P f) {c : Setup}
    (hc : c.config.validate = true) {op : Op} (hold : op.isHold = false) (hdeliver : op.isDeliver = false)
    (hlate : ∀ s b last, op = .block s b last → k.live.isSome = true → b.fields.Each P) : (k.step c op).Each P := by
  cases op with
  | block s b last =>
    rcases k.step_block_cases c s b last with ⟨why, -, he⟩ | ⟨m, hm, he⟩ <;> rw [he]
    · exact h.unchanged _
    · exact h.taken last (h.dress (h.takeBlock hP hc (hlate s b last rfl) hm))
  | data s octets last =>
    rcases k.step_data_cases c s octets last with ⟨why, -, he⟩ | ⟨m, hl, -, he⟩ <;> rw [he]
    · exact h.unchanged _
    · exact h.taken last ((h.live m hl).append octets)
  | remove s => exact ⟨each_empty, fun m hm => nomatch hm⟩
  | announce s =>
    show Effect.Each P { after := k.announce }
    cases hl : k.live with
    | none =>
      rw [announce_of_none hl]
      exact h.unchanged none
    | some m =>
      rw [announce_of_some hl]
      exact (h.withLive (h.dress (h.live m hl))).unchanged none
  | deliver s m => cases hdeliver
  | hold s m => cases hold
  | signal sig =>
    cases sig with
    | moved n old => exact (h.moved hP n.parent).unchanged none
    | reweighted n old => exact (h.told ((Fields.each_valid_ofWeight n.weight).mono hP)).unchanged none
    | frame f => exact h.readFrame c f.stream

end Strand

/-! ## Runs -/

namespace Relay

/-- An entry of a block that a run read for a stream while a message was under way there. -/
def Late (r : Relay) (s : StreamId) (ops : List Op) (f : Field) : Prop :=
  ∃ q b last, (q, .block s b last) ∈ r.met ops ∧ q.isLive s = true ∧ f ∈ b.fields.entries

/-- Along a run of a relay that checks fields, every entry of a strand and of what is delivered on its stream is valid or
late. -/
theorem each_run {r : Relay} (hr : r.strand s = {}) (hc : r.config.validate = true) {ops : List Op}
    (hops : ∀ op ∈ ops, op.isHold = false ∧ op.isDeliver = false) :
    ((r.run ops).strand s).Each (fun f => f.Valid ∨ r.Late s ops f) ∧
      ∀ x ∈ r.met ops, x.2.stream = s →
        ((x.1.strand s).step x.1.setup x.2).Each fun f => f.Valid ∨ r.Late s ops f := by
  have hstep : ∀ x ∈ r.met ops, x.2.stream = s → (x.1.strand s).Each (fun f => f.Valid ∨ r.Late s ops f) →
      ((x.1.strand s).step x.1.setup x.2).Each fun f => f.Valid ∨ r.Late s ops f := by
    rintro ⟨q, op⟩ hx hs hk
    obtain ⟨before, after, he, hq⟩ := exists_of_mem_met hx
    obtain ⟨hold, hdeliver⟩ := hops op (by rw [he]; simp)
    have hcq : q.setup.config.validate = true := by rw [show q = r.run before from hq, setup_run]; exact hc
    refine hk.step (fun f hf => Or.inl hf) hcq hold hdeliver fun t b last hop hl f hf => Or.inr ?_
    subst hop
    obtain rfl : t = s := hs
    exact ⟨q, b, last, hx, hl, hf⟩
  have hnew : (r.strand s).Each fun f => f.Valid ∨ r.Late s ops f := by
    rw [hr]
    exact Strand.each_empty
  obtain ⟨hrun, hmet⟩ := strand_met r s ops hnew fun x hx hs hk => by
    rw [strand_step x.1 hs]
    exact (hstep x hx hs hk).after
  exact ⟨hrun, fun x hx hs => hstep x hx hs (hmet x hx)⟩

/-- Where fields are checked, an entry of a message is valid, or it came in a block that was read while a message was
already under way on the stream. So it is of every message under way and of every message delivered, after every run in
which no message is put together elsewhere. -/
theorem valid_or_late (config : Config) (limit : Option SizeLimit) (refusesNew : Bool) (ops : List Op)
    (hc : config.validate = true) (hops : ∀ op ∈ ops, op.isHold = false ∧ op.isDeliver = false) (s : StreamId)
    (m : Message) :
    let r := new config limit refusesNew
    (r.run ops).assembly.live.get? s = some m ∨ (s, m) ∈ (r.run ops).assembly.delivered →
      ∀ p, ∀ f ∈ (m.fields p).entries, f.Valid ∨ r.Late s ops f := by
  intro r hm
  obtain ⟨hrun, hmet⟩ := each_run (r := r) (s := s) rfl hc hops
  rcases hm with hlive | hdelivered
  · exact hrun.live m hlive
  · rw [delivered_run, List.mem_append] at hdelivered
    rcases hdelivered with hnone | hdelivered
    · cases hnone
    · obtain ⟨x, hx, hd⟩ := List.mem_flatMap.mp hdelivered
      obtain ⟨rfl, hm⟩ := (mem_deliveries_iff x.1 x.2 s m).mp hd
      exact (hmet x hx rfl).delivered m hm

/-- A request, a field that does not keep to its line, and the end. -/
def lateRun : List Op :=
  [.block ⟨1⟩ (Block.plainRequest.build [.field "a" "b"]) false,
    .block ⟨1⟩ (Block.empty.build [.field "x" "a\r\nb"]) true]

/-- The field is delivered as it is, although fields are checked and nothing was put together elsewhere. -/
theorem late_break :
    ({} : Config).validate = true ∧ (∀ op ∈ lateRun, op.isHold = false ∧ op.isDeliver = false) ∧
      ∃ m, ((⟨1⟩, m) : StreamId × Message) ∈ ((new {} none false).run lateRun).assembly.delivered ∧
        ∃ f ∈ m.headers.entries, ¬f.Valid := by
  refine ⟨rfl, by decide, { head := .request "GET" "/", headers := .ofList [("a", "b"), ("x", "a\r\nb")] }, by decide, ?_⟩
  exact ⟨⟨.ofString "x", "a\r\nb"⟩, by decide, by decide⟩

/-- Of the two fields the second was late. -/
theorem valid_or_late_lateRun :
    let m : Message := { head := .request "GET" "/", headers := .ofList [("a", "b"), ("x", "a\r\nb")] }
    (∀ op ∈ lateRun, op.isHold = false ∧ op.isDeliver = false) ∧
      (⟨1⟩, m) ∈ ((new {} none false).run lateRun).assembly.delivered ∧
      ∀ f ∈ m.headers.entries, f.Valid ∨ (new {} none false).Late ⟨1⟩ lateRun f := by
  intro m
  have hops : ∀ op ∈ lateRun, op.isHold = false ∧ op.isDeliver = false := by decide
  have hm : (⟨1⟩, m) ∈ ((new {} none false).run lateRun).assembly.delivered := by decide
  exact ⟨hops, hm, valid_or_late {} none false lateRun rfl hops ⟨1⟩ m (Or.inr hm) .headers⟩

end Relay

end StreamPriority
