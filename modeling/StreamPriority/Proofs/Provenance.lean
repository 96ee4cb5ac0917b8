import StreamPriority.Proofs.Screening

/-!
# The form of records

Every entry of a record was told by a change of the tree on its stream (`Relay.told_of_mem_record`): a place below another
stream or a weight, written as a number. So every entry is valid, and whoever makes a message of a record may rely on that:
the placeholder block and a record always make one, whether or not fields are checked.
-/

namespace StreamPriority

/-! ## Entries that were told -/

/-- Every entry of a record was told on its stream during the run. -/
theorem Relay.told_of_mem_record {r : Relay} {s : StreamId} (hr : r.strand s = {}) {ops : List Op} {record : Fields}
    (h : (r.run ops).records.get? s = some record) {f : Field} (hf : f ∈ record.entries) :
    ∃ op ∈ ops, op.stream = s ∧ ∃ fs, op.tells = some fs ∧ f ∈ fs.entries := by
  have hnew : (r.strand s).Keeps
      (Fields.Each fun f => ∃ op ∈ ops, op.stream = s ∧ ∃ fs, op.tells = some fs ∧ f ∈ fs.entries) := by
    rw [hr]
    exact Strand.keeps_empty
  exact keeps_run Fields.stable_each hnew ops (fun op hop hs fs htells f hf => ⟨op, hop, hs, fs, htells, hf⟩) record h f hf

/-- What an entry that was told says. -/
theorem Op.cases_of_mem_tells {op : Op} {fs : Fields} (h : op.tells = some fs) {f : Field} (hf : f ∈ fs.entries) :
    (∃ n old p, op = .signal (.moved n old) ∧ n.parent = .stream p ∧ f = ⟨.dependency, p.val.toNat.repr⟩) ∨
      ∃ n old, op = .signal (.reweighted n old) ∧ f = ⟨.weight, n.weight.val.repr⟩ := by
  rcases op.cases_of_tells h with ⟨n, old, p, rfl, hp, rfl⟩ | ⟨n, old, rfl, rfl⟩
  · exact Or.inl ⟨n, old, p, rfl, hp, List.mem_singleton.mp hf⟩
  · exact Or.inr ⟨n, old, rfl, List.mem_singleton.mp hf⟩

/-! ## Messages made of valid fields -/

/-- The head of a message that says nothing, as the peer of the given end would send it. -/
def Head.placeholder : Role → Head
  | .server => .request "OPTIONS" ""
  | .client => .response 200

/-- The pseudo-headers of the placeholder block make the placeholder head, whatever fields are put in. -/
theorem Head.ofBlock_synthetic (s : StreamId) (role : Role) (fs : Fields) :
    ofBlock s (.synthetic role fs) = .ok (placeholder role) := by
  rw [Block.synthetic_eq]
  cases role <;> rfl

/-- The placeholder block and valid fields make a message with the placeholder head, these fields and nothing else, checked
or not. -/
theorem Message.ofBlock_synthetic {fs : Fields} (h : fs.Each Field.Valid) (s : StreamId) (role : Role) (validate : Bool) :
    ofBlock s (.synthetic role fs) validate = .ok { head := .placeholder role, headers := fs } := by
  have hfields : (Block.synthetic role fs).fields = fs := Block.fields_synthetic role fs
  have hvalid : (Block.synthetic role fs).fields.Each Field.Valid := by rwa [hfields]
  rw [ofBlock_of_valid (Head.ofBlock_synthetic s role fs) (Or.inr hvalid), hfields]

/-! ## Numbers -/

/-- Only zero is written as zero. -/
theorem repr_ne_zero {n : Nat} (h : n ≠ 0) : n.repr ≠ "0" := by
  intro hn
  have hdigits : Nat.toDigits 10 n = ['0'] := by
    rw [← Nat.toList_repr, hn]
    rfl
  rcases Nat.lt_or_ge n 10 with hlt | hge
  · rw [Nat.toDigits_of_lt_base hlt, List.cons.injEq, Nat.digitChar_eq_zero] at hdigits
    exact h hdigits.1
  · have hpos : 0 < (Nat.toDigits 10 (n / 10)).length := Nat.length_toDigits_pos
    have hlength := congrArg List.length hdigits
    rw [Nat.toDigits_of_base_le (by decide) hge, List.length_append, List.length_singleton] at hlength
    exact absurd hlength (by simp only [List.length_singleton]; omega)

/-- A stream that is found by number and depended on is not the connection. -/
theorem StreamId.toNat_ne_zero_of_ofId {id : Option StreamId} {p : StreamId} (h : Parent.ofId id = .stream p) :
    p.val.toNat ≠ 0 := by
  intro hzero
  have hp : p.isConnection = true := by
    rw [isConnection, beq_iff_eq]
    exact UInt32.toNat_inj.mp hzero
  have hdep : (Parent.ofId id).dependency = some p := by rw [h]; rfl
  rw [Parent.dependency_ofId, Option.filter_eq_some_iff, hp] at hdep
  cases hdep.2

namespace Relay

/-- The form of every record, after every run. An entry of it tells the weight as a number from 1 to 256, or a stream that
the stream of the record was moved below during the run, and neither name has two entries. No entry tells the connection if
the places were found by number. Every entry is valid, so that a message can be made of the record at either end of a
connection, checked or not. -/
theorem record_canonical (config : Config) (limit : Option SizeLimit) (refusesNew : Bool) (ops : List Op) (s : StreamId)
    (record : Fields) (h : ((new config limit refusesNew).run ops).records.get? s = some record) :
    (∀ f ∈ record.entries,
        (f.name = .weight ∧ ∃ n, 1 ≤ n ∧ n ≤ 256 ∧ f.value = n.repr) ∨
          (f.name = .dependency ∧ ∃ n old p, .signal (.moved n old) ∈ ops ∧ n.id = s ∧ n.parent = .stream p ∧
            f.value = p.val.toNat.repr)) ∧
      (∀ n, (record.values n).length ≤ 1) ∧
      ((∀ n old, .signal (.moved n old) ∈ ops → ∃ id, n.parent = .ofId id) → ∀ f ∈ record.entries, f.value ≠ "0") ∧
      (∀ f ∈ record.entries, f.isValid = true) ∧
      ∀ role validate t, ∃ m, Message.ofBlock t (.synthetic role record) validate = .ok m := by
  have hnew : (new config limit refusesNew).strand s = {} := strand_new config limit refusesNew s
  have hproper : (((new config limit refusesNew).run ops).strand s).Keeps Fields.IsRecord :=
    keeps_run Strand.stable_isRecord (hnew ▸ Strand.keeps_empty) ops fun _ _ _ _ => Strand.isRecord_of_tells
  have hentry : ∀ f ∈ record.entries,
      (∃ n old p, .signal (.moved n old) ∈ ops ∧ n.id = s ∧ n.parent = .stream p ∧ f = ⟨.dependency, p.val.toNat.repr⟩) ∨
        ∃ w : Weight, f = ⟨.weight, w.val.repr⟩ := by
    intro f hf
    obtain ⟨op, hop, hs, fs, htells, hmem⟩ := told_of_mem_record hnew h hf
    rcases op.cases_of_mem_tells htells hmem with ⟨n, old, p, rfl, hp, hf⟩ | ⟨n, old, rfl, hf⟩
    · exact Or.inl ⟨n, old, p, hop, hs, hp, hf⟩
    · exact Or.inr ⟨n.weight, hf⟩
  have hvalid : record.Each Field.Valid := by
    intro f hf
    rcases hentry f hf with ⟨n, old, p, -, -, -, rfl⟩ | ⟨w, rfl⟩
    · exact Field.valid_of_isPriority FieldName.isPriority_dependency _
    · exact Field.valid_of_isPriority FieldName.isPriority_weight _
  refine ⟨fun f hf => ?_, (hproper record h).once, fun hid f hf => ?_, fun f hf => f.isValid_iff.mpr (hvalid f hf),
    fun role validate t => ?_⟩
  · rcases hentry f hf with ⟨n, old, p, hop, hs, hp, rfl⟩ | ⟨w, rfl⟩
    · exact Or.inr ⟨rfl, n, old, p, hop, hs, hp, rfl⟩
    · exact Or.inl ⟨rfl, w.val, w.one_le, w.le_max, rfl⟩
  · rcases hentry f hf with ⟨n, old, p, hop, -, hp, rfl⟩ | ⟨w, rfl⟩
    · obtain ⟨id, hparent⟩ := hid n old hop
      exact repr_ne_zero (StreamId.toNat_ne_zero_of_ofId (hparent ▸ hp))
    · exact repr_ne_zero (Nat.one_le_iff_ne_zero.mp w.one_le)
  · exact ⟨_, Message.ofBlock_synthetic hvalid t role validate⟩

/-- A stream is moved below another; a message is put in past the relay that has a weight of its own, on two lines; the
stream gets a weight. -/
def meddledRun : List Op :=
  let forged : Message := { head := .request "GET" "/", headers := .ofList [("x-http2-stream-weight", "1\r\n0")] }
  [.signal (.moved { id := ⟨7⟩, parent := .ofId (some ⟨5⟩) } .root), .hold ⟨7⟩ forged,
    .signal (.reweighted { id := ⟨7⟩, weight := .max } .default)]

/-- The record tells the place and the weight from the tree, and makes a message. -/
theorem record_canonical_meddledRun :
    let record := Fields.ofList [("x-http2-stream-dependency-id", "5"), ("x-http2-stream-weight", "256")]
    ((new {} none false).run meddledRun).records.get? ⟨7⟩ = some record ∧
      (∀ n old, .signal (.moved n old) ∈ meddledRun → ∃ id, n.parent = .ofId id) ∧
      (∀ n, (record.values n).length ≤ 1) ∧ (∀ f ∈ record.entries, f.value ≠ "0") ∧
      (∀ f ∈ record.entries, f.isValid = true) ∧
      ∀ role validate t, ∃ m, Message.ofBlock t (.synthetic role record) validate = .ok m := by
  intro record
  have h : ((new {} none false).run meddledRun).records.get? ⟨7⟩ = some record := by decide
  have hid : ∀ n old, .signal (.moved n old) ∈ meddledRun → ∃ id, n.parent = .ofId id := by
    intro n old hn
    simp only [meddledRun, List.mem_cons, Op.signal.injEq, Signal.moved.injEq, reduceCtorEq, List.not_mem_nil, or_false] at hn
    exact ⟨some ⟨5⟩, by rw [hn.1]⟩
  obtain ⟨-, honce, hzero, hvalid, hmade⟩ := record_canonical {} none false meddledRun ⟨7⟩ record h
  exact ⟨h, hid, honce, hzero hid, hvalid, hmade⟩

end Relay

end StreamPriority
