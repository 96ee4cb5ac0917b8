import StreamPriority.Field.Priority
import StreamPriority.Message.OfBlock

/-!
# What a message tells

A name may have values before the content of a message and after it, and then those after it count. The statements here say
how the operations of a relay change the values that count (`Message.effective`). They need that nothing stands after the
content as long as there is none (`Message.InPhase`): only then does what is laid over the active fields count.

A record is made of fields that tell priority, each at most once (`Fields.IsRecord`).
-/

namespace StreamPriority

/-- Whether a name says what no longer holds at a place. -/
def Parent.strips : Parent → FieldName → Bool
  | .none, n => n.isPriority
  | .root, n => n == .dependency
  | .stream _, _ => false

theorem FieldName.isPriority_dependency : dependency.isPriority = true := by
  simp [isPriority]

theorem FieldName.isPriority_weight : weight.isPriority = true := by
  simp [isPriority]

/-! ## Values under single names -/

namespace Fields

/-- A name without an entry has no value. -/
theorem values_eq_nil_iff (fs : Fields) (n : FieldName) : fs.values n = [] ↔ fs.contains n = false := by
  rw [contains_eq_not_isEmpty]
  simp

theorem contains_overlay (fs other : Fields) (n : FieldName) :
    (fs.overlay other).contains n = (other.contains n || fs.contains n) := by
  rw [contains_eq_not_isEmpty, values_overlay]
  cases h : other.contains n with
  | true => simpa [h] using (contains_eq_not_isEmpty other n).symm
  | false => simpa [h] using (contains_eq_not_isEmpty fs n).symm

theorem values_single (n m : FieldName) (v : String) : (single n v).values m = if n = m then [v] else [] :=
  values_set empty n m v

theorem contains_single (n m : FieldName) (v : String) : (single n v).contains m = (n == m) := by
  simp [contains]

/-- Stripping at a place takes exactly the values of the names that the place strips. -/
theorem values_strippedAt (fs : Fields) (p : Parent) (n : FieldName) :
    (fs.strippedAt p).values n = if p.strips n then [] else fs.values n := by
  cases p with
  | none =>
    simp only [strippedAt, removePriority, values_remove, Parent.strips, FieldName.isPriority]
    by_cases hd : n = .dependency
    · simp [hd]
    · by_cases hw : n = .weight
      · simp [hw]
      · simp [hd, hw, Ne.symm hd, Ne.symm hw]
  | root =>
    simp only [strippedAt, values_remove, Parent.strips]
    by_cases hd : n = .dependency
    · simp [hd]
    · simp [hd, Ne.symm hd]
  | stream d => rfl

theorem contains_strippedAt (fs : Fields) (p : Parent) (n : FieldName) :
    (fs.strippedAt p).contains n = (!p.strips n && fs.contains n) := by
  rw [contains_eq_not_isEmpty, values_strippedAt, contains_eq_not_isEmpty]
  cases p.strips n <;> rfl

/-! ## Records -/

/-- Fields that may be a record: only such that tell priority, each at most once. -/
structure IsRecord (fs : Fields) : Prop where
  priority : ∀ n, fs.contains n = true → n.isPriority = true
  once : ∀ n, (fs.values n).length ≤ 1

theorem isRecord_single {n : FieldName} (h : n.isPriority = true) (v : String) : (single n v).IsRecord where
  priority m hm := by
    rw [contains_single, beq_iff_eq] at hm
    exact hm ▸ h
  once m := by
    rw [values_single]
    split <;> simp

theorem isRecord_ofDependency (s : StreamId) : (ofDependency s).IsRecord :=
  isRecord_single FieldName.isPriority_dependency s.text

theorem isRecord_ofWeight (w : Weight) : (ofWeight w).IsRecord :=
  isRecord_single FieldName.isPriority_weight w.text

theorem IsRecord.overlay {fs other : Fields} (h : fs.IsRecord) (h' : other.IsRecord) : (fs.overlay other).IsRecord where
  priority n hn := by
    rw [contains_overlay, Bool.or_eq_true] at hn
    rcases hn with hn | hn
    · exact h'.priority n hn
    · exact h.priority n hn
  once n := by
    rw [values_overlay]
    split
    · exact h'.once n
    · exact h.once n

theorem IsRecord.strippedAt {fs : Fields} (h : fs.IsRecord) (p : Parent) : (fs.strippedAt p).IsRecord where
  priority n hn := by
    rw [contains_strippedAt, Bool.and_eq_true] at hn
    exact h.priority n hn.2
  once n := by
    rw [values_strippedAt]
    split
    · simp
    · exact h.once n

/-- Each name a record holds has one value there. -/
theorem IsRecord.exists_values_eq {fs : Fields} (h : fs.IsRecord) {n : FieldName} (hn : fs.contains n = true) :
    ∃ v, fs.values n = [v] := by
  have hne : fs.values n ≠ [] := fun he => by
    rw [(values_eq_nil_iff fs n).mp he] at hn
    cases hn
  have hone := h.once n
  match hv : fs.values n with
  | [] => exact absurd hv hne
  | [v] => exact ⟨v, rfl⟩
  | v :: w :: l => simp [hv] at hone

end Fields

/-! ## Values that count -/

namespace Message

/-- The values of a name that count: those after the content, if there are any, and else those before it. -/
def effective (m : Message) (n : FieldName) : List String :=
  if m.trailing.contains n then m.trailing.values n else m.headers.values n

/-- Nothing stands after the content as long as there is none. -/
def InPhase (m : Message) : Prop :=
  m.content = [] → m.trailing = .empty

theorem hasContent_eq_false_iff (m : Message) : m.hasContent = false ↔ m.content = [] := by
  simp [hasContent]

/-- With content, further fields belong after it. -/
theorem activePart_of_content {m : Message} (h : m.content ≠ []) : m.activePart = .trailing := by
  have hc : m.hasContent = true := by simpa [hasContent] using h
  rw [activePart, hc]
  rfl

theorem InPhase.modifyActive {m : Message} (h : m.InPhase) (f : Fields → Fields) : (m.modifyActive f).InPhase := by
  intro hc
  rw [Message.modifyActive, content_modify] at hc
  have hp : m.activePart = .headers := by rw [activePart, (hasContent_eq_false_iff m).mpr hc]; rfl
  rw [Message.modifyActive, hp]
  exact h hc

theorem InPhase.modifyBoth {m : Message} (h : m.InPhase) {f : Fields → Fields} (hf : f .empty = .empty) :
    (m.modifyBoth f).InPhase := by
  intro hc
  have ht : m.trailing = .empty := h hc
  simp only [Message.modifyBoth, ht, hf]

theorem InPhase.append {m : Message} (h : m.InPhase) (data : List UInt8) : (m.append data).InPhase := by
  intro hc
  exact h (List.append_eq_nil_iff.mp hc).1

/-- A block opens a message with its fields before the content, and with nothing else. -/
theorem eq_of_ofBlock {s : StreamId} {b : Block} {validate : Bool} {m : Message} (h : ofBlock s b validate = .ok m) :
    m = { head := m.head, headers := b.fields } :=
  (ofBlock_eq_ok_iff.mp h).2.2

theorem inPhase_of_ofBlock {s : StreamId} {b : Block} {validate : Bool} {m : Message}
    (h : ofBlock s b validate = .ok m) : m.InPhase := by
  rw [eq_of_ofBlock h]
  exact fun _ => rfl

/-- What is laid over the active fields counts from then on, and nothing else changes. -/
theorem effective_overlay {m : Message} (h : m.InPhase) (fs : Fields) (n : FieldName) :
    (m.modifyActive (·.overlay fs)).effective n = if fs.contains n then fs.values n else m.effective n := by
  cases hc : m.hasContent with
  | true =>
    have hp : m.activePart = .trailing := by rw [activePart, hc]; rfl
    simp only [modifyActive, hp, modify, effective, Fields.contains_overlay, Fields.values_overlay]
    cases fs.contains n <;> simp
  | false =>
    have hp : m.activePart = .headers := by rw [activePart, hc]; rfl
    have ht : m.trailing = .empty := h ((hasContent_eq_false_iff m).mp hc)
    have hn : Fields.empty.contains n = false := rfl
    simp only [modifyActive, hp, modify, effective, ht, hn, Fields.values_overlay]
    rfl

/-- What a place strips, no longer counts; nothing else changes. -/
theorem effective_strippedAt (m : Message) (p : Parent) (n : FieldName) :
    (m.modifyBoth (·.strippedAt p)).effective n = if p.strips n then [] else m.effective n := by
  simp only [effective, modifyBoth, Fields.contains_strippedAt, Fields.values_strippedAt]
  cases p.strips n <;> simp

@[simp] theorem effective_append (m : Message) (data : List UInt8) (n : FieldName) :
    (m.append data).effective n = m.effective n :=
  rfl

end Message

end StreamPriority
