import StreamPriority.Proofs.Effective

/-!
# Leaving names out

To say that two messages differ in nothing but the entries under some names, these entries are left out of both
(`Fields.without`). All that a relay does to fields can be done as well once names are left out: overlays and strips of the
whole fields and of the rest agree.
-/

namespace StreamPriority

/-- The fields under all other names. -/
def Fields.without (fs : Fields) (p : FieldName → Bool) : Fields :=
  ⟨fs.entries.filter (!p ·.name)⟩

/-- The block with its fields under all other names. -/
def Block.without (b : Block) (p : FieldName → Bool) : Block :=
  { b with fields := b.fields.without p }

/-- The message with its fields under all other names. -/
def Message.without (m : Message) (p : FieldName → Bool) : Message :=
  m.modifyBoth (·.without p)

variable {p : FieldName → Bool}

namespace Fields

@[simp] theorem entries_without (fs : Fields) (p : FieldName → Bool) :
    (fs.without p).entries = fs.entries.filter (!p ·.name) :=
  rfl

/-- Exactly the other names keep their values. -/
theorem contains_without (fs : Fields) (p : FieldName → Bool) (n : FieldName) :
    (fs.without p).contains n = (!p n && fs.contains n) := by
  rw [Bool.eq_iff_iff, contains_iff, Bool.and_eq_true, contains_iff]
  simp only [entries_without, List.mem_filter]
  constructor
  · rintro ⟨f, ⟨hf, hp⟩, rfl⟩
    exact ⟨hp, f, hf, rfl⟩
  · rintro ⟨hp, f, hf, rfl⟩
    exact ⟨f, ⟨hf, hp⟩, rfl⟩

theorem without_overlay (fs other : Fields) (p : FieldName → Bool) :
    (fs.overlay other).without p = (fs.without p).overlay (other.without p) := by
  ext1
  simp only [entries_without, entries_overlay, List.filter_append, List.filter_filter]
  congr 1
  apply List.filter_congr
  intro f _
  rw [contains_without]
  cases p f.name <;> simp

/-- Leaving names out and then others is leaving all of them out. -/
theorem without_or (fs : Fields) (p q : FieldName → Bool) :
    (fs.without p).without q = fs.without fun n => p n || q n := by
  ext1
  simp only [entries_without, List.filter_filter, Bool.not_or, Bool.and_comm]

/-- Where names are left out, leaving out more of them leaves what leaving out those leaves at once. -/
theorem without_without {q : FieldName → Bool} (hq : ∀ n, p n = true → q n = true) (fs : Fields) :
    (fs.without p).without q = fs.without q := by
  have hor : (fun n => p n || q n) = q := by
    funext n
    cases hp : p n with
    | true => rw [hq n hp, Bool.or_true]
    | false => rw [Bool.false_or]
  rw [without_or, hor]

/-- What a place strips are the entries under the names that it strips. -/
theorem strippedAt_eq_without (fs : Fields) (p : Parent) : fs.strippedAt p = fs.without p.strips := by
  ext1
  cases p with
  | none => rw [strippedAt, entries_removePriority, entries_without]; rfl
  | root => rfl
  | stream d => exact (List.filter_eq_self.mpr fun _ _ => rfl).symm

theorem without_strippedAt (fs : Fields) (q : Parent) (p : FieldName → Bool) :
    (fs.strippedAt q).without p = (fs.without p).strippedAt q := by
  simp only [strippedAt_eq_without, without_or, Bool.or_comm]

/-- What a place strips is not seen where all that it strips is left out. -/
theorem without_strippedAt_of_strips {q : Parent} (hp : ∀ n, q.strips n = true → p n = true) (fs : Fields) :
    (fs.strippedAt q).without p = fs.without p := by
  rw [strippedAt_eq_without, without_without hp]

/-- Where no entry is left out, the fields stay as they are. -/
theorem without_eq_self {fs : Fields} (h : ∀ f ∈ fs.entries, p f.name = false) : fs.without p = fs := by
  ext1
  rw [entries_without, List.filter_eq_self]
  intro f hf
  rw [h f hf]
  rfl

end Fields

namespace Message

/-- A change of the active fields that has a counterpart for the rest of them has it in a message, too. -/
theorem without_modifyActive (m : Message) {f g : Fields → Fields}
    (h : ∀ fs : Fields, (f fs).without p = g (fs.without p)) :
    (m.modifyActive f).without p = (m.without p).modifyActive g := by
  have hp : (m.without p).activePart = m.activePart := rfl
  rw [modifyActive, modifyActive, hp]
  cases m.activePart <;> simp only [modify, without, modifyBoth, h]

theorem without_overlay (m : Message) (fs : Fields) (p : FieldName → Bool) :
    (m.modifyActive (·.overlay fs)).without p = (m.without p).modifyActive (·.overlay (fs.without p)) :=
  m.without_modifyActive fun gs => gs.without_overlay fs p

theorem without_strippedAt (m : Message) (q : Parent) (p : FieldName → Bool) :
    (m.modifyBoth (·.strippedAt q)).without p = (m.without p).modifyBoth (·.strippedAt q) := by
  simp only [without, modifyBoth, Fields.without_strippedAt]

theorem without_without {q : FieldName → Bool} (hq : ∀ n, p n = true → q n = true) (m : Message) :
    (m.without p).without q = m.without q := by
  simp only [without, modifyBoth, Fields.without_without hq]

theorem without_strippedAt_of_strips {q : Parent} (hp : ∀ n, q.strips n = true → p n = true) (m : Message) :
    (m.modifyBoth (·.strippedAt q)).without p = m.without p := by
  simp only [without, modifyBoth, Fields.without_strippedAt_of_strips hp]

theorem without_append (m : Message) (data : List UInt8) (p : FieldName → Bool) :
    (m.append data).without p = (m.without p).append data :=
  rfl

@[simp] theorem content_without (m : Message) (p : FieldName → Bool) : (m.without p).content = m.content :=
  rfl

end Message

/-- Two options that become the same are both empty, or two values that become the same. -/
theorem Option.cases_of_map_eq {α β : Type} {f : α → β} {x y : Option α} (h : x.map f = y.map f) :
    (x = none ∧ y = none) ∨ ∃ a b, x = some a ∧ y = some b ∧ f a = f b := by
  cases x with
  | none =>
    cases y with
    | none => exact Or.inl ⟨rfl, rfl⟩
    | some b => cases h
  | some a =>
    cases y with
    | none => cases h
    | some b => exact Or.inr ⟨a, b, rfl, rfl, Option.some.inj h⟩

/-- Two answers that become the same are one error, or two values that become the same. -/
theorem Except.cases_of_map_eq {ε α β : Type} {f : α → β} {x y : Except ε α} (h : x.map f = y.map f) :
    (∃ e, x = .error e ∧ y = .error e) ∨ ∃ a b, x = .ok a ∧ y = .ok b ∧ f a = f b := by
  cases x with
  | error e =>
    cases y with
    | error e' =>
      obtain rfl : e = e' := Except.error.inj h
      exact Or.inl ⟨e, rfl, rfl⟩
    | ok b => cases h
  | ok a =>
    cases y with
    | error e' => cases h
    | ok b => exact Or.inr ⟨a, b, rfl, rfl, Except.ok.inj h⟩

/-- Pairing with a stream and changing what is paired may be done in either order. -/
theorem Option.map_toList_pair {α β : Type} (s : StreamId) (f : α → β) (x : Option α) :
    (x.map (s, ·)).toList.map (Prod.map id f) = ((x.map f).map (s, ·)).toList := by
  cases x <;> rfl

end StreamPriority
