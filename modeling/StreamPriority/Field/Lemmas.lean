import StreamPriority.Field.Basic

/-!
# What the operations on fields leave

For each operation: the entries it leaves, and the values a name has afterwards.
-/

namespace StreamPriority
namespace Fields

/-! ## Entries -/

@[simp] theorem entries_empty : empty.entries = [] :=
  rfl

@[simp] theorem entries_add (fs : Fields) (n : FieldName) (v : String) :
    (fs.add n v).entries = fs.entries ++ [⟨n, v⟩] :=
  rfl

@[simp] theorem entries_remove (fs : Fields) (n : FieldName) :
    (fs.remove n).entries = fs.entries.filter (·.name != n) :=
  rfl

@[simp] theorem entries_set (fs : Fields) (n : FieldName) (v : String) :
    (fs.set n v).entries = fs.entries.filter (·.name != n) ++ [⟨n, v⟩] :=
  rfl

@[simp] theorem entries_single (n : FieldName) (v : String) : (single n v).entries = [⟨n, v⟩] :=
  rfl

/-- Dropping the names of some entries one by one leaves what has none of those names. -/
theorem entries_foldl_remove (l : List Field) (fs : Fields) :
    (l.foldl (fun acc f => acc.remove f.name) fs).entries =
      fs.entries.filter fun f => !l.any (·.name == f.name) := by
  induction l generalizing fs with
  | nil => exact (List.filter_eq_self.mpr fun _ _ => rfl).symm
  | cons g l ih =>
    simp only [List.foldl_cons, ih, entries_remove, List.filter_filter, List.any_cons]
    congr 1
    funext f
    rw [Bool.not_or, Bool.and_comm, bne, BEq.comm]

/-- An overlay keeps what has no name of the other fields, and puts those behind. -/
theorem entries_overlay (fs other : Fields) :
    (fs.overlay other).entries = fs.entries.filter (fun f => !other.contains f.name) ++ other.entries := by
  simp only [overlay, entries_foldl_remove, contains]

theorem entries_ofList (l : List (String × String)) :
    (ofList l).entries = l.map fun p => ⟨.ofString p.1, p.2⟩ := by
  suffices h : ∀ fs : Fields, (l.foldl (fun fs p => fs.add (.ofString p.1) p.2) fs).entries =
      fs.entries ++ l.map fun p => ⟨.ofString p.1, p.2⟩ by
    simpa [ofList] using h empty
  induction l with
  | nil => simp
  | cons p l ih =>
    intro fs
    simp [ih]

/-- Reading back the kept spellings gives the same fields. -/
theorem ofList_toList (fs : Fields) : ofList fs.toList = fs := by
  ext1
  simp only [entries_ofList, toList, List.map_map]
  conv => rhs; rw [← List.map_id fs.entries]
  apply List.map_congr_left
  intro f _
  simp [FieldName.ofString_text]

/-! ## Values of a name -/

/-- A name has a value exactly when some entry bears it. -/
theorem contains_iff (fs : Fields) (n : FieldName) : fs.contains n = true ↔ ∃ f ∈ fs.entries, f.name = n := by
  simp [contains]

theorem contains_eq_not_isEmpty (fs : Fields) (n : FieldName) : fs.contains n = !(fs.values n).isEmpty := by
  rw [Bool.eq_iff_iff, contains_iff]
  simp [values]

@[simp] theorem values_empty (n : FieldName) : empty.values n = [] :=
  rfl

theorem values_add (fs : Fields) (n m : FieldName) (v : String) :
    (fs.add n v).values m = fs.values m ++ if n = m then [v] else [] := by
  by_cases h : n = m <;> simp [values, h]

theorem values_remove (fs : Fields) (n m : FieldName) :
    (fs.remove n).values m = if n = m then [] else fs.values m := by
  by_cases h : n = m
  · subst h
    simp [values]
  · simp only [values, entries_remove, List.filter_filter, if_neg h]
    congr 1
    apply List.filter_congr
    intro f _
    by_cases hf : f.name = m
    · have : m ≠ n := fun he => h he.symm
      simp [hf, this]
    · simp [hf]

theorem values_set (fs : Fields) (n m : FieldName) (v : String) :
    (fs.set n v).values m = if n = m then [v] else fs.values m := by
  by_cases h : n = m <;> simp [set, values_add, values_remove, h]

/-- An overlay overrides exactly the names of the other fields. -/
theorem values_overlay (fs other : Fields) (m : FieldName) :
    (fs.overlay other).values m = if other.contains m then other.values m else fs.values m := by
  simp only [values, entries_overlay, List.filter_append, List.filter_filter, List.map_append]
  by_cases h : other.contains m = true
  · have hnone : fs.entries.filter (fun f => f.name == m && !other.contains f.name) = [] := by
      rw [List.filter_eq_nil_iff]
      intro f _ hf
      simp only [Bool.and_eq_true, beq_iff_eq, Bool.not_eq_true'] at hf
      rw [hf.1, h] at hf
      exact absurd hf.2 (by decide)
    rw [hnone, if_pos h]
    rfl
  · have hnone : other.entries.filter (·.name == m) = [] := by
      rw [List.filter_eq_nil_iff]
      intro f hf hm
      exact h ((contains_iff other m).mpr ⟨f, hf, by simpa using hm⟩)
    rw [hnone, if_neg h, List.map_nil, List.append_nil]
    congr 1
    apply List.filter_congr
    intro f _
    by_cases hf : f.name = m
    · simp [hf, h]
    · simp [hf]

/-- Dropping a name drops something exactly when the name has a value. -/
theorem removes_eq_contains (fs : Fields) (n : FieldName) : fs.removes n = fs.contains n := by
  rw [Bool.eq_iff_iff, contains_iff]
  simp only [removes, size, entries_remove, bne_iff_ne, ne_eq, List.length_filter_eq_length_iff]
  simp

end Fields
end StreamPriority
