import Mathlib.Algebra.BigOperators.Finprod
import StreamPriority.Proofs.Effective

/-!
# Fields as a map

Fields stand in one list, under folded names, and are looked up under any spelling. Asked for what they hold they cannot be
told from a map that has a list of values for each name, whatever they were put together from (`Edits.acts_as_map`). There are
two things to it. The spellings that stand for one name are those that differ in nothing but the case of ASCII letters
(`FieldName.ofString_eq_iff_sameSpelling`), so that folding when a field is added and comparing when it is looked up agree. And
every way to put fields together does to the values of a name what it does to the map (`Edits.values_fields`).
-/

namespace StreamPriority

/-! ## Spellings of one name -/

/-- Whether two characters are the same, or the capital and the small form of one ASCII letter. -/
def sameLetter (c d : Char) : Bool :=
  c == d || (c.isUpper && d.toNat == c.toNat + 32) || (d.isUpper && c.toNat == d.toNat + 32)

/-- Whether two texts differ in nothing but the case of ASCII letters. -/
def sameSpelling (s t : String) : Bool :=
  List.all₂ sameLetter s.toList t.toList

/-- The second character is the small form of the first if that is a capital ASCII letter, and the first itself if not. -/
def Folded (c d : Char) : Prop :=
  if c.isUpper then d.toNat = c.toNat + 32 else d = c

/-- The capital ASCII letters by their numbers. -/
theorem isUpper_iff (c : Char) : c.isUpper = true ↔ 65 ≤ c.toNat ∧ c.toNat ≤ 90 := by
  delta Char.isUpper
  simp [UInt32.le_iff_toNat_le]

theorem toNat_toLower (c : Char) : c.toLower.toNat = if c.isUpper then c.toNat + 32 else c.toNat := by
  by_cases h : c.val ≥ 'A'.val ∧ c.val ≤ 'Z'.val
  · have hup : c.isUpper = true := decide_eq_true h
    have hval : c.toLower.val = c.val + ('a'.val - 'A'.val) := congrArg Char.val (dif_pos h)
    obtain ⟨hlow, hhigh⟩ := (isUpper_iff c).mp hup
    rw [if_pos hup, ← Char.toNat_val, hval, UInt32.toNat_add]
    simp
    omega
  · have hup : ¬c.isUpper = true := Bool.eq_false_iff.mp (decide_eq_false h)
    rw [if_neg hup, toLower_of_not_capital h]

theorem folded_toLower (c : Char) : Folded c c.toLower := by
  have h := toNat_toLower c
  unfold Folded
  by_cases hup : c.isUpper = true
  · rw [if_pos hup] at h ⊢
    exact h
  · rw [if_neg hup] at h ⊢
    exact Char.toNat_inj.mp h

/-- No capital ASCII letter is left by folding. -/
theorem isUpper_toLower (c : Char) : c.toLower.isUpper = false := by
  rw [Bool.eq_false_iff]
  intro hlow
  have h := toNat_toLower c
  rw [isUpper_iff] at hlow
  by_cases hup : c.isUpper = true
  · rw [if_pos hup] at h
    rw [isUpper_iff] at hup
    omega
  · rw [if_neg hup] at h
    rw [isUpper_iff] at hup
    omega

/-- Two characters fold to the same one exactly if they are the same but for the case of an ASCII letter. -/
theorem toLower_eq_toLower_iff (c d : Char) : c.toLower = d.toLower ↔ sameLetter c d = true := by
  rw [← Char.toNat_inj, toNat_toLower, toNat_toLower]
  simp only [sameLetter, Bool.or_eq_true, Bool.and_eq_true, beq_iff_eq, ← Char.toNat_inj, isUpper_iff]
  split <;> split <;> omega

/-- Two texts fold to the same one exactly if they differ in nothing but the case of ASCII letters. -/
theorem foldCase_eq_foldCase_iff (s t : String) : foldCase s = foldCase t ↔ sameSpelling s t = true := by
  rw [← String.toList_inj, toList_foldCase, toList_foldCase, ← List.forall₂_eq_eq_eq, List.forall₂_map_left_iff,
    List.forall₂_map_right_iff, sameSpelling, List.all₂_eq_true]
  simp only [toLower_eq_toLower_iff]

/-- The spellings of one name are those that differ in nothing but the case of ASCII letters. -/
theorem FieldName.ofString_eq_iff_sameSpelling {s t : String} : ofString s = ofString t ↔ sameSpelling s t = true :=
  ofString_eq_iff.trans (foldCase_eq_foldCase_iff s t)

/-- Folding a text makes its capital ASCII letters small, and leaves every other character. -/
theorem folded_foldCase (s : String) : List.Forall₂ Folded s.toList (foldCase s).toList := by
  rw [toList_foldCase, List.forall₂_map_right_iff, List.forall₂_same]
  exact fun c _ => folded_toLower c

/-- A name is kept without capital ASCII letters. -/
theorem FieldName.isUpper_of_mem_text {n : FieldName} {c : Char} (h : c ∈ n.text.toList) : c.isUpper = false := by
  rw [← n.folded, toList_foldCase, List.mem_map] at h
  obtain ⟨d, -, rfl⟩ := h
  exact isUpper_toLower d

namespace Fields

/-- Under a spelling stand the values of all entries whose kept name differs from it in nothing but the case of letters. -/
theorem values_ofString (fs : Fields) (n : String) :
    fs.values (.ofString n) = (fs.toList.filter (sameSpelling ·.1 n)).map (·.2) := by
  rw [toList, List.filter_map, List.map_map, values]
  congr 1
  apply List.filter_congr
  intro f _
  rw [Function.comp_apply, Bool.eq_iff_iff, beq_iff_eq, ← FieldName.ofString_eq_iff_sameSpelling, FieldName.ofString_text]

/-- Fields have as many entries as there are values of all names together. -/
theorem size_eq_finsum (fs : Fields) :
    {n | fs.values n ≠ []}.Finite ∧ fs.size = ∑ᶠ n, (fs.values n).length := by
  have hcount : ∀ n, (fs.values n).length = (fs.entries.map (·.name)).count n := by
    intro n
    rw [values, List.length_map, List.count_eq_countP, List.countP_map, List.countP_eq_length_filter]
    rfl
  have hsupport : ∀ n, fs.values n ≠ [] → n ∈ (fs.entries.map (·.name)).toFinset := by
    intro n hn
    rw [List.mem_toFinset, ← List.count_pos_iff, ← hcount]
    exact List.length_pos_iff.mpr hn
  refine ⟨(Finset.finite_toSet _).subset hsupport, ?_⟩
  rw [finsum_eq_sum_of_support_subset (s := (fs.entries.map (·.name)).toFinset)]
  · simp only [hcount, List.sum_toFinset_count_eq_length, List.length_map]
    rfl
  · intro n hn
    exact hsupport n fun hnil => hn (congrArg List.length hnil)

theorem contains_eq_true_iff (fs : Fields) (n : FieldName) : fs.contains n = true ↔ fs.values n ≠ [] := by
  rw [ne_eq, values_eq_nil_iff, Bool.not_eq_false]

/-- There are no values exactly if no name has any. -/
theorem isEmpty_iff (fs : Fields) : fs.isEmpty = true ↔ ∀ n, fs.values n = [] := by
  rw [isEmpty, List.isEmpty_iff]
  constructor
  · intro h n
    rw [values, h]
    rfl
  · intro h
    rw [List.eq_nil_iff_forall_not_mem]
    intro f hf
    have hmem : f.value ∈ fs.values f.name := List.mem_map_of_mem (List.mem_filter.mpr ⟨hf, beq_self_eq_true f.name⟩)
    rw [h f.name] at hmem
    cases hmem

end Fields

/-! ## Ways to put fields together -/

/-- How fields are put together, from nothing. Names are spelled as one likes, and fields that are laid over others are put
together in the same way. -/
inductive Edits where
  | none
  | add (before : Edits) (name value : String)
  | set (before : Edits) (name value : String)
  | remove (before : Edits) (name : String)
  | overlay (before other : Edits)

namespace Edits

/-- The fields that are put together. -/
def fields : Edits → Fields
  | none => .empty
  | add e n v => e.fields.add (.ofString n) v
  | set e n v => e.fields.set (.ofString n) v
  | remove e n => e.fields.remove (.ofString n)
  | overlay e o => e.fields.overlay o.fields

/-- The same done to a map that has a list of values for each name. -/
def map : Edits → FieldName → List String
  | none, _ => []
  | add e n v, m => if .ofString n = m then e.map m ++ [v] else e.map m
  | set e n v, m => if .ofString n = m then [v] else e.map m
  | remove e n, m => if .ofString n = m then [] else e.map m
  | overlay e o, m => if o.map m = [] then e.map m else o.map m

/-- The names and values that are written, as they are spelled. -/
def writes : Edits → List (String × String)
  | none => []
  | add e n v => e.writes ++ [(n, v)]
  | set e n v => e.writes ++ [(n, v)]
  | remove e _ => e.writes
  | overlay e o => e.writes ++ o.writes

/-- Two ways to put fields together differ in nothing but the case of ASCII letters in names. -/
inductive SameButCase : Edits → Edits → Prop where
  | none : SameButCase none none
  | add {e e' : Edits} {n n' : String} (before : SameButCase e e') (name : sameSpelling n n' = true) (v : String) :
    SameButCase (e.add n v) (e'.add n' v)
  | set {e e' : Edits} {n n' : String} (before : SameButCase e e') (name : sameSpelling n n' = true) (v : String) :
    SameButCase (e.set n v) (e'.set n' v)
  | remove {e e' : Edits} {n n' : String} (before : SameButCase e e') (name : sameSpelling n n' = true) :
    SameButCase (e.remove n) (e'.remove n')
  | overlay {e e' o o' : Edits} (before : SameButCase e e') (other : SameButCase o o') :
    SameButCase (e.overlay o) (e'.overlay o')

/-- Every name has the values that the map has for it. -/
theorem values_fields (e : Edits) (m : FieldName) : e.fields.values m = e.map m := by
  induction e with
  | none => rfl
  | add e n v ih =>
    rw [fields, Fields.values_add, ih, map]
    split
    · rfl
    · rw [List.append_nil]
  | set e n v ih => rw [fields, Fields.values_set, ih, map]
  | remove e n ih => rw [fields, Fields.values_remove, ih, map]
  | overlay e o ihe iho =>
    have hcontains : o.fields.contains m = true ↔ o.map m ≠ [] := by rw [Fields.contains_eq_true_iff, iho]
    rw [fields, Fields.values_overlay, ihe, iho, map]
    by_cases h : o.map m = []
    · rw [if_pos h, if_neg fun hc => hcontains.mp hc h]
    · rw [if_neg h, if_pos (hcontains.mpr h)]

/-- Every entry was written, under some spelling of its name. -/
theorem exists_of_mem_fields {e : Edits} {f : Field} (h : f ∈ e.fields.entries) :
    ∃ p ∈ e.writes, f = ⟨.ofString p.1, p.2⟩ := by
  induction e with
  | none => cases h
  | add e n v ih =>
    rw [fields, Fields.entries_add, List.mem_append, List.mem_singleton] at h
    rcases h with h | rfl
    · obtain ⟨p, hp, hf⟩ := ih h
      exact ⟨p, List.mem_append_left _ hp, hf⟩
    · exact ⟨(n, v), List.mem_append_right _ List.mem_cons_self, rfl⟩
  | set e n v ih =>
    rw [fields, Fields.entries_set, List.mem_append, List.mem_singleton] at h
    rcases h with h | rfl
    · obtain ⟨p, hp, hf⟩ := ih (List.mem_filter.mp h).1
      exact ⟨p, List.mem_append_left _ hp, hf⟩
    · exact ⟨(n, v), List.mem_append_right _ List.mem_cons_self, rfl⟩
  | remove e n ih =>
    rw [fields, Fields.entries_remove] at h
    exact ih (List.mem_filter.mp h).1
  | overlay e o ihe iho =>
    rw [fields, Fields.entries_overlay, List.mem_append] at h
    rcases h with h | h
    · obtain ⟨p, hp, hf⟩ := ihe (List.mem_filter.mp h).1
      exact ⟨p, List.mem_append_left _ hp, hf⟩
    · obtain ⟨p, hp, hf⟩ := iho h
      exact ⟨p, List.mem_append_right _ hp, hf⟩

/-- The case of ASCII letters in names makes no difference, down to the order of the entries. -/
theorem SameButCase.fields_eq {e e' : Edits} (h : e.SameButCase e') : e'.fields = e.fields := by
  induction h with
  | none => rfl
  | add _ hn v ih => rw [fields, fields, ih, FieldName.ofString_eq_iff_sameSpelling.mpr hn]
  | set _ hn v ih => rw [fields, fields, ih, FieldName.ofString_eq_iff_sameSpelling.mpr hn]
  | remove _ hn ih => rw [fields, fields, ih, FieldName.ofString_eq_iff_sameSpelling.mpr hn]
  | overlay _ _ ihe iho => rw [fields, fields, ihe, iho]

/-- Fields are a map from names to lists of values, however they are put together. Under every spelling of a name stand the
values that the map has for it, in order: these are the values of the entries whose kept name differs from the spelling in
nothing but the case of ASCII letters. To look for the first value, to ask for any and to drop them all come to the same as
for that list, and the list of entries is as long as all the lists of the map together. Every entry was written in some
spelling: the value is kept as it was written, the name with its capital ASCII letters made small and every other character
as it was. So two ways to put fields together that differ in the case of such letters end in the same entries. -/
theorem acts_as_map (e : Edits) :
    (∀ n : String,
        e.fields.values (.ofString n) = e.map (.ofString n) ∧
          e.fields.values (.ofString n) = (e.fields.toList.filter (sameSpelling ·.1 n)).map (·.2) ∧
          e.fields.get? (.ofString n) = (e.map (.ofString n)).head? ∧
          (e.fields.contains (.ofString n) = true ↔ e.map (.ofString n) ≠ []) ∧
          (e.fields.removes (.ofString n) = true ↔ e.map (.ofString n) ≠ [])) ∧
      ({n | e.map n ≠ []}.Finite ∧ e.fields.size = ∑ᶠ n, (e.map n).length) ∧
      (e.fields.isEmpty = true ↔ ∀ n, e.map n = []) ∧
      (∀ f ∈ e.fields.toList, (∀ c ∈ f.1.toList, c.isUpper = false) ∧
        ∃ p ∈ e.writes, List.Forall₂ Folded p.1.toList f.1.toList ∧ f.2 = p.2) ∧
      ∀ e', e.SameButCase e' → e'.fields = e.fields := by
  have hmap : e.map = e.fields.values := funext fun m => (e.values_fields m).symm
  rw [hmap]
  refine ⟨?_, e.fields.size_eq_finsum, e.fields.isEmpty_iff, ?_, fun _ h => h.fields_eq⟩
  · intro n
    refine ⟨rfl, e.fields.values_ofString n, rfl, e.fields.contains_eq_true_iff _, ?_⟩
    rw [Fields.removes_eq_contains]
    exact e.fields.contains_eq_true_iff _
  · intro f hf
    obtain ⟨g, hg, rfl⟩ := List.mem_map.mp hf
    refine ⟨fun c hc => FieldName.isUpper_of_mem_text hc, ?_⟩
    obtain ⟨p, hp, rfl⟩ := exists_of_mem_fields hg
    exact ⟨p, hp, folded_foldCase p.1, rfl⟩

/-- Fields with several values of two names, some of which give way to those laid over them, and one that is dropped. -/
def respelled (first second third : String) : Edits :=
  (((((Edits.none.add first "1").add second "2").set third "3").add second "4").overlay
    ((Edits.none.add third "5").add first "6")).remove third

/-- Letters beyond ASCII keep their case, so that one of the names is looked up in vain with a small first letter. -/
theorem acts_as_map_respelled :
    let e := respelled "ÄBC" "X-A" "te"
    let fs := Fields.ofList [("x-a", "2"), ("x-a", "4"), ("Äbc", "6")]
    e.fields = fs ∧ e.map (.ofString "Äbc") = ["6"] ∧ fs.values (.ofString "äbc") = [] ∧
      fs.values (.ofString "X-a") = ["2", "4"] ∧ fs.removes (.ofString "X-a") = true ∧ fs.size = ∑ᶠ n, (e.map n).length ∧
      (∃ p ∈ e.writes, List.Forall₂ Folded p.1.toList "Äbc".toList ∧ "6" = p.2) ∧
      (respelled "ÄbC" "x-A" "Te").fields = fs := by
  intro e fs
  have hfs : e.fields = fs := by decide
  obtain ⟨hnames, hsize, -, hstored, hcase⟩ := e.acts_as_map
  rw [hfs] at hnames hsize hstored hcase
  have hrespelled : e.SameButCase (respelled "ÄbC" "x-A" "Te") :=
    (((((SameButCase.none.add (by decide) "1").add (by decide) "2").set (by decide) "3").add (by decide) "4").overlay
      ((SameButCase.none.add (by decide) "5").add (by decide) "6")).remove (by decide)
  obtain ⟨-, -, -, -, hdrop⟩ := hnames "X-a"
  refine ⟨hfs, by decide, ?_, ?_, hdrop.mpr (by decide), hsize.2, ?_, hcase _ hrespelled⟩
  · rw [(hnames "äbc").1]
    decide
  · rw [(hnames "X-a").1]
    decide
  · exact (hstored ("Äbc", "6") (by decide)).2

end Edits

end StreamPriority
