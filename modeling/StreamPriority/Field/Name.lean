/-!
# Field names

Two spellings that differ only in the case of ASCII letters name the same field. A name is kept in its folded spelling, so
that equal names are equal values.
-/

namespace StreamPriority

/-- What is no capital letter stays. -/
theorem toLower_of_not_capital {c : Char} (h : ¬(c.val ≥ 'A'.val ∧ c.val ≤ 'Z'.val)) : c.toLower = c :=
  dif_neg h

/-- Folding a letter twice is folding it once. -/
theorem toLower_toLower (c : Char) : c.toLower.toLower = c.toLower := by
  by_cases h : c.val ≥ 'A'.val ∧ c.val ≤ 'Z'.val
  · have hc : c.toLower.val = c.val + ('a'.val - 'A'.val) := congrArg Char.val (dif_pos h)
    apply toLower_of_not_capital
    rw [hc]
    have h₁ : 'A'.val ≤ c.val := h.1
    have h₂ := h.2
    simp only [UInt32.le_iff_toNat_le, ge_iff_le] at h₁ h₂ ⊢
    simp only [UInt32.toNat_add]
    simp at h₁ h₂ ⊢
    omega
  · rw [toLower_of_not_capital h, toLower_of_not_capital h]

/-- The text with every ASCII capital letter made small; every other character stays. -/
def foldCase (s : String) : String :=
  String.ofList (s.toList.map Char.toLower)

theorem toList_foldCase (s : String) : (foldCase s).toList = s.toList.map Char.toLower :=
  String.toList_ofList

/-- Folding a text twice is folding it once. -/
theorem foldCase_foldCase (s : String) : foldCase (foldCase s) = foldCase s := by
  rw [← String.toList_inj, toList_foldCase, toList_foldCase, List.map_map]
  exact List.map_congr_left fun c _ => toLower_toLower c

/-- The name of a field, in its folded spelling. -/
structure FieldName where
  text : String
  folded : foldCase text = text
deriving DecidableEq

namespace FieldName

/-- The name that a spelling stands for. -/
def ofString (s : String) : FieldName :=
  ⟨foldCase s, foldCase_foldCase s⟩

@[ext] theorem ext {a b : FieldName} (h : a.text = b.text) : a = b := by
  cases a
  cases b
  simp_all

theorem text_ofString (s : String) : (ofString s).text = foldCase s :=
  rfl

/-- The kept spelling of a name stands for that name. -/
theorem ofString_text (n : FieldName) : ofString n.text = n :=
  ext n.folded

/-- Two spellings stand for the same name exactly when they fold to the same text. -/
theorem ofString_eq_iff {s t : String} : ofString s = ofString t ↔ foldCase s = foldCase t :=
  ⟨fun h => congrArg text h, fun h => ext h⟩

end FieldName

end StreamPriority
