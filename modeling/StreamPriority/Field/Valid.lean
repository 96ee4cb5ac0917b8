import StreamPriority.Field.Basic

/-!
# Valid fields

A name is a token of HTTP: one or more ASCII letters, digits or certain marks. A value keeps to its line: no carriage
return, no line feed, and no NUL. `Field.Valid` says so of characters, `Field.isValid` checks the octets that are sent;
they agree (`Field.isValid_iff`), because every octet of a character beyond ASCII is 128 or more.
-/

namespace StreamPriority

/-- The marks that may stand in a token beside letters and digits. -/
def tokenMarks : List Char :=
  "!#$%&'*+-.^_\x60|~".toList

/-- Whether a character may stand in a token. -/
def isTokenChar (c : Char) : Bool :=
  c.isAlphanum || tokenMarks.contains c

/-- Whether a character ends a line or a text before its end. -/
def isBreakChar (c : Char) : Bool :=
  c == '\r' || c == '\n' || c == '\x00'

/-- A field whose name is a token and whose value keeps to its line. -/
def Field.Valid (f : Field) : Prop :=
  f.name.text ≠ "" ∧ (∀ c ∈ f.name.text.toList, isTokenChar c) ∧ ∀ c ∈ f.value.toList, !isBreakChar c

/-- The octets of a text in UTF-8. -/
def octets (s : String) : List UInt8 :=
  s.toUTF8.data.toList

/-- Whether an octet is that of a character of a token. -/
def isTokenOctet (b : UInt8) : Bool :=
  (48 ≤ b && b ≤ 57) || (65 ≤ b && b ≤ 90) || (97 ≤ b && b ≤ 122) || tokenMarks.any (·.toNat == b.toNat)

/-- Whether an octet is a carriage return, a line feed or NUL. -/
def isBreakOctet (b : UInt8) : Bool :=
  b == 13 || b == 10 || b == 0

/-- Whether the octets of a field make it valid. -/
def Field.isValid (f : Field) : Bool :=
  !f.name.text.isEmpty && (octets f.name.text).all isTokenOctet && !(octets f.value).any isBreakOctet

/-- The first field that is not valid, if there is one. -/
def Fields.firstInvalid? (fs : Fields) : Option Field :=
  fs.entries.find? (!·.isValid)

/-! ## Octets and characters agree -/

/-- The octets of a text are those of its characters, one after another. -/
theorem octets_eq (s : String) : octets s = s.toList.flatMap String.utf8EncodeChar := by
  rw [octets, String.toUTF8_eq_toByteArray, ← String.utf8Encode_toList, List.utf8Encode, List.data_toByteArray]

/-- An ASCII character is one octet, its own number. -/
theorem utf8EncodeChar_of_lt {c : Char} (h : c.toNat < 128) :
    String.utf8EncodeChar c = [UInt8.ofNat c.toNat] := by
  have hle : c.val.toNat ≤ 0x7f := Nat.le_of_lt_succ h
  simp only [String.utf8EncodeChar, if_pos hle]
  rfl

/-- Any other character is some octets from 128 on. -/
theorem utf8EncodeChar_of_le {c : Char} (h : 128 ≤ c.toNat) :
    String.utf8EncodeChar c ≠ [] ∧ ∀ b ∈ String.utf8EncodeChar c, 128 ≤ b.toNat := by
  have hgt : ¬c.val.toNat ≤ 0x7f := Nat.not_le.mpr h
  refine ⟨String.utf8EncodeChar_ne_nil, ?_⟩
  simp only [String.utf8EncodeChar, if_neg hgt]
  split
  · simp only [List.mem_cons, List.not_mem_nil, or_false]
    rintro b (rfl | rfl) <;> simp only [UInt8.toNat_ofNat'] <;> omega
  · split
    · simp only [List.mem_cons, List.not_mem_nil, or_false]
      rintro b (rfl | rfl | rfl) <;> simp only [UInt8.toNat_ofNat'] <;> omega
    · simp only [List.mem_cons, List.not_mem_nil, or_false]
      rintro b (rfl | rfl | rfl | rfl) <;> simp only [UInt8.toNat_ofNat'] <;> omega

/-- Up to 127, octets and characters are the same. -/
theorem isTokenOctet_ofNat : ∀ n < 128, isTokenOctet (UInt8.ofNat n) = isTokenChar (Char.ofNat n) := by
  decide +kernel

theorem isBreakOctet_ofNat : ∀ n < 128, isBreakOctet (UInt8.ofNat n) = isBreakChar (Char.ofNat n) := by
  decide +kernel

theorem isTokenOctet_of_le {b : UInt8} (h : 128 ≤ b.toNat) : isTokenOctet b = false := by
  have hall : ∀ n < 256, 128 ≤ n → isTokenOctet (UInt8.ofNat n) = false := by decide +kernel
  simpa using hall b.toNat b.toNat_lt h

theorem isBreakOctet_of_le {b : UInt8} (h : 128 ≤ b.toNat) : isBreakOctet b = false := by
  have hall : ∀ n < 256, 128 ≤ n → isBreakOctet (UInt8.ofNat n) = false := by decide +kernel
  simpa using hall b.toNat b.toNat_lt h

/-- Only ASCII characters stand in a token. -/
theorem toNat_lt_of_isTokenChar {c : Char} (h : isTokenChar c = true) : c.toNat < 128 := by
  rcases Bool.or_eq_true _ _ ▸ h with ha | hm
  · delta Char.isAlphanum Char.isAlpha Char.isUpper Char.isLower Char.isDigit at ha
    simp only [Bool.or_eq_true, Bool.and_eq_true, decide_eq_true_eq, UInt32.le_iff_toNat_le, ge_iff_le] at ha
    simp only [Char.reduceVal, UInt32.reduceToNat, Char.toNat_val] at ha
    omega
  · have hall : (tokenMarks.all fun d => decide (d.toNat < 128)) = true := by decide
    exact of_decide_eq_true (List.all_eq_true.mp hall c (List.contains_iff_mem.mp hm))

/-- Only ASCII characters end a line. -/
theorem toNat_lt_of_isBreakChar {c : Char} (h : isBreakChar c = true) : c.toNat < 128 := by
  simp only [isBreakChar, Bool.or_eq_true, beq_iff_eq] at h
  rcases h with (rfl | rfl) | rfl <;> decide

/-- The octets of a character are those of a token exactly when the character is. -/
theorem all_isTokenOctet (c : Char) : (String.utf8EncodeChar c).all isTokenOctet = isTokenChar c := by
  by_cases h : c.toNat < 128
  · rw [utf8EncodeChar_of_lt h, List.all_cons, List.all_nil, Bool.and_true, isTokenOctet_ofNat _ h, Char.ofNat_toNat]
  · obtain ⟨hne, hall⟩ := utf8EncodeChar_of_le (Nat.not_lt.mp h)
    obtain ⟨b, hb⟩ := List.exists_mem_of_ne_nil _ hne
    have hc : isTokenChar c = false := Bool.eq_false_iff.mpr fun hc => h (toNat_lt_of_isTokenChar hc)
    rw [hc, List.all_eq_false]
    exact ⟨b, hb, by rw [isTokenOctet_of_le (hall b hb)]; exact Bool.false_ne_true⟩

/-- Some octet of a character ends a line exactly when the character does. -/
theorem any_isBreakOctet (c : Char) : (String.utf8EncodeChar c).any isBreakOctet = isBreakChar c := by
  by_cases h : c.toNat < 128
  · rw [utf8EncodeChar_of_lt h, List.any_cons, List.any_nil, Bool.or_false, isBreakOctet_ofNat _ h, Char.ofNat_toNat]
  · have hc : isBreakChar c = false := Bool.eq_false_iff.mpr fun hc => h (toNat_lt_of_isBreakChar hc)
    rw [hc, List.any_eq_false]
    intro b hb
    rw [isBreakOctet_of_le ((utf8EncodeChar_of_le (Nat.not_lt.mp h)).2 b hb)]
    exact Bool.false_ne_true

/-- Octets and characters agree on which fields are valid. -/
theorem Field.isValid_iff (f : Field) : f.isValid = true ↔ f.Valid := by
  simp only [Field.isValid, Field.Valid, octets_eq, List.all_flatMap, List.any_flatMap, all_isTokenOctet,
    any_isBreakOctet, Bool.and_eq_true, List.all_eq_true]
  simp [and_assoc]

instance (f : Field) : Decidable f.Valid :=
  decidable_of_iff _ f.isValid_iff

end StreamPriority
