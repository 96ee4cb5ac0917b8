import StreamPriority.Text.Quoted

/-!
# Quoted texts read back

A quoted text can be read back, whatever it quotes and whatever follows it (`Text.unquote?_quoted`): no escape begins another
one, and none begins like the quote that ends the text. And no control character stands in it (`Text.isControl_of_mem_quoted`),
so that it keeps to its line.
-/

namespace StreamPriority.Text

/-! ## Numbers -/

/-- The value of a small hexadecimal digit. -/
def digitValue (c : Char) : Nat :=
  if c.isDigit then c.toNat - 48 else c.toNat - 87

theorem digitValue_digitChar : ∀ d < 16, digitValue d.digitChar = d := by
  decide

/-- A number is written in the digits of its base. -/
theorem exists_of_mem_toDigits {b n : Nat} (hb : 1 < b) {c : Char} (h : c ∈ Nat.toDigits b n) :
    ∃ d < b, c = d.digitChar := by
  induction n using Nat.strongRecOn with
  | ind n ih =>
    rcases Nat.lt_or_ge n b with hlt | hge
    · rw [Nat.toDigits_of_lt_base hlt, List.mem_singleton] at h
      exact ⟨n, hlt, h⟩
    · rw [Nat.toDigits_of_base_le hb hge, List.mem_append, List.mem_singleton] at h
      rcases h with h | h
      · exact ih (n / b) (Nat.div_lt_self (by omega) hb) h
      · exact ⟨n % b, Nat.mod_lt n (by omega), h⟩

/-- The digits of a number, read one after another, give the number. -/
theorem foldl_digitValue (n : Nat) : (Nat.toDigits 16 n).foldl (fun a c => 16 * a + digitValue c) 0 = n := by
  induction n using Nat.strongRecOn with
  | ind n ih =>
    rcases Nat.lt_or_ge n 16 with hlt | hge
    · rw [Nat.toDigits_of_lt_base hlt, List.foldl_cons, List.foldl_nil, digitValue_digitChar n hlt]
      omega
    · rw [Nat.toDigits_of_base_le (by decide) hge, List.foldl_append, ih (n / 16) (by omega), List.foldl_cons,
        List.foldl_nil, digitValue_digitChar (n % 16) (by omega)]
      omega

/-! ## Escapes -/

/-- The characters with a short escape, each behind the one that stands for it after a backslash. -/
def shorts : List (Char × Char) :=
  [('"', '"'), ('\\', '\\'), ('t', '\t'), ('n', '\n'), ('r', '\r'), ('0', '\x00')]

/-- The character that a backslash and another character stand for. -/
def short? (c : Char) : Option Char :=
  (shorts.find? (·.1 == c)).map (·.2)

/-- Whether a character is a control character of ASCII. -/
def isControl (c : Char) : Bool :=
  c.toNat < 0x20 || c.toNat == 0x7f

/-- A character has a short escape, stands as its number, or stands as it is. -/
theorem escape_cases (c : Char) :
    (∃ p ∈ shorts, p.2 = c ∧ escape c = ['\\', p.1]) ∨ escape c = numbered c ∨
      (c ≠ '"' ∧ c ≠ '\\' ∧ isUnprintable c = false ∧ escape c = [c]) := by
  by_cases hshort : ∃ p ∈ shorts, p.2 = c
  · obtain ⟨p, hp, rfl⟩ := hshort
    have hall : ∀ p ∈ shorts, escape p.2 = ['\\', p.1] := by decide
    exact Or.inl ⟨p, hp, rfl, hall p hp⟩
  · have hne : ∀ p ∈ shorts, c ≠ p.2 := fun p hp hc => hshort ⟨p, hp, hc.symm⟩
    simp only [shorts, List.forall_mem_cons] at hne
    right
    cases hprint : isUnprintable c with
    | true =>
      left
      simp [escape, hne, hprint]
    | false =>
      right
      refine ⟨hne.1, hne.2.1, rfl, ?_⟩
      simp [escape, hne, hprint]

/-- What was looked through character by character holds no control character. -/
theorem isControl_of_all {l : List Char} (h : l.all (!isControl ·) = true) {c : Char} (hc : c ∈ l) : isControl c = false := by
  rw [← Bool.not_eq_true']
  exact List.all_eq_true.mp h c hc

/-- No control character stands in an escape. -/
theorem isControl_of_mem_escape {c d : Char} (h : d ∈ escape c) : isControl d = false := by
  rcases escape_cases c with ⟨p, hp, -, hc⟩ | hc | ⟨-, -, hprint, hc⟩
  · have hall : ∀ p ∈ shorts, ['\\', p.1].all (!isControl ·) = true := by decide
    rw [hc] at h
    exact isControl_of_all (hall p hp) h
  · rw [hc, numbered, List.mem_append, List.mem_append] at h
    rcases h with (h | h) | h
    · exact isControl_of_all (by decide) h
    · obtain ⟨k, hk, rfl⟩ := exists_of_mem_toDigits (by decide) h
      have hall : ∀ k < 16, isControl k.digitChar = false := by decide
      exact hall k hk
    · rw [List.mem_singleton.mp h]
      rfl
  · rw [hc, List.mem_singleton] at h
    rw [h, Bool.eq_false_iff]
    intro hcontrol
    simp only [isControl, Bool.or_eq_true, decide_eq_true_eq, beq_iff_eq] at hcontrol
    rw [isUnprintable_of_control hcontrol] at hprint
    cases hprint

/-- No control character stands in a quoted text. -/
theorem isControl_of_mem_quoted {s : String} {c : Char} (h : c ∈ (quoted s).toList) : isControl c = false := by
  rw [quoted, String.toList_ofList, List.mem_append, List.mem_append, List.mem_flatMap] at h
  rcases h with (h | ⟨d, -, h⟩) | h
  · rw [List.mem_singleton.mp h]
    rfl
  · exact isControl_of_mem_escape h
  · rw [List.mem_singleton.mp h]
    rfl

/-! ## Reading -/

/-- Where a reader of a quoted text stands. -/
inductive Place where
  /-- Before a character or an escape. -/
  | plain
  /-- After the backslash of an escape. -/
  | escaped
  /-- Before the brace that opens a number. -/
  | opening
  /-- Within a number, after digits of that value. -/
  | number (n : Nat)

/-- Puts a character that was read before those that were read after it. -/
def push (c : Char) (p : List Char × List Char) : List Char × List Char :=
  (c :: p.1, p.2)

/-- Reads on to the closing quote: what is quoted up to there, and what follows. -/
def readOn : Place → List Char → Option (List Char × List Char)
  | _, [] => none
  | .plain, c :: l =>
    if c = '"' then some ([], l) else if c = '\\' then readOn .escaped l else (readOn .plain l).map (push c)
  | .escaped, c :: l =>
    match short? c with
    | some d => (readOn .plain l).map (push d)
    | none => if c = 'u' then readOn .opening l else none
  | .opening, c :: l => if c = '\x7b' then readOn (.number 0) l else none
  | .number n, c :: l =>
    if c = '\x7d' then (readOn .plain l).map (push (.ofNat n)) else readOn (.number (16 * n + digitValue c)) l

/-- Reads a quoted text: what is quoted, and what follows. -/
def unquote? : List Char → Option (List Char × List Char)
  | '"' :: l => readOn .plain l
  | _ => none

/-- A number is read up to its closing brace. -/
theorem readOn_number (n : Nat) {digits : List Char} (h : ∀ c ∈ digits, c ≠ '\x7d') (l : List Char) :
    readOn (.number n) (digits ++ '\x7d' :: l) =
      (readOn .plain l).map (push (.ofNat (digits.foldl (fun a c => 16 * a + digitValue c) n))) := by
  induction digits generalizing n with
  | nil => rfl
  | cons c digits ih =>
    rw [List.cons_append, readOn, if_neg (h c List.mem_cons_self), ih _ fun d hd => h d (List.mem_cons_of_mem c hd)]
    rfl

theorem readOn_numbered (c : Char) (l : List Char) :
    readOn .plain (numbered c ++ l) = (readOn .plain l).map (push c) := by
  have hbrace : ∀ d ∈ Nat.toDigits 16 c.toNat, d ≠ '\x7d' := by
    intro d hd
    obtain ⟨k, hk, rfl⟩ := exists_of_mem_toDigits (by decide) hd
    have hall : ∀ k < 16, k.digitChar ≠ '\x7d' := by decide
    exact hall k hk
  have hopen : readOn .plain (numbered c ++ l) = readOn (.number 0) (Nat.toDigits 16 c.toNat ++ '\x7d' :: l) := by
    rw [numbered, List.append_assoc, List.append_assoc]
    rfl
  rw [hopen, readOn_number 0 hbrace, foldl_digitValue, Char.ofNat_toNat]

/-- An escape is read as the character it stands for. -/
theorem readOn_escape (c : Char) (l : List Char) :
    readOn .plain (escape c ++ l) = (readOn .plain l).map (push c) := by
  rcases escape_cases c with ⟨p, hp, rfl, hc⟩ | hc | ⟨hquote, hbackslash, -, hc⟩
  · have hall : ∀ p ∈ shorts, short? p.1 = some p.2 := by decide
    have hescaped : readOn .plain (['\\', p.1] ++ l) = readOn .escaped (p.1 :: l) := rfl
    rw [hc, hescaped, readOn, hall p hp]
  · rw [hc, readOn_numbered]
  · rw [hc, List.singleton_append, readOn, if_neg hquote, if_neg hbackslash]

/-- What is quoted is read back, and what follows is left. -/
theorem unquote?_quoted (s : String) (l : List Char) : unquote? ((quoted s).toList ++ l) = some (s.toList, l) := by
  have hread : ∀ cs : List Char, readOn .plain (cs.flatMap escape ++ '"' :: l) = some (cs, l) := by
    intro cs
    induction cs with
    | nil => rfl
    | cons c cs ih =>
      rw [List.flatMap_cons, List.append_assoc, readOn_escape, ih]
      rfl
  rw [quoted, String.toList_ofList, List.append_assoc, List.append_assoc]
  exact hread s.toList

end StreamPriority.Text
