import Mathlib.Data.List.DropRight
import StreamPriority.Failure
import StreamPriority.Proofs.Unquoting

/-!
# The texts of failures read back

The text of a failure says all there is to it: a reader gets the failure back (`Failure.ofText?_text`), so that no two failures
have one text. Most of a text is fixed, and the numbers in it end where the next fixed part begins. The name of a field that is
not valid is the peer's and may hold anything, so it is quoted; the name of a pseudo-header stands as it is, and ends where
the last fixed part begins.
-/

namespace StreamPriority

namespace Text

/-! ## Fixed parts and numbers -/

/-- What follows a fixed part. -/
def after? (t : String) (l : List Char) : Option (List Char) :=
  l.dropPrefix? t.toList

/-- What goes before a fixed part. -/
def before? (t : String) (l : List Char) : Option (List Char) :=
  l.dropSuffix? t.toList

/-- The value of decimal digits. -/
def valueOf (digits : List Char) : Nat :=
  Nat.ofDigitChars 10 digits 0

/-- A number in decimal, and what follows it. -/
def number (l : List Char) : Nat × List Char :=
  (valueOf (l.takeWhile Char.isDigit), l.dropWhile Char.isDigit)

/-- A number in decimal at the end, and what goes before it. -/
def lastNumber (l : List Char) : Nat × List Char :=
  (valueOf (l.rtakeWhile Char.isDigit), l.rdropWhile Char.isDigit)

theorem after?_append (t : String) (l : List Char) : after? t (t.toList ++ l) = some l :=
  List.dropPrefix?_eq_some_iff.mpr ⟨t.toList, rfl, beq_self_eq_true _⟩

theorem before?_append (t : String) (l : List Char) : before? t (l ++ t.toList) = some l :=
  List.dropSuffix?_eq_some_iff.mpr ⟨t.toList, rfl, beq_self_eq_true _⟩

/-- A reader goes on behind a fixed part. -/
theorem after?_append_bind {α : Type} (t : String) (l : List Char) (read : List Char → Option α) :
    (after? t (t.toList ++ l) >>= read) = read l := by
  rw [after?_append]
  rfl

/-- No fixed part is found where another stands, unless one of them is the beginning of the other. -/
theorem after?_eq_none {t u : String} (l : List Char) (h : ¬t.toList <+: u.toList) (h' : ¬u.toList <+: t.toList) :
    after? t (u.toList ++ l) = none := by
  rw [Option.eq_none_iff_forall_ne_some]
  intro rest hrest
  obtain ⟨t', ht', hbeq⟩ := List.dropPrefix?_eq_some_iff.mp hrest
  rw [eq_of_beq hbeq] at ht'
  have hu : u.toList <+: t.toList ++ rest := ⟨l, ht'⟩
  rcases List.prefix_or_prefix_of_prefix hu (List.prefix_append _ _) with hp | hp
  · exact h' hp
  · exact h hp

theorem isDigit_of_mem_repr {n : Nat} {c : Char} (h : c ∈ n.repr.toList) : c.isDigit = true := by
  rw [Nat.toList_repr] at h
  exact Nat.isDigit_of_mem_toDigits (by decide) (by decide) h

/-- A number in decimal keeps to its line. -/
theorem isControl_of_mem_repr {n : Nat} {c : Char} (h : c ∈ n.repr.toList) : isControl c = false := by
  rw [Nat.toList_repr] at h
  obtain ⟨k, hk, rfl⟩ := exists_of_mem_toDigits (by decide) h
  have hall : ∀ k < 10, isControl k.digitChar = false := by decide
  exact hall k hk

theorem valueOf_repr (n : Nat) : valueOf n.repr.toList = n := by
  rw [valueOf, Nat.toList_repr, Nat.ofDigitChars_ten_toDigits]

/-- Digits are read up to what is no digit. -/
theorem span_digits {digits l : List Char} (hdigits : ∀ c ∈ digits, c.isDigit = true) (h : l.head?.any Char.isDigit = false) :
    (digits ++ l).takeWhile Char.isDigit = digits ∧ (digits ++ l).dropWhile Char.isDigit = l := by
  rw [List.takeWhile_append_of_pos hdigits, List.dropWhile_append_of_pos hdigits]
  cases l with
  | nil => exact ⟨List.append_nil digits, rfl⟩
  | cons c l =>
    have hc : ¬c.isDigit = true := Bool.eq_false_iff.mp h
    rw [List.takeWhile_cons_of_neg hc, List.dropWhile_cons_of_neg hc]
    exact ⟨List.append_nil digits, rfl⟩

theorem number_append (n : Nat) {l : List Char} (h : l.head?.any Char.isDigit = false) :
    number (n.repr.toList ++ l) = (n, l) := by
  obtain ⟨htake, hdrop⟩ := span_digits (fun _ => isDigit_of_mem_repr) h
  rw [number, htake, hdrop, valueOf_repr]

theorem number_repr (n : Nat) : number n.repr.toList = (n, []) := by
  rw [← List.append_nil n.repr.toList, number_append n rfl]

theorem lastNumber_append (n : Nat) {l : List Char} (h : l.getLast?.any Char.isDigit = false) :
    lastNumber (l ++ n.repr.toList) = (n, l) := by
  have hdigits : ∀ c ∈ n.repr.toList.reverse, c.isDigit = true :=
    fun c hc => isDigit_of_mem_repr (List.mem_reverse.mp hc)
  rw [← List.head?_reverse] at h
  obtain ⟨htake, hdrop⟩ := span_digits hdigits h
  rw [lastNumber, List.rtakeWhile, List.rdropWhile, List.reverse_append, htake, hdrop, List.reverse_reverse,
    List.reverse_reverse, valueOf_repr]

end Text

/-! ## Failures -/

open Text

/-- The stream with a number. -/
def StreamId.ofNat (n : Nat) : StreamId :=
  ⟨.ofNat n⟩

theorem StreamId.ofNat_toNat (s : StreamId) : ofNat s.val.toNat = s := by
  rw [ofNat, UInt32.ofNat_toNat]

namespace Rejection

/-- Reads what follows the opening of a text on content that is too long. -/
def readOversized (l : List Char) : Option Rejection := do
  let (s, l) := number l
  let l ← after? " exceeds size limit: " l
  let (attempted, l) := number l
  let l ← after? " bytes > " l
  let (limit, _) := number l
  return oversized (.ofNat s) attempted limit

/-- Reads what follows the opening of a text on content without a message. -/
def readNoMessage (l : List Char) : Rejection :=
  noMessage (.ofNat (number l).1)

/-- Reads what follows the opening of a text on a pseudo-header that is missing. -/
def readMissingPseudo (l : List Char) : Option Rejection := do
  let (s, l) := lastNumber l
  let name ← before? " on stream " l
  return missingPseudo (.ofNat s) (String.ofList name)

/-- Reads what follows the opening of a text on a field that is not valid. -/
def readInvalidField (l : List Char) : Option Rejection := do
  let (name, l) ← unquote? l
  let l ← after? " on stream " l
  return invalidField (.ofNat (number l).1) (String.ofList name)

/-- Reads a rejection from its text. -/
def ofText? (l : List Char) : Option Rejection :=
  (after? "message on stream " l >>= readOversized) <|>
    ((after? "data received for stream " l).map readNoMessage) <|>
    (after? "missing pseudo-header " l >>= readMissingPseudo) <|>
    (after? "invalid header " l >>= readInvalidField)

theorem readOversized_append (s : StreamId) (attempted limit : Nat) :
    readOversized (s.text.toList ++ (" exceeds size limit: ".toList ++
      (attempted.repr.toList ++ (" bytes > ".toList ++ (limit.repr.toList ++ " bytes".toList))))) =
      some (oversized s attempted limit) := by
  rw [readOversized, StreamId.text, number_append _ rfl]
  dsimp only
  rw [after?_append_bind, number_append _ rfl]
  dsimp only
  rw [after?_append_bind, number_append _ rfl]
  dsimp only
  rw [StreamId.ofNat_toNat]
  rfl

theorem readNoMessage_append (s : StreamId) :
    readNoMessage (s.text.toList ++ " without a message".toList) = noMessage s := by
  rw [readNoMessage, StreamId.text, number_append _ rfl]
  dsimp only
  rw [StreamId.ofNat_toNat]

/-- Only the last fixed part is looked for, so that one like it in the name does no harm. -/
theorem readMissingPseudo_append (s : StreamId) (name : String) :
    readMissingPseudo (name.toList ++ (" on stream ".toList ++ s.text.toList)) = some (missingPseudo s name) := by
  have hlast : (name.toList ++ " on stream ".toList).getLast?.any Char.isDigit = false := by
    rw [List.getLast?_append]
    rfl
  rw [readMissingPseudo, StreamId.text, ← List.append_assoc, lastNumber_append _ hlast]
  dsimp only
  rw [before?_append, Option.bind_eq_bind, Option.bind_some, StreamId.ofNat_toNat, String.ofList_toList]
  rfl

theorem readInvalidField_append (s : StreamId) (name : String) :
    readInvalidField ((quoted name).toList ++ (" on stream ".toList ++ s.text.toList)) = some (invalidField s name) := by
  rw [readInvalidField, unquote?_quoted, Option.bind_eq_bind, Option.bind_some]
  dsimp only
  rw [after?_append_bind, StreamId.text, number_repr, StreamId.ofNat_toNat, String.ofList_toList]
  rfl

theorem ofText?_text (why : Rejection) : ofText? why.text.toList = some why := by
  cases why with
  | oversized s attempted limit =>
    change ofText? ("message on stream " ++ s.text ++ " exceeds size limit: " ++ attempted.repr ++ " bytes > " ++
      limit.repr ++ " bytes").toList = _
    simp only [String.toList_append, List.append_assoc]
    rw [ofText?, after?_append_bind, readOversized_append]
    rfl
  | noMessage s =>
    change ofText? ("data received for stream " ++ s.text ++ " without a message").toList = _
    simp only [String.toList_append, List.append_assoc]
    rw [ofText?, after?_eq_none _ (by decide) (by decide), after?_append, Option.map_some, readNoMessage_append]
    rfl
  | missingPseudo s name =>
    change ofText? ("missing pseudo-header " ++ name ++ " on stream " ++ s.text).toList = _
    simp only [String.toList_append, List.append_assoc]
    rw [ofText?, after?_eq_none _ (by decide) (by decide), after?_eq_none _ (by decide) (by decide), after?_append_bind,
      readMissingPseudo_append]
    rfl
  | invalidField s name =>
    change ofText? ("invalid header " ++ quoted name ++ " on stream " ++ s.text).toList = _
    simp only [String.toList_append, List.append_assoc]
    rw [ofText?, after?_eq_none _ (by decide) (by decide), after?_eq_none _ (by decide) (by decide),
      after?_eq_none _ (by decide) (by decide), after?_append_bind, readInvalidField_append]
    rfl

/-- A text on a field that is not valid keeps to its line, whatever the field is called. -/
theorem isControl_of_mem_text_invalidField {s : StreamId} {name : String} {c : Char}
    (h : c ∈ (invalidField s name).text.toList) : isControl c = false := by
  change c ∈ ("invalid header " ++ quoted name ++ " on stream " ++ s.text).toList at h
  simp only [String.toList_append, List.mem_append] at h
  rcases h with ((h | h) | h) | h
  · exact isControl_of_all (by decide) h
  · exact isControl_of_mem_quoted h
  · exact isControl_of_all (by decide) h
  · exact isControl_of_mem_repr h

end Rejection

namespace Failure

/-- Reads a failure from its text. -/
def ofText? (t : String) : Option Failure :=
  ((after? "message assembly failed: " t.toList >>= Rejection.ofText?).map rejected) <|>
    (after? "priority frame received for unknown stream id " t.toList).map fun l => unknownStream (.ofNat (number l).1)

theorem ofText?_text (f : Failure) : ofText? f.text = some f := by
  cases f with
  | unknownStream s =>
    change ofText? ("priority frame received for unknown stream id " ++ s.text) = _
    rw [ofText?, String.toList_append, after?_eq_none _ (by decide) (by decide), after?_append, Option.map_some,
      StreamId.text, number_repr, StreamId.ofNat_toNat]
    rfl
  | rejected why =>
    change ofText? ("message assembly failed: " ++ why.text) = _
    rw [ofText?, String.toList_append, after?_append_bind, Rejection.ofText?_text]
    rfl

/-- The text of a failure says which one it is, so no two failures have one text; and one that quotes the name of a field holds no
control character, and still says the stream and the name. -/
theorem text_unambiguous :
    Function.Injective text ∧
      ∀ (s : StreamId) (name : String),
        (∀ c ∈ (Rejection.invalidField s name).text.toList, isControl c = false) ∧
          (∀ c ∈ (rejected (.invalidField s name)).text.toList, isControl c = false) ∧
          Rejection.ofText? (Rejection.invalidField s name).text.toList = some (.invalidField s name) ∧
          ofText? (rejected (.invalidField s name)).text = some (rejected (.invalidField s name)) := by
  have hinjective : Function.Injective text := by
    intro f g h
    rw [← Option.some_inj, ← ofText?_text f, ← ofText?_text g, h]
  refine ⟨hinjective, fun s name => ⟨fun _ => Rejection.isControl_of_mem_text_invalidField, ?_, Rejection.ofText?_text _,
    ofText?_text _⟩⟩
  intro c hc
  change c ∈ ("message assembly failed: " ++ (Rejection.invalidField s name).text).toList at hc
  rw [String.toList_append, List.mem_append] at hc
  rcases hc with hc | hc
  · exact isControl_of_all (by decide) hc
  · exact Rejection.isControl_of_mem_text_invalidField hc

/-- Names that end like the rest of a text, and names that look quoted already, are told from what they look like. -/
theorem text_unambiguous_lookalikes :
    let tricky := "a\" on stream 3\\u\x7b41\x7d\r\n\x7f"
    (rejected (.missingPseudo ⟨3⟩ ":path on stream 1")).text ≠ (rejected (.missingPseudo ⟨1⟩ ":path on stream 3")).text ∧
      (rejected (.invalidField ⟨1⟩ "a\\n")).text ≠ (rejected (.invalidField ⟨1⟩ "a\n")).text ∧
      ('r' ∈ (Rejection.invalidField ⟨1⟩ tricky).text.toList ∧ isControl 'r' = false) ∧
      '\r' ∉ (rejected (.invalidField ⟨1⟩ tricky)).text.toList ∧
      ofText? (rejected (.invalidField ⟨1⟩ tricky)).text = some (rejected (.invalidField ⟨1⟩ tricky)) := by
  intro tricky
  obtain ⟨hinjective, hinvalid⟩ := text_unambiguous
  obtain ⟨hplain, hwrapped, -, hread⟩ := hinvalid ⟨1⟩ tricky
  have hmem : 'r' ∈ (Rejection.invalidField ⟨1⟩ tricky).text.toList := by decide +kernel
  refine ⟨hinjective.ne (by decide), hinjective.ne (by decide), ⟨hmem, hplain 'r' hmem⟩, ?_, hread⟩
  intro hreturn
  exact absurd (hwrapped '\r' hreturn) (by decide)

end Failure

end StreamPriority
