import StreamPriority.Journal.Basic

/-!
# Looking into captured lines

Captured lines are searched for a text: a line holds it when the line can be cut around it (`occursIn_iff`).
-/

namespace StreamPriority

/-- Whether the needle stands somewhere in a text. -/
def occursIn (needle : List Char) : List Char → Bool
  | [] => needle.isEmpty
  | c :: l => needle.isPrefixOf (c :: l) || occursIn needle l

/-- A needle occurs exactly where the text can be cut around it. -/
theorem occursIn_iff (needle text : List Char) : occursIn needle text = true ↔ needle <:+: text := by
  induction text with
  | nil => simp [occursIn]
  | cons c l ih =>
    rw [occursIn, Bool.or_eq_true, ih, List.isPrefixOf_iff_prefix, List.infix_cons_iff]

/-- Whether some line of a level holds a needle. -/
def Line.anyHolds (lines : List Line) (level : Level) (needle : String) : Bool :=
  lines.any fun l => l.level == level && occursIn needle.toList l.message.toList

end StreamPriority
