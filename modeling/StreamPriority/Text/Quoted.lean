import StreamPriority.Text.Unprintable

/-!
# Quoted text

A text in double quotes, on one line and with nothing hidden in it: a quote, a backslash and the usual control characters
have short escapes, every other character that is not printed as it is stands as its number.
-/

namespace StreamPriority.Text

/-- The number of a character between braces, in small hexadecimal digits without leading zeros. -/
def numbered (c : Char) : List Char :=
  ['\\', 'u', '\x7b'] ++ Nat.toDigits 16 c.toNat ++ ['\x7d']

/-- A character as it stands between the quotes. -/
def escape (c : Char) : List Char :=
  if c = '"' then ['\\', '"']
  else if c = '\\' then ['\\', '\\']
  else if c = '\t' then ['\\', 't']
  else if c = '\n' then ['\\', 'n']
  else if c = '\r' then ['\\', 'r']
  else if c = '\x00' then ['\\', '0']
  else if isUnprintable c then numbered c
  else [c]

/-- The text in quotes. -/
def quoted (s : String) : String :=
  String.ofList (['"'] ++ s.toList.flatMap escape ++ ['"'])

end StreamPriority.Text
