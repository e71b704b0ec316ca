import ScopedIr.Text.Printable
import ScopedIr.Text.GraphemeExtend

/-!
# Quoted text

The quoted form of a string, as messages of this library show names and string values:
the text between double quotes, with the quote and the backslash escaped by a backslash,
tab, line feed, carriage return and NUL written `\t`, `\n`, `\r`, `\0`, and every other
character that is not printable or that extends a grapheme written `\u{hex}` with
lowercase hexadecimal digits and no leading zeros. The single quote stays as it is.
-/

namespace ScopedIr.Text

/-- Lowercase hexadecimal digits of `n`, without leading zeros. -/
def hexDigits (n : Nat) : List Char := Nat.toDigits 16 n

/-- The escaped form of one character inside a quoted string. -/
def escapeChar (c : Char) : List Char :=
  if c = '\x00' then ['\\', '0']
  else if c = '\t' then ['\\', 't']
  else if c = '\r' then ['\\', 'r']
  else if c = '\n' then ['\\', 'n']
  else if c = '\\' then ['\\', '\\']
  else if c = '"' then ['\\', '"']
  else if isGraphemeExtend c || !isPrintable c then
    ['\\', 'u', '\x7b'] ++ hexDigits c.toNat ++ ['\x7d']
  else [c]

/-- Characters of `s` with each one escaped, without the surrounding quotes. -/
def escape (s : String) : String :=
  String.ofList (s.toList.flatMap escapeChar)

/-- The quoted form of `s`. -/
def quote (s : String) : String :=
  "\"" ++ escape s ++ "\""

/-- An ordinary printable character stands for itself. -/
theorem escapeChar_plain {c : Char} (h0 : c ≠ '\x00') (ht : c ≠ '\t') (hr : c ≠ '\r')
    (hn : c ≠ '\n') (hb : c ≠ '\\') (hq : c ≠ '"') (hg : isGraphemeExtend c = false)
    (hp : isPrintable c = true) : escapeChar c = [c] := by
  simp [escapeChar, h0, ht, hr, hn, hb, hq, hg, hp]

/-- The escaped form of a character is never empty, so escaping never drops text. -/
theorem escapeChar_ne_nil (c : Char) : escapeChar c ≠ [] := by
  unfold escapeChar
  repeat' split
  all_goals simp

example : escapeChar '"' = ['\\', '"'] ∧ escapeChar '\n' = ['\\', 'n'] := by
  simp [escapeChar]

end ScopedIr.Text
