import Telemetry.Text.Printable

/-!
# Quoted text

A text is quoted by writing it between double quotes. A quote and a backslash inside it get a
backslash in front; a line feed, a carriage return, a tab and a NUL are written `\n`, `\r`, `\t` and
`\0`; every other character that is not printable is written as its code point, as in `\u{1b}`. A
single quote stands for itself.

Main statements: `escape_of_plain` and `length_escape_pos`.
-/

namespace Telemetry.Text

/-- The code point of a character in lower case hexadecimal digits. -/
def codePoint (c : Char) : List Char :=
  ['\\', 'u', '\x7b'] ++ Nat.toDigits 16 c.toNat ++ ['\x7d']

/-- The written form of one character inside quotes. -/
def escape (c : Char) : List Char :=
  if c = '"' then ['\\', '"']
  else if c = '\\' then ['\\', '\\']
  else if c = '\n' then ['\\', 'n']
  else if c = '\r' then ['\\', 'r']
  else if c = '\t' then ['\\', 't']
  else if c.toNat = 0 then ['\\', '0']
  else if isPrintable c then [c]
  else codePoint c

/-- The text between double quotes, with what cannot stand there escaped. -/
def quote (s : String) : String :=
  String.ofList ('"' :: s.toList.flatMap escape ++ ['"'])

theorem length_escape_pos (c : Char) : 0 < (escape c).length := by
  simp only [escape, codePoint]
  repeat' split
  all_goals simp

/-- A printable character other than the quote and the backslash stands for itself. -/
theorem escape_of_plain {c : Char} (printable : isPrintable c) (hq : c ≠ '"') (hb : c ≠ '\\') :
    escape c = [c] := by
  have noControl : 0x20 ≤ c.toNat := by
    false_or_by_contra
    rename_i h
    rw [not_isPrintable_of_lt_space (by omega)] at printable
    cases printable
  have hn : c ≠ '\n' := by rintro rfl; simp at noControl
  have hr : c ≠ '\r' := by rintro rfl; simp at noControl
  have ht : c ≠ '\t' := by rintro rfl; simp at noControl
  have h0 : c.toNat ≠ 0 := by omega
  simp only [escape, hq, hb, hn, hr, ht, h0, if_false, printable, if_true]

end Telemetry.Text
