import NamespaceBackup.Text.Blank
import NamespaceBackup.Text.Hidden

/-!
# Quoted text

A text between double quotes, in which quotes, backslashes and everything without a visible form
are written as escapes. Error texts show the answers of the API server this way.

## Main definitions

* `Text.escape`: the written form of one character
* `Text.quoted`: the written form of a text
-/

namespace NamespaceBackup.Text

/-- The digits of a number in base sixteen, in lower case. -/
def hex (n : Nat) : String := String.ofList (Nat.toDigits 16 n)

/-- Whether a character has no visible form: it is written by its number. -/
def isHidden (c : Char) : Bool :=
  c.toNat < 0x20 || c.toNat == 0x7F || (0x80 ≤ c.toNat && inRanges hiddenRanges c.toNat)

/-- The written form of a character inside quotes. -/
def escape (c : Char) : String :=
  if c = '"' then "\\\""
  else if c = '\\' then "\\\\"
  else if c = '\t' then "\\t"
  else if c = '\n' then "\\n"
  else if c = '\r' then "\\r"
  else if c.toNat = 0 then "\\0"
  else if isHidden c then "\\u\x7b" ++ hex c.toNat ++ "\x7d"
  else c.toString

/-- A text between quotes. -/
def quoted (text : String) : String :=
  "\"" ++ String.join (text.toList.map escape) ++ "\""

end NamespaceBackup.Text
