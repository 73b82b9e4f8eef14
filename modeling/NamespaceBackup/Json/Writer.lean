import NamespaceBackup.Json.Basic

/-!
# JSON as text

The compact text of a value: no blanks, fields in order of name, characters beyond ASCII as they
are.

## Main definitions

* `Json.escape`: the written form of a character inside a text
* `Json.text`: the written form of a value
-/

namespace NamespaceBackup.Json

/-- The hexadecimal digit of a number below sixteen, in lower case. -/
def hexDigit (n : Nat) : Char :=
  if n < 10 then Char.ofNat (0x30 + n) else Char.ofNat (0x61 + (n - 10))

/-- The written form of a character inside a text. -/
def escape (c : Char) : List Char :=
  if c = '"' then ['\\', '"']
  else if c = '\\' then ['\\', '\\']
  else if c = '\n' then ['\\', 'n']
  else if c = '\r' then ['\\', 'r']
  else if c = '\t' then ['\\', 't']
  else if c.toNat = 0x08 then ['\\', 'b']
  else if c.toNat = 0x0C then ['\\', 'f']
  else if c.toNat < 0x20 then ['\\', 'u', '0', '0', hexDigit (c.toNat / 16), hexDigit (c.toNat % 16)]
  else [c]

/-- The written form of a text. -/
def textOfString (text : String) : String :=
  String.ofList ('"' :: (text.toList.flatMap escape ++ ['"']))

mutual

/-- The written form of a value. -/
def text : Json → String
  | null => "null"
  | bool true => "true"
  | bool false => "false"
  | int value => toString value
  | real value => value.text
  | str value => textOfString value
  | arr items => "[" ++ String.intercalate "," (textOfItems items) ++ "]"
  | obj fields => "\x7b" ++ String.intercalate "," (textOfFields fields) ++ "\x7d"

/-- The written forms of a list of values. -/
def textOfItems : List Json → List String
  | [] => []
  | item :: rest => item.text :: textOfItems rest

/-- The written forms of a list of fields. -/
def textOfFields : List (String × Json) → List String
  | [] => []
  | (name, value) :: rest => (textOfString name ++ ":" ++ value.text) :: textOfFields rest

end

end NamespaceBackup.Json
