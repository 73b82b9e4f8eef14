/-!
# Base64

The standard alphabet with padding. Reading is strict: it accepts exactly what writing produces,
so blanks, missing padding, the alphabet for addresses and stray bits in the last digit are
refused.

## Main definitions

* `Base64.encode`: bytes as text
* `Base64.decode`: text as bytes
-/

namespace NamespaceBackup.Base64

/-- The digits, in order of their values. -/
def alphabet : List Char :=
  "ABCDEFGHIJKLMNOPQRSTUVWXYZabcdefghijklmnopqrstuvwxyz0123456789+/".toList

/-- The digit of a value below 64. -/
def digit (n : Nat) : Char := alphabet.getD n '='

/-- The value of a digit. -/
def value? (c : Char) : Option Nat := alphabet.findIdx? (· = c)

/-- The digits of a list of bytes: four for every three bytes. -/
def encodeBytes : List Nat → List Char
  | [] => []
  | [a] => [digit (a / 4), digit (a % 4 * 16), '=', '=']
  | [a, b] => [digit (a / 4), digit (a % 4 * 16 + b / 16), digit (b % 16 * 4), '=']
  | a :: b :: c :: rest =>
    digit (a / 4) :: digit (a % 4 * 16 + b / 16) :: digit (b % 16 * 4 + c / 64) :: digit (c % 64)
      :: encodeBytes rest

/-- The bytes of a list of digits. -/
def decodeDigits : List Char → Option (List Nat)
  | [] => some []
  | [w, x, '=', '='] => do
    let w ← value? w
    let x ← value? x
    if x % 16 = 0 then some [w * 4 + x / 16] else none
  | [w, x, y, '='] => do
    let w ← value? w
    let x ← value? x
    let y ← value? y
    if y % 4 = 0 then some [w * 4 + x / 16, x % 16 * 16 + y / 4] else none
  | w :: x :: y :: z :: rest => do
    let w ← value? w
    let x ← value? x
    let y ← value? y
    let z ← value? z
    let bytes ← decodeDigits rest
    some ((w * 4 + x / 16) :: (x % 16 * 16 + y / 4) :: (y % 4 * 64 + z) :: bytes)
  | _ => none

/-- Bytes as text. -/
def encode (bytes : List UInt8) : String :=
  String.ofList (encodeBytes (bytes.map UInt8.toNat))

/-- Text as bytes; none if no bytes are written so. -/
def decode (text : String) : Option (List UInt8) :=
  (decodeDigits text.toList).map fun bytes => bytes.map UInt8.ofNat

end NamespaceBackup.Base64
