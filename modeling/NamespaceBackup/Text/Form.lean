import NamespaceBackup.Text.Utf8

/-!
# Form encoding

The encoding of query parameters as forms are sent: letters, digits and `*-._` stand for
themselves, a blank is `+`, every other byte of the text is written as two hexadecimal digits
after a percent sign.

## Main definitions

* `Form.encode`: the encoded text
-/

namespace NamespaceBackup.Form

/-- Whether a byte stands for itself. -/
def isPlain (b : Nat) : Bool :=
  (0x30 ≤ b && b ≤ 0x39) || (0x41 ≤ b && b ≤ 0x5A) || (0x61 ≤ b && b ≤ 0x7A) ||
    b == 0x2A || b == 0x2D || b == 0x2E || b == 0x5F

/-- The hexadecimal digit of a number below sixteen, in upper case. -/
def digit (n : Nat) : Char :=
  if n < 10 then Char.ofNat (0x30 + n) else Char.ofNat (0x41 + (n - 10))

/-- The written form of one byte. -/
def encodeByte (b : Nat) : List Char :=
  if isPlain b then [Char.ofNat b]
  else if b = 0x20 then ['+']
  else ['%', digit (b / 16), digit (b % 16)]

/-- The encoded form of a text. -/
def encode (text : String) : String :=
  String.ofList ((Utf8.encode text).flatMap fun b => encodeByte b.toNat)

end NamespaceBackup.Form
