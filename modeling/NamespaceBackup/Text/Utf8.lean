/-!
# UTF-8

Reading bytes as UTF-8 text, with the place and the kind of the first fault.

## Main definitions

* `Utf8.Fault`: where and how bytes fail to be text
* `Utf8.decode`: the text of a list of bytes
* `Utf8.characters`: the characters of a list of bytes and the bytes between them
* `Utf8.Fault.message`: the wording of a fault
-/

namespace NamespaceBackup.Utf8

/-- How bytes fail to be UTF-8. -/
inductive Fault where
  /-- The `length` bytes from `index` on start no character. -/
  | invalid (index length : Nat)
  /-- The bytes end inside the character that starts at `index`. -/
  | incomplete (index : Nat)
deriving DecidableEq, Repr

namespace Fault

/-- The wording of a fault. -/
def message : Fault → String
  | invalid index length =>
    "invalid utf-8 sequence of " ++ toString length ++ " bytes from index " ++ toString index
  | incomplete index => "incomplete utf-8 byte sequence from index " ++ toString index

end Fault

/-- A byte that continues a character. -/
def isTail (b : Nat) : Bool := 0x80 ≤ b && b ≤ 0xBF

/-- The number of bytes of the character that a byte starts; none for a byte that starts none. -/
def width? (b : Nat) : Option Nat :=
  if b < 0x80 then some 1
  else if 0xC2 ≤ b && b ≤ 0xDF then some 2
  else if 0xE0 ≤ b && b ≤ 0xEF then some 3
  else if 0xF0 ≤ b && b ≤ 0xF4 then some 4
  else none

/-- Whether `second` may follow `first`: overlong forms, surrogates and numbers above U+10FFFF
are ruled out by the second byte. -/
def isSecond (first second : Nat) : Bool :=
  if first = 0xE0 then 0xA0 ≤ second && second ≤ 0xBF
  else if first = 0xED then 0x80 ≤ second && second ≤ 0x9F
  else if first = 0xF0 then 0x90 ≤ second && second ≤ 0xBF
  else if first = 0xF4 then 0x80 ≤ second && second ≤ 0x8F
  else isTail second

/-- What is left to read of a character. -/
structure Pending where
  /-- Index of the character's first byte. -/
  start : Nat
  /-- The first byte. -/
  first : Nat
  /-- Bytes read so far. -/
  seen : Nat
  /-- Bytes still to come. -/
  missing : Nat
  /-- The number built so far. -/
  code : Nat

/-- The bits that the first byte of a character of `width` bytes contributes. -/
def leadBits (width b : Nat) : Nat :=
  if width = 2 then b % 0x20 else if width = 3 then b % 0x10 else b % 0x08

/-- Reads the bytes from `index` on, with the character begun before them and the characters
finished before them in reverse. -/
def decodeFrom (index : Nat) (pending : Option Pending) (done : List Char) :
    List Nat → Except Fault (List Char)
  | [] =>
    match pending with
    | none => .ok done.reverse
    | some p => .error (.incomplete p.start)
  | b :: rest =>
    match pending with
    | none =>
      match width? b with
      | none => .error (.invalid index 1)
      | some 1 => decodeFrom (index + 1) none (Char.ofNat b :: done) rest
      | some width =>
        decodeFrom (index + 1) (some ⟨index, b, 1, width - 1, leadBits width b⟩) done rest
    | some p =>
      if (if p.seen = 1 then isSecond p.first b else isTail b) then
        let code := p.code * 0x40 + b % 0x40
        if p.missing = 1 then decodeFrom (index + 1) none (Char.ofNat code :: done) rest
        else
          decodeFrom (index + 1) (some { p with seen := p.seen + 1, missing := p.missing - 1, code })
            done rest
      else .error (.invalid p.start p.seen)

/-- The text that the bytes are, or the first fault. -/
def decode (bytes : List UInt8) : Except Fault String :=
  (decodeFrom 0 none [] (bytes.map UInt8.toNat)).map String.ofList

/-- The character that bytes start with, and the number of bytes behind its first. -/
def firstChar? (bytes : List UInt8) : Option (Char × Nat) :=
  (List.range 4).findSome? fun n =>
    match (decode (bytes.take (n + 1))).toOption.map String.toList with
    | some [c] => some (c, n)
    | _ => none

/-- The characters that bytes write, and `none` for each byte that belongs to no character. -/
def characters : List UInt8 → List (Option Char)
  | [] => []
  | b :: rest =>
    match firstChar? (b :: rest) with
    | some (c, n) => some c :: characters (rest.drop n)
    | none => none :: characters rest
termination_by bytes => bytes.length
decreasing_by all_goals simp only [List.length_cons, List.length_drop]; omega

/-- The bytes of a text. -/
def encode (text : String) : List UInt8 := text.toUTF8.toList

end NamespaceBackup.Utf8
