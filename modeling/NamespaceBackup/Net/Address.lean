/-!
# Network addresses

IPv4 and IPv6 addresses with the length of their network, as a platform reports them, and the
canonical text of an address.

## Main definitions

* `Address`: an address of either family
* `Address.text`: its canonical text
* `Cidr.parse`: an address with the length of its network, read from text
-/

namespace NamespaceBackup

/-- An address of either family. -/
inductive Address where
  /-- Four octets. -/
  | v4 (a b c d : Nat)
  /-- Eight groups of sixteen bits. -/
  | v6 (groups : List Nat)
deriving DecidableEq, Repr

/-- An address together with the length of its network in bits. -/
structure Cidr where
  /-- The address. -/
  address : Address
  /-- The number of leading bits that name the network. -/
  length : Nat
deriving DecidableEq, Repr

namespace Address

/-! ## Writing -/

/-- The dotted text of four octets. -/
def dotted (a b c d : Nat) : String :=
  toString a ++ "." ++ toString b ++ "." ++ toString c ++ "." ++ toString d

/-- The hexadecimal texts of groups, joined by colons. -/
def joined (groups : List Nat) : String :=
  ":".intercalate (groups.map fun g => String.ofList (Nat.toDigits 16 g))

/-- The number of zero groups at the start. -/
def leadingZeros (groups : List Nat) : Nat := (groups.takeWhile (· = 0)).length

/-- Start and length of the longest run of zero groups, the first of several; `index` is the
number of groups in front of the list. -/
def longestRun (index : Nat) : List Nat → Nat × Nat
  | [] => (index, 0)
  | g :: rest =>
    let here := leadingZeros (g :: rest)
    let later := longestRun (index + 1) rest
    if later.2 ≤ here then (index, here) else later

/-- The text of eight groups: the longest run of at least two zero groups is left out. -/
def groupsText (groups : List Nat) : String :=
  match groups with
  | [0, 0, 0, 0, 0, 0xFFFF, high, low] =>
    "::ffff:" ++ dotted (high / 256) (high % 256) (low / 256) (low % 256)
  | groups =>
    let (start, length) := longestRun 0 groups
    if length < 2 then joined groups
    else joined (groups.take start) ++ "::" ++ joined (groups.drop (start + length))

/-- The canonical text of an address. -/
def text : Address → String
  | v4 a b c d => dotted a b c d
  | v6 groups => groupsText groups

end Address

namespace Cidr

/-! ## Reading -/

/-- The value of a digit in a base up to sixteen. -/
def digit? (base : Nat) (c : Char) : Option Nat :=
  let value :=
    if c.isDigit then some (c.toNat - 0x30)
    else if 'a' ≤ c ∧ c ≤ 'f' then some (c.toNat - 0x61 + 10)
    else if 'A' ≤ c ∧ c ≤ 'F' then some (c.toNat - 0x41 + 10)
    else none
  value.filter (· < base)

/-- The number written by all the digits at the start: at least one, at most `maxDigits`, with a
value below `bound`. -/
def number? (base maxDigits bound : Nat) (cs : List Char) : Option (Nat × List Char) :=
  let digits := cs.takeWhile fun c => (digit? base c).isSome
  let value := digits.foldl (fun n c => n * base + (digit? base c).getD 0) 0
  if digits = [] ∨ maxDigits < digits.length ∨ bound ≤ value then none
  else some (value, cs.drop digits.length)

/-- Drops one given character. -/
def char? (c : Char) : List Char → Option (List Char)
  | d :: rest => if d = c then some rest else none
  | [] => none

/-- Four octets with points between them. -/
def octets? (cs : List Char) : Option ((Nat × Nat × Nat × Nat) × List Char) := do
  let (a, cs) ← number? 10 3 256 cs
  let (b, cs) ← number? 10 3 256 (← char? '.' cs)
  let (c, cs) ← number? 10 3 256 (← char? '.' cs)
  let (d, cs) ← number? 10 3 256 (← char? '.' cs)
  pure ((a, b, c, d), cs)

/-- Up to `room` groups with colons between them, of which the last two may be four octets, and
whether they were. `first` tells that no colon comes before the first group. -/
def groups (first : Bool) : (room : Nat) → List Char → (List Nat × Bool) × List Char
  | 0, cs => (([], false), cs)
  | room + 1, cs =>
    let start := if first then some cs else char? ':' cs
    -- Four octets take the room of two groups.
    match start.bind fun cs => if room = 0 then none else octets? cs with
    | some ((a, b, c, d), rest) => (([a * 256 + b, c * 256 + d], true), rest)
    | none =>
      match start.bind (number? 16 4 0x10000) with
      | some (g, rest) =>
        let ((gs, dotted), rest) := groups false room rest
        ((g :: gs, dotted), rest)
      | none => (([], false), cs)

/-- Eight groups, of which any number of zero groups in a row may be left out once. -/
def allGroups? (cs : List Char) : Option (List Nat × List Char) :=
  let ((head, dotted), cs) := groups true 8 cs
  if head.length = 8 then some (head, cs)
  else if dotted then none
  else do
    let cs ← char? ':' (← char? ':' cs)
    let ((tail, _), cs) := groups true (8 - head.length) cs
    pure (head ++ List.replicate (8 - head.length - tail.length) 0 ++ tail, cs)

/-- An IPv4 address and the length of its network. -/
def v4? (cs : List Char) : Option Cidr := do
  let ((a, b, c, d), cs) ← octets? cs
  let (length, cs) ← number? 10 2 33 (← char? '/' cs)
  if cs = [] then pure ⟨.v4 a b c d, length⟩ else none

/-- An IPv6 address and the length of its network. -/
def v6? (cs : List Char) : Option Cidr := do
  let (groups, cs) ← allGroups? cs
  let (length, cs) ← number? 10 3 129 (← char? '/' cs)
  if cs = [] then pure ⟨.v6 groups, length⟩ else none

/-- An address with the length of its network, as in `192.168.24.10/24`. -/
def parse (text : String) : Option Cidr :=
  (v4? text.toList).orElse fun _ => v6? text.toList

end Cidr

end NamespaceBackup
