import NamespaceBackup.Json.Basic

/-!
# Numbers in JSON text

An integer that fits into 64 bits is read exactly. Any other number is read in one pass: its
leading digits, as many as fit into 64 bits, are rounded to a binary number, which is multiplied or
divided by the power of ten that is left, rounded itself. The result may miss the nearest binary
number by a little.

## Main definitions

* `Numeral`: what a number looks like
* `Numeral.ofWord?`: the number that a word looks like
* `Numeral.value?`: its value, if it is in range
-/

namespace NamespaceBackup.Json

/-- A number as it is written. -/
structure Numeral where
  /-- Whether it starts with a minus sign. -/
  negative : Bool
  /-- The digits of the whole part. -/
  whole : List Char
  /-- The digits behind the point. -/
  fraction : Option (List Char) := none
  /-- The exponent with its digits: whether it is negative, and the digits. -/
  exponent : Option (Bool × List Char) := none
deriving DecidableEq, Repr

namespace Numeral

/-! ## Form -/

/-- Reads an exponent: `e`, an optional sign and digits, up to the end. -/
def exponentOf? : List Char → Option (Bool × List Char)
  | e :: cs =>
    if e = 'e' ∨ e = 'E' then
      let (negative, digits) : Bool × List Char :=
        match cs with
        | '-' :: rest => (true, rest)
        | '+' :: rest => (false, rest)
        | rest => (false, rest)
      if digits ≠ [] ∧ digits.all Char.isDigit then some (negative, digits) else none
    else none
  | [] => none

/-- Reads what follows the whole part and the fraction. -/
def withExponent? (numeral : Numeral) : List Char → Option Numeral
  | [] => some numeral
  | cs => (exponentOf? cs).map fun exponent => { numeral with exponent := some exponent }

/-- Reads a number behind its sign. The whole part has no zero in front of other digits. -/
def unsigned? (negative : Bool) (cs : List Char) : Option Numeral :=
  let (whole, rest) := cs.span Char.isDigit
  if whole = [] ∨ (whole.length ≠ 1 ∧ whole.head? = some '0') then none
  else
    match rest with
    | '.' :: rest =>
      let (fraction, rest) := rest.span Char.isDigit
      if fraction = [] then none
      else withExponent? { negative, whole, fraction := some fraction } rest
    | rest => withExponent? { negative, whole } rest

/-- The number that a word looks like. -/
def ofWord? : List Char → Option Numeral
  | '-' :: cs => unsigned? true cs
  | cs => unsigned? false cs

/-! ## Value -/

/-- Appends digits to a number as long as it fits into 64 bits; gives the digits that are left. -/
def append (number : Nat) : List Char → Nat × List Char
  | [] => (number, [])
  | c :: cs =>
    let next := number * 10 + (c.toNat - 0x30)
    if next < 1 <<< 64 then append next cs else (number, c :: cs)

/-- The number that digits write, if it stays below `2 ^ 31`. -/
def small? (digits : List Char) : Option Nat :=
  digits.foldlM (fun number c =>
    let next := number * 10 + (c.toNat - 0x30)
    if next < 1 <<< 31 then some next else none) 0

/-- The greatest exponent of a power of ten that is no greater than all binary numbers. -/
def maxPower : Nat := 308

/-- A power of ten as a binary number. -/
def powerOfTen (n : Nat) : Binary := (Binary.ofFraction (Nat.pow 10 n) 1).getD .zero

/-- A binary number divided by `10 ^ n`, in two steps if the power is too large for one. -/
def dividedBy (b : Binary) (n : Nat) : Binary :=
  if n ≤ maxPower then (b.divide (powerOfTen n)).getD .zero
  else if n ≤ 2 * maxPower then
    (((b.divide (powerOfTen maxPower)).getD .zero).divide (powerOfTen (n - maxPower))).getD .zero
  -- Two divisions by the greatest power turn every 64 bits to zero.
  else .zero

/-- The value of `significand · 10 ^ exponent`; none above the largest binary number. -/
def scaled? (significand : Nat) (exponent : Int) : Option Binary :=
  if significand = 0 then some .zero
  else do
    let b ← Binary.ofFraction significand 1
    if exponent < 0 then pure (dividedBy b (-exponent).toNat)
    else if exponent ≤ maxPower then b.multiply (powerOfTen exponent.toNat)
    else none

/-- The value as a number with a fraction; none if it is out of range. -/
def real? (numeral : Numeral) : Option Json := do
  let (number, left) := append 0 numeral.whole
  let fraction := numeral.fraction.getD []
  let (number, unread) := append number fraction
  let places : Int := left.length - (fraction.length - unread.length : Nat)
  let b ← match numeral.exponent with
    | none => scaled? number places
    | some (negative, digits) =>
      match small? digits with
      | some n => scaled? number (if negative then places - n else places + n)
      | none => if number = 0 ∨ negative then some .zero else none
  pure (.real (.ofBinary numeral.negative b))

/-- The value, if it is in range. A number is an integer if it has neither fraction nor exponent
and fits into 64 bits; minus zero is none. -/
def value? (numeral : Numeral) : Option Json :=
  match numeral.fraction, numeral.exponent, append 0 numeral.whole with
  | none, none, (n, []) =>
    if !numeral.negative then some (.int n)
    else if 0 < n ∧ n ≤ 1 <<< 63 then some (.int (-n))
    else numeral.real?
  | _, _, _ => numeral.real?

end Numeral

end NamespaceBackup.Json
