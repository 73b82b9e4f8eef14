/-!
# Decimal numbers of double precision

A number with a fraction or an exponent stands for a binary number with 53 significant bits, and
is kept as the shortest decimal that is nearest to that binary number.

## Main definitions

* `Binary`: a significand and a power of two
* `Binary.ofFraction`: the binary number nearest to a fraction, ties to the even significand
* `Binary.multiply`, `Binary.divide`: products and quotients, each rounded once
* `Binary.shortest`: the shortest decimal that rounds to a binary number, of several the nearest
* `Decimal`: a sign, digits and a power of ten
* `Decimal.text`: the written form
-/

namespace NamespaceBackup

/-- The number `significand · 2 ^ exponent`. -/
structure Binary where
  /-- The significand, below `2 ^ 53`. -/
  significand : Nat
  /-- The power of two, at least `-1074`. -/
  exponent : Int
deriving DecidableEq, Repr

namespace Binary

/-- The number zero. -/
def zero : Binary := ⟨0, 0⟩

/-- The quotient nearest to `num / den`, the even one of two. -/
def roundDiv (num den : Nat) : Nat :=
  let quotient := num / den
  let twice := 2 * (num % den)
  if twice < den then quotient
  else if den < twice then quotient + 1
  else if quotient % 2 = 0 then quotient else quotient + 1

/-- The significand of `num / den` at the power `2 ^ exponent`. -/
def significandAt (num den : Nat) (exponent : Int) : Nat :=
  if 0 ≤ exponent then roundDiv num (den <<< exponent.toNat)
  else roundDiv (num <<< (-exponent).toNat) den

/-- The power of two at which `num / den` has 53 significant bits, or the least one there is. -/
def exponentOf (num den : Nat) : Int :=
  let guess : Int := (Nat.log2 num : Int) - (Nat.log2 den : Int) - 52
  let small : Bool :=
    if 0 ≤ guess then num < den <<< (guess.toNat + 52)
    else num <<< (-guess).toNat < den <<< 52
  max (-1074) (if small then guess - 1 else guess)

/-- The binary number nearest to the fraction `num / den`; none above the largest. -/
def ofFraction (num den : Nat) : Option Binary :=
  let exponent := exponentOf num den
  let significand := significandAt num den exponent
  let rounded : Binary :=
    if significand = 0 then zero
    else if significand = 1 <<< 53 then ⟨1 <<< 52, exponent + 1⟩
    else ⟨significand, exponent⟩
  if rounded.exponent ≤ 971 then some rounded else none

/-- The product, rounded; none above the largest number. -/
def multiply (a b : Binary) : Option Binary :=
  let power := a.exponent + b.exponent
  ofFraction ((a.significand * b.significand) <<< power.toNat) (1 <<< (-power).toNat)

/-- The quotient, rounded; none above the largest number. -/
def divide (a b : Binary) : Option Binary :=
  let power := a.exponent - b.exponent
  ofFraction (a.significand <<< power.toNat) (b.significand <<< (-power).toNat)

/-- The fraction `count · 2 ^ power / 10 ^ place` as numerator and denominator. -/
def ratio (count : Nat) (power place : Int) : Nat × Nat :=
  ((count * Nat.pow 10 (-place).toNat) <<< power.toNat, Nat.pow 10 place.toNat <<< (-power).toNat)

/-- The power of ten of the leading digit. -/
def leadingPlace (b : Binary) : Int :=
  let (num, den) := ratio b.significand b.exponent (-400)
  (Nat.toDigits 10 (num / den)).length - 1 - 400

/-- Whether `digits · 10 ^ place` rounds to the binary number. The interval ends half a unit
above, and half a unit below or a quarter where the power of two changes; its ends belong to it
for an even significand. -/
def rounds (b : Binary) (digits : Nat) (place : Int) : Bool :=
  let below := if b.significand = 1 <<< 52 ∧ -1074 < b.exponent then 1 else 2
  let (low, lowDen) := ratio (4 * b.significand - below) (b.exponent - 2) place
  let (high, highDen) := ratio (4 * b.significand + 2) (b.exponent - 2) place
  if b.significand % 2 = 0 then low ≤ digits * lowDen && digits * highDen ≤ high
  else low < digits * lowDen && digits * highDen < high

/-- The decimal on the grid `10 ^ place` that rounds to the binary number: the nearer one of its
two neighbours on the grid, the even one of two at equal distance. -/
def onGrid? (b : Binary) (place : Int) : Option Nat :=
  let (num, den) := ratio b.significand b.exponent place
  let floor := num / den
  match rounds b floor place, rounds b (floor + 1) place with
  | true, true => some (roundDiv num den)
  | true, false => some floor
  | false, true => some (floor + 1)
  | false, false => none

/-- Moves the zeros at the end of the digits into the exponent. -/
def dropZeros : Nat → Nat → Int → Nat × Int
  | 0, digits, place => (digits, place)
  | fuel + 1, digits, place =>
    if digits % 10 = 0 ∧ digits ≠ 0 then dropZeros fuel (digits / 10) (place + 1)
    else (digits, place)

/-- The shortest decimal that rounds to a binary number other than zero. -/
def shortest (b : Binary) : Nat × Int :=
  let lead := b.leadingPlace
  -- Seventeen digits always suffice for 53 bits.
  let found := (List.range 17).findSome? fun (n : Nat) =>
    (b.onGrid? (lead - n)).map fun digits => (digits, lead - n)
  let (digits, place) := found.getD (b.significand, b.exponent)
  dropZeros 20 digits place

end Binary

/-- The number `± digits · 10 ^ exponent`. -/
structure Decimal where
  /-- Whether the number carries a minus sign. -/
  negative : Bool
  /-- The digits, read as one number. -/
  digits : Nat
  /-- The power of ten. -/
  exponent : Int
deriving DecidableEq, Repr, Inhabited

namespace Decimal

/-- The shortest decimal that rounds to a binary number, with a sign. -/
def ofBinary (negative : Bool) (b : Binary) : Decimal :=
  if b.significand = 0 then ⟨negative, 0, 0⟩
  else
    let (digits, exponent) := b.shortest
    ⟨negative, digits, exponent⟩

/-- Zeros as text. -/
def zeros (n : Nat) : String := String.ofList (List.replicate n '0')

/-- An exponent as text; it always has a sign. -/
def exponentText (exponent : Int) : String :=
  if 0 ≤ exponent then "e+" ++ toString exponent else "e" ++ toString exponent

/-- The number as text: positional up to sixteen digits before the point or five places after
it, with an exponent beyond. A fraction or an exponent always marks it off from an integer. -/
def text (d : Decimal) : String :=
  let sign := if d.negative then "-" else ""
  let ds := toString d.digits
  let len : Int := ds.length
  let point := len + d.exponent
  let body :=
    if d.digits = 0 then "0.0"
    else if 0 ≤ d.exponent ∧ point ≤ 16 then ds ++ zeros d.exponent.toNat ++ ".0"
    else if 0 < point ∧ point ≤ 16 then
      String.ofList (ds.toList.take point.toNat) ++ "." ++
        String.ofList (ds.toList.drop point.toNat)
    else if -5 < point ∧ point ≤ 0 then "0." ++ zeros (-point).toNat ++ ds
    else if len = 1 then ds ++ exponentText (point - 1)
    else
      String.ofList (ds.toList.take 1) ++ "." ++ String.ofList (ds.toList.drop 1) ++
        exponentText (point - 1)
  sign ++ body

end Decimal

end NamespaceBackup
