import NamespaceBackup.Text.Blank
import NamespaceBackup.Time.Calendar

/-!
# Points in time as text

Object metadata carries points in time as RFC 3339 text. Reading takes any offset from universal
time and any fraction of a second, and allows blanks between the parts; writing gives whole
seconds of universal time. The clock is written with its fraction.

## Main definitions

* `Timestamp`: a second of universal time
* `Timestamp.parse`, `Timestamp.text`: reading and writing
* `Instant`: what the clock shows
* `Instant.text`: a clock reading as text
-/

namespace NamespaceBackup

/-- A second of universal time, counted from the start of 1970. -/
structure Timestamp where
  /-- The number of the second. -/
  seconds : Int
  /-- Whether the leap second after it is meant, which has no number of its own. -/
  leap : Bool := false
deriving DecidableEq, Repr, Inhabited

namespace Timestamp

/-- A number with at least `width` digits. -/
def padded (width n : Nat) : String :=
  let digits := Nat.toDigits 10 n
  String.ofList (List.replicate (width - digits.length) '0' ++ digits)

/-- A year: four digits, with a sign outside the years 0 to 9999. -/
def yearText (year : Int) : String :=
  if 0 ≤ year ∧ year ≤ 9999 then padded 4 year.toNat
  else (if year < 0 then "-" else "+") ++ padded 4 year.natAbs

/-- Date and time of day of a second, without an offset. -/
def civilText (seconds : Int) (leap : Bool) : String :=
  let date := Date.ofDay (seconds / 86400)
  let second := (seconds % 86400).toNat
  yearText date.year ++ "-" ++ padded 2 date.month ++ "-" ++ padded 2 date.day ++ "T" ++
    padded 2 (second / 3600) ++ ":" ++ padded 2 (second / 60 % 60) ++ ":" ++
    padded 2 (second % 60 + if leap then 1 else 0)

/-- The second as text in universal time. -/
def text (t : Timestamp) : String := civilText t.seconds t.leap ++ "Z"

/-! ## Reading -/

/-- The decimal digits at the start, at least one and at most `limit`, as a number. -/
def number? (limit : Nat) (cs : List Char) : Option (Nat × List Char) :=
  let digits := (cs.takeWhile Char.isDigit).take limit
  if digits = [] then none
  else some (digits.foldl (fun n c => n * 10 + (c.toNat - 0x30)) 0, cs.drop digits.length)

/-- A number after blanks. -/
def spacedNumber? (limit : Nat) (cs : List Char) : Option (Nat × List Char) :=
  number? limit (Text.trimStart cs)

/-- A character after blanks. -/
def spacedChar? (c : Char) (cs : List Char) : Option (List Char) :=
  match Text.trimStart cs with
  | d :: rest => if d = c then some rest else none
  | [] => none

/-- A year: up to four digits, or a sign and any number of digits. -/
def year? (cs : List Char) : Option (Int × List Char) :=
  match Text.trimStart cs with
  | '-' :: rest => (number? rest.length rest).map fun (n, rest) => (-(n : Int), rest)
  | '+' :: rest => (number? rest.length rest).map fun (n, rest) => ((n : Int), rest)
  | rest => (number? 4 rest).map fun (n, rest) => ((n : Int), rest)

/-- A date. -/
def date? (cs : List Char) : Option (Date × List Char) := do
  let (year, cs) ← year? cs
  let cs ← spacedChar? '-' cs
  let (month, cs) ← spacedNumber? 2 cs
  let cs ← spacedChar? '-' cs
  let (day, cs) ← spacedNumber? 2 cs
  pure (⟨year, month, day⟩, cs)

/-- Drops a fraction of a second, which must have a digit. -/
def dropFraction : List Char → Option (List Char)
  | '.' :: cs => (number? cs.length cs).map Prod.snd
  | cs => some cs

/-- A time of day as its second and whether it is a leap second. -/
def timeOfDay? (cs : List Char) : Option ((Int × Bool) × List Char) := do
  let (hour, cs) ← spacedNumber? 2 cs
  let cs ← spacedChar? ':' cs
  let (minute, cs) ← spacedNumber? 2 cs
  let cs ← spacedChar? ':' cs
  let (second, cs) ← spacedNumber? 2 cs
  let cs ← dropFraction cs
  if hour < 24 ∧ minute < 60 ∧ second ≤ 60 then
    pure ((hour * 3600 + minute * 60 + min second 59, second = 60), cs)
  else none

/-- A signed offset: two digits of hours and two of minutes, with colons or blanks between. -/
def signedOffset? (cs : List Char) : Option (Int × List Char) := do
  let (sign, cs) ← match cs with
    | '+' :: rest => some ((1 : Int), rest)
    | '-' :: rest => some (-1, rest)
    | '−' :: rest => some (-1, rest)
    | _ => none
  let (hours, cs) ← twoDigits? cs
  let (minutes, cs) ← twoDigits? (cs.dropWhile fun c => c = ':' || Text.isBlank c)
  if minutes < 60 ∧ hours < 24 then pure (sign * (hours * 3600 + minutes * 60), cs) else none
where
  /-- Exactly two digits. -/
  twoDigits? : List Char → Option (Nat × List Char)
    | a :: b :: rest => if a.isDigit ∧ b.isDigit then number? 2 (a :: b :: rest) else none
    | _ => none

/-- An offset from universal time in seconds: `Z`, `UTC` or a signed one. -/
def offset? (cs : List Char) : Option (Int × List Char) :=
  match cs with
  | u :: t :: c :: rest =>
    if [u.toLower, t.toLower, c.toLower] = ['u', 't', 'c'] then some (0, rest)
    else zulu? cs
  | _ => zulu? cs
where
  /-- The letter `Z`, or a signed offset. -/
  zulu? : List Char → Option (Int × List Char)
    | 'Z' :: rest => some (0, rest)
    | 'z' :: rest => some (0, rest)
    | cs => signedOffset? cs

/-- The years that points in time are read from. -/
def inRange (date : Date) : Bool := -262143 ≤ date.year && date.year ≤ 262142

/-- The second that a text names; fractions are cut off. -/
def parse (text : String) : Option Timestamp := do
  let (date, cs) ← date? text.toList
  let cs ← match cs with
    | c :: rest => if c = 't' ∨ c = 'T' ∨ c = ' ' then some rest else none
    | [] => none
  let ((second, leap), cs) ← timeOfDay? cs
  let (offset, cs) ← offset? (Text.trimStart cs)
  let seconds := date.toDay * 86400 + second - offset
  if Text.trimStart cs = [] ∧ date.isValid ∧ inRange date ∧ inRange (Date.ofDay (seconds / 86400))
  then pure ⟨seconds, leap⟩
  else none

end Timestamp

/-- What the clock shows: a second of universal time and the nanoseconds passed since. -/
structure Instant where
  /-- The second, counted from the start of 1970. -/
  seconds : Int
  /-- Nanoseconds since the second began. -/
  nanos : Nat := 0
deriving DecidableEq, Repr, Inhabited

namespace Instant

/-- The fraction of a second: nothing, or three, six or nine digits, the fewest that are exact. -/
def fraction (nanos : Nat) : String :=
  if nanos = 0 then ""
  else if nanos % 1000000 = 0 then "." ++ Timestamp.padded 3 (nanos / 1000000)
  else if nanos % 1000 = 0 then "." ++ Timestamp.padded 6 (nanos / 1000)
  else "." ++ Timestamp.padded 9 nanos

/-- The instant as text in universal time. -/
def text (t : Instant) : String :=
  Timestamp.civilText t.seconds false ++ fraction t.nanos ++ "+00:00"

end Instant

end NamespaceBackup
