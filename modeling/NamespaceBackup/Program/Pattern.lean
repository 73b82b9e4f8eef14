import NamespaceBackup.Json.Reader
import NamespaceBackup.Text.Alphanumeric

/-!
# Values in a filter

A filter can ask for the value of a field: for a truth value, a number, or a text by a regular
expression. Only whether a value can be asked for is of interest here. A value in a filter holds no
comma, no equals sign and no closing brace, so expressions with a counted repetition or a braced
name do not occur.

## Main definitions

* `Pattern.isValid`: whether a regular expression is well formed
* `Pattern.isValue`: whether a value can be asked for
-/

namespace NamespaceBackup.Pattern

/-! ## Escapes -/

/-- What an escape stands for. -/
inductive Escaped where
  /-- One character, by its number. -/
  | literal (code : Nat)
  /-- A class of characters; whether it reaches beyond ASCII also without Unicode. -/
  | set (wide : Bool)
  /-- A place between characters; whether it depends on what a word is. -/
  | place (ofWord : Bool)

/-- Reads a number of `count` hexadecimal digits. -/
def hexNumber? : Nat → Nat → List Char → Option (Nat × List Char)
  | 0, value, cs => some (value, cs)
  | _ + 1, _, [] => none
  | count + 1, value, c :: cs =>
    (Json.hexValue? c).bind fun digit => hexNumber? count (value * 16 + digit) cs

/-- Reads a character by its number. -/
def coded? (count : Nat) (cs : List Char) : Option (Escaped × List Char) :=
  (hexNumber? count 0 cs).bind fun (value, rest) =>
    if value < 0xD800 ∨ (0xE000 ≤ value ∧ value < 0x110000) then some (.literal value, rest)
    else none

/-- Reads what follows a backslash. -/
def escaped? (unicode : Bool) : List Char → Option (Escaped × List Char)
  | [] => none
  | c :: cs =>
    if c = 'x' then coded? 2 cs
    else if c = 'u' then coded? 4 cs
    else if c = 'U' then coded? 8 cs
    else if c = 'p' ∨ c = 'P' then
      match cs with
      | name :: rest =>
        if unicode ∧ "CLMNPSZ".toList.contains name.toUpper then some (.set false, rest) else none
      | [] => none
    else if "dsw".toList.contains c then some (.set false, cs)
    else if "DSW".toList.contains c then some (.set true, cs)
    else if "bB<>".toList.contains c then some (.place true, cs)
    else if "Az".toList.contains c then some (.place false, cs)
    else if "aftnrv".toList.contains c then some (.literal 0, cs)
    else if c.toNat < 0x80 ∧ !c.isAlphanum then some (.literal c.toNat, cs)
    else none

/-! ## Classes -/

/-- The names of the classes of ASCII characters. -/
def asciiClasses : List String :=
  ["alnum", "alpha", "ascii", "blank", "cntrl", "digit", "graph", "lower", "print", "punct",
    "space", "upper", "word", "xdigit"]

/-- Drops a named class, behind its opening bracket. -/
def dropAsciiClass? (cs : List Char) : Option (List Char) :=
  match cs with
  | ':' :: rest =>
    let rest := if rest.head? = some '^' then rest.drop 1 else rest
    let (name, rest) := rest.span (· ≠ ':')
    match rest with
    | ':' :: ']' :: rest => if asciiClasses.contains (String.ofList name) then some rest else none
    | _ => none
  | _ => none

/-- Reads one member of a class, or an end of a range of members. -/
def member? (unicode : Bool) : List Char → Option (Option Nat × List Char)
  | [] => none
  | '\\' :: cs =>
    match escaped? unicode cs with
    | some (.literal code, rest) => some (some code, rest)
    | some (.set wide, rest) => if unicode ∨ !wide then some (none, rest) else none
    | _ => none
  | c :: cs => some (some c.toNat, cs)

/-- Drops a member of a class or a range of members. -/
def dropRange? (unicode : Bool) (cs : List Char) : Option (List Char) :=
  (member? unicode cs).bind fun (first, rest) =>
    match rest with
    | [] => none
    | '-' :: ']' :: _ => some rest
    | '-' :: '-' :: _ => some rest
    | '-' :: rest =>
      match first, member? unicode rest with
      | some low, some (some high, rest) => if low ≤ high then some rest else none
      | _, _ => none
    | _ => some rest

/-- Drops what may stand only at the start of a class: a mark that negates it, hyphens, and a
closing bracket. Without Unicode a class may not be negated. -/
def dropClassStart? (unicode : Bool) (cs : List Char) : Option (List Char) :=
  let negated : Bool := cs.head? = some '^'
  let cs := if negated then cs.drop 1 else cs
  let rest := cs.dropWhile (· = '-')
  if negated ∧ !unicode then none
  else some (if rest.length = cs.length ∧ rest.head? = some ']' then rest.drop 1 else rest)

/-- Drops the rest of `depth` nested classes. -/
def dropClass? (unicode : Bool) : (fuel depth : Nat) → List Char → Option (List Char)
  | _, 0, cs => some cs
  | 0, _, _ => none
  | fuel + 1, depth + 1, cs =>
    match cs with
    | [] => none
    | ']' :: rest => dropClass? unicode fuel depth rest
    | '[' :: rest =>
      match dropAsciiClass? rest with
      | some rest => dropClass? unicode fuel (depth + 1) rest
      | none =>
        (dropClassStart? unicode rest).bind fun rest => dropClass? unicode fuel (depth + 2) rest
    | '&' :: '&' :: rest => dropClass? unicode fuel (depth + 1) rest
    | '-' :: '-' :: rest => dropClass? unicode fuel (depth + 1) rest
    | '~' :: '~' :: rest => dropClass? unicode fuel (depth + 1) rest
    | cs => (dropRange? unicode cs).bind fun rest => dropClass? unicode fuel (depth + 1) rest

/-! ## Groups -/

/-- An open group. -/
structure Group where
  /-- Whether something stands in front that can be repeated. -/
  repeatable : Bool
  /-- Whether characters are those of Unicode. -/
  unicode : Bool

/-- Whether the name of a group can be told apart from others. -/
def isGroupName (names : List (List Char)) (name : List Char) : Bool :=
  match name with
  | [] => false
  | c :: cs =>
    !names.contains name && (c = '_' || (Text.isAlphanumeric c && !c.isDigit)) &&
      cs.all fun c => Text.isAlphanumeric c || "_.[]".toList.contains c

/-- Whether flags are well formed: each at most once, and something behind the minus sign. -/
def areFlags (flags : List Char) : Bool :=
  flags.Nodup && flags.getLast? ≠ some '-' && flags.all fun c => "imsUuxR-".toList.contains c

/-- Whether characters are those of Unicode behind some flags. -/
def unicodeAfter (unicode : Bool) (flags : List Char) : Bool :=
  if (flags.takeWhile (· ≠ '-')).contains 'u' then true
  else if flags.contains 'u' then false
  else unicode

/-- What starts with a parenthesis. -/
inductive Opening where
  /-- A group. -/
  | group (unicode : Bool)
  /-- A group with a name. -/
  | named (name : List Char)
  /-- Flags for the rest of the group around. -/
  | flags (unicode : Bool)

/-- Reads what starts with a parenthesis, behind it. -/
def opening? (names : List (List Char)) (unicode : Bool) (cs : List Char) :
    Option (Opening × List Char) :=
  let name? (cs : List Char) : Option (Opening × List Char) :=
    let (name, rest) := cs.span (· ≠ '>')
    if rest ≠ [] ∧ isGroupName names name then some (.named name, rest.drop 1) else none
  match cs with
  | '?' :: 'P' :: '<' :: rest => name? rest
  | '?' :: '<' :: rest => name? rest
  | '?' :: rest =>
    let (flags, rest) := rest.span fun c => c ≠ ':' && c ≠ ')'
    match rest with
    | ':' :: rest =>
      if areFlags flags then some (.group (unicodeAfter unicode flags), rest) else none
    | ')' :: rest =>
      if flags ≠ [] ∧ areFlags flags then some (.flags (unicodeAfter unicode flags), rest)
      else none
    | _ => none
  | cs => some (.group unicode, cs)

/-! ## Expressions -/

/-- Whether the rest of an expression is well formed, inside of the groups `outer` and `group`. -/
def isValidFrom (fuel : Nat) (names : List (List Char)) (outer : List Group) (group : Group)
    (cs : List Char) : Bool :=
  match fuel, cs with
  | _, [] => outer.isEmpty
  | 0, _ => false
  | fuel + 1, c :: cs =>
    let item (rest : List Char) : Bool :=
      isValidFrom fuel names outer { group with repeatable := true } rest
    if c = '*' ∨ c = '+' ∨ c = '?' then
      group.repeatable && item (if cs.head? = some '?' then cs.drop 1 else cs)
    else if c = '\x7b' then false
    else if c = '|' then isValidFrom fuel names outer { group with repeatable := false } cs
    else if c = '(' then
      match opening? names group.unicode cs with
      | none => false
      | some (.group unicode, rest) =>
        isValidFrom fuel names (group :: outer) ⟨false, unicode⟩ rest
      | some (.named name, rest) =>
        isValidFrom fuel (name :: names) (group :: outer) ⟨false, group.unicode⟩ rest
      | some (.flags unicode, rest) => isValidFrom fuel names outer ⟨false, unicode⟩ rest
    else if c = ')' then
      match outer with
      | [] => false
      | next :: outer => isValidFrom fuel names outer { next with repeatable := true } cs
    else if c = '[' then
      match (dropClassStart? group.unicode cs).bind (dropClass? group.unicode cs.length 1) with
      | none => false
      | some rest => item rest
    else if c = '\\' then
      match escaped? group.unicode cs with
      | none => false
      | some (.literal code, rest) => (group.unicode || code < 0x80) && item rest
      | some (.set wide, rest) => (group.unicode || !wide) && item rest
      | some (.place ofWord, rest) => !(ofWord && group.unicode) && item rest
    else if c = '.' then group.unicode && item cs
    else item cs

/-- Whether a regular expression is well formed. -/
def isValid (text : String) : Bool :=
  isValidFrom text.length [] [] ⟨false, true⟩ text.toList

/-- Whether a text is a number without a sign: digits with a point among them and an exponent, or
one of the words for what is no finite number. -/
def isUnsignedNumber (cs : List Char) : Bool :=
  let (whole, rest) := cs.span Char.isDigit
  let (fraction, rest) := match rest with
    | '.' :: rest => rest.span Char.isDigit
    | rest => ([], rest)
  ["inf", "infinity", "nan"].contains (String.ofList cs).toLower ||
    (whole ≠ [] || fraction ≠ []) && (rest = [] || (Json.Numeral.exponentOf? rest).isSome)

/-- Whether a value can be asked for. A number that is no regular expression has a plus sign in
front. -/
def isValue (text : String) : Bool :=
  isValid text ||
    match text.toList with
    | '+' :: cs => isUnsignedNumber cs
    | _ => false

end NamespaceBackup.Pattern
