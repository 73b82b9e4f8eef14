import NamespaceBackup.Json.Source

/-!
# Reading records

A record is read field by field. A field may be required, may have a default that stands in when
it is absent, or may be nullable, in which case `null` counts as absent. Some records may also be
written as an array of their fields in order. Where a field may be given more than once, every
value must be readable and the last one counts.

## Main definitions

* `Record`: the fields of something that is read as a record
* `Record.ofObject?`, `Record.ofObjectOrArray?`, `Record.ofOpenObject?`: the written forms
* `Record.required`, `Record.withDefault`, `Record.nullable`: reading a field
* `Json.optional`, `Json.orNull`: writing a field
-/

namespace NamespaceBackup

/-- The fields of a record, in order. -/
structure Record (σ : Type) where
  /-- Names and values. -/
  fields : List (String × σ)

namespace Record

open Json.Source

variable {σ α : Type} [Json.Source σ]

/-- The values given for a field, in order. -/
def values (record : Record σ) (name : String) : List σ :=
  (record.fields.filter (·.1 = name)).map Prod.snd

/-- Whether each of some fields is given at most once. -/
def isUnique (record : Record σ) (names : List String) : Bool :=
  names.all fun name => (record.values name).length ≤ 1

/-- The record written as an object. -/
def ofObject? (source : σ) : Option (Record σ) := (fields? source).map Record.mk

/-- The record written as an object in which no known field repeats, or as an array of its fields
in the given order, of which those behind the first `least` may be left out. -/
def ofObjectOrArray? (names : List String) (least : Nat) (source : σ) : Option (Record σ) :=
  match items? source with
  | some items =>
    if least ≤ items.length ∧ items.length ≤ names.length then some ⟨names.zip items⟩ else none
  | none => (ofObject? source).filter (·.isUnique names)

/-- The record written as an object in which no known field repeats and all others are kept. -/
def ofOpenObject? (names : List String) (source : σ) :
    Option (Record σ × List (String × Json)) := do
  let record ← (ofObject? source).filter (·.isUnique names)
  let others ← (record.fields.filter (·.1 ∉ names)).mapM fun field =>
    (value? field.2).map (field.1, ·)
  pure (record, others)

/-- A field that must be there. -/
def required (record : Record σ) (name : String) (read : σ → Option α) : Option α :=
  ((record.values name).mapM read).bind List.getLast?

/-- A field that has a default; `null` is no default. -/
def withDefault (record : Record σ) (name : String) (default : α) (read : σ → Option α) :
    Option α :=
  ((record.values name).mapM read).map (·.getLastD default)

/-- A field that may be absent or `null`. -/
def nullable (record : Record σ) (name : String) (read : σ → Option α) : Option (Option α) :=
  record.withDefault name none fun value =>
    if Source.isNull value then some none else (read value).map some

/-- A field that may be absent but else has one given text. -/
def fixed (record : Record σ) (name text : String) : Option Unit :=
  record.withDefault name () fun value =>
    if Source.text? value = some text then some () else none

end Record

namespace Json

/-- The field of a value that is written if it is there. -/
def optional (name : String) (value : Option Json) : List (String × Json) :=
  match value with
  | some value => [(name, value)]
  | none => []

/-- A value that is written as `null` if it is not there. -/
def orNull (value : Option Json) : Json := value.getD null

end Json

end NamespaceBackup
