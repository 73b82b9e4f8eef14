import NamespaceBackup.Json.Record

/-!
# Shapes

Of some objects only few fields are used, but the others must still look as their type says. A
shape says how: which fields are known, and what each of them looks like. Known fields may be
absent, `null` or given more than once; unknown ones do not count.

## Main definitions

* `Shape`: a condition on something that is read as JSON
* `Shape.fields`: the condition on an object with known fields
-/

namespace NamespaceBackup

/-- A condition on something that is read as JSON. -/
abbrev Shape (σ : Type) : Type := σ → Bool

namespace Shape

variable {σ α : Type} [Json.Source σ]

/-- What can be read as a value of some type. -/
def readableBy (read : σ → Option α) : Shape σ := fun source => (read source).isSome

/-- A text. -/
def text : Shape σ := readableBy Source.text?

/-- A truth value. -/
def truth : Shape σ := readableBy Source.truth?

/-- A signed integer of 32 bits. -/
def int32 : Shape σ := readableBy (Source.signed? 32)

/-- A signed integer of 64 bits. -/
def int64 : Shape σ := readableBy (Source.signed? 64)

/-- What has one shape or another. -/
def either (a b : Shape σ) : Shape σ := fun source => a source || b source

/-- An array whose items all have a shape. -/
def list (item : Shape σ) : Shape σ := fun source =>
  (Json.Source.items? source).any fun items => items.all item

/-- An object whose fields all have a shape. -/
def dict (value : Shape σ) : Shape σ := fun source =>
  (Json.Source.fields? source).any fun fields => fields.all fun field => value field.2

/-- Gives several fields one shape. -/
def each (names : List String) (shape : Shape σ) : List (String × Shape σ) :=
  names.map fun name => (name, shape)

/-- An object with known fields. -/
def fields (known : List (String × Shape σ)) : Shape σ := fun source =>
  (Record.ofObject? source).any fun record =>
    known.all fun field => (record.values field.1).all fun value =>
      Source.isNull value || field.2 value

/-- Reads what has a shape and drops it. -/
def check (shape : Shape σ) (source : σ) : Option Unit := if shape source then some () else none

end Shape

end NamespaceBackup
