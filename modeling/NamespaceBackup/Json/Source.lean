import NamespaceBackup.Json.Document

/-!
# What is read as JSON

A reader takes JSON either as a value or as a document. It asks for the items of an array, the
fields of an object, or the value of a part; what it does not ask for does not count.

## Main definitions

* `Json.Source`: what can be read as JSON
* `Source.text?`, `Source.truth?`, `Source.signed?`, `Source.unsigned?`: scalars
* `Source.list?`, `Source.dict?`: lists and dictionaries, item by item
* `Source.choice?`: a name of an enumeration
-/

namespace NamespaceBackup

namespace Json

/-- What can be read as JSON. -/
class Source (σ : Type) where
  /-- The value, if all parts stand for one. -/
  value? : σ → Option Json
  /-- The items of an array. -/
  items? : σ → Option (List σ)
  /-- The fields of an object, in order. -/
  fields? : σ → Option (List (String × σ))

instance : Source Json where
  value? := some
  items?
    | arr items => some items
    | _ => none
  fields?
    | obj fields => some fields
    | _ => none

instance : Source Document where
  value? := Document.value?
  items?
    | .arr items => some items
    | _ => none
  fields?
    | .obj fields => fields.mapM fun (name, field) => name.map (·, field)
    | _ => none

end Json

namespace Source

open Json.Source

variable {σ α : Type} [Json.Source σ]

/-- Whether the value is `null`. -/
def isNull (source : σ) : Bool := value? source = some .null

/-- A text. -/
def text? (source : σ) : Option String := (value? source).bind Json.str?

/-- A truth value. -/
def truth? (source : σ) : Option Bool := (value? source).bind Json.bool?

/-- A signed integer of the given number of bits. -/
def signed? (bits : Nat) (source : σ) : Option Int :=
  let limit : Int := (1 <<< (bits - 1) : Nat)
  ((value? source).bind Json.int?).filter fun n => -limit ≤ n && n < limit

/-- An unsigned integer of the given number of bits. -/
def unsigned? (bits : Nat) (source : σ) : Option Nat :=
  let limit : Int := (1 <<< bits : Nat)
  ((value? source).bind Json.int?).bind fun n => if 0 ≤ n ∧ n < limit then some n.toNat else none

/-- An array, item by item. -/
def list? (read : σ → Option α) (source : σ) : Option (List α) :=
  (items? source).bind fun items => items.mapM read

/-- An object as a dictionary, field by field; of two fields with one name the later counts. -/
def dict? (read : σ → Option α) (source : σ) : Option (Dict α) :=
  (fields? source).bind fun fields =>
    (fields.mapM fun field => (read field.2).map (field.1, ·)).map Dict.ofList

/-- A name of an enumeration: a text, or an object with that name as its only field and `null` as
its value. -/
def choice? (ofName? : String → Option α) (source : σ) : Option α :=
  match fields? source with
  | some [(name, value)] => if isNull value then ofName? name else none
  | _ => (text? source).bind ofName?

end Source

end NamespaceBackup
