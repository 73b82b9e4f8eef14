import NamespaceBackup.Dict
import NamespaceBackup.Json.Decimal

/-!
# JSON values

The free-form part of every object the cluster stores. Fields of an object are kept in ascending
order of name, integers are kept apart from numbers with a fraction.

## Main definitions

* `Json`: the values
* `Json.field?`, `Json.at?`: reading a field of an object
* `Json.merge`: the merge patch of RFC 7386
-/

namespace NamespaceBackup

/-- A JSON value. -/
inductive Json where
  | null
  | bool (value : Bool)
  /-- A number without fraction and exponent. -/
  | int (value : Int)
  /-- A number with a fraction or an exponent, or beyond 64 bits. -/
  | real (value : Decimal)
  | str (value : String)
  | arr (items : List Json)
  /-- The fields in ascending order of name. -/
  | obj (fields : List (String × Json))
deriving Inhabited

namespace Json

mutual

/-- Whether two values are the same. -/
def same : Json → Json → Bool
  | null, null => true
  | bool a, bool b => a == b
  | int a, int b => a == b
  | real a, real b => a == b
  | str a, str b => a == b
  | arr as, arr bs => sameItems as bs
  | obj as, obj bs => sameFields as bs
  | _, _ => false

/-- Whether two lists of values are the same. -/
def sameItems : List Json → List Json → Bool
  | [], [] => true
  | a :: as, b :: bs => same a b && sameItems as bs
  | _, _ => false

/-- Whether two lists of fields are the same. -/
def sameFields : List (String × Json) → List (String × Json) → Bool
  | [], [] => true
  | (n, a) :: as, (m, b) :: bs => n == m && same a b && sameFields as bs
  | _, _ => false

end

mutual

theorem same_iff : ∀ a b : Json, same a b = true ↔ a = b
  | null, b => by cases b <;> simp [same]
  | bool x, b => by cases b <;> simp [same]
  | int x, b => by cases b <;> simp [same]
  | real x, b => by cases b <;> simp [same]
  | str x, b => by cases b <;> simp [same]
  | arr xs, b => by cases b <;> simp [same, sameItems_iff xs]
  | obj xs, b => by cases b <;> simp [same, sameFields_iff xs]

theorem sameItems_iff : ∀ as bs : List Json, sameItems as bs = true ↔ as = bs
  | [], bs => by cases bs <;> simp [sameItems]
  | a :: as, bs => by cases bs <;> simp [sameItems, same_iff a, sameItems_iff as]

theorem sameFields_iff : ∀ as bs : List (String × Json), sameFields as bs = true ↔ as = bs
  | [], bs => by cases bs <;> simp [sameFields]
  | (n, a) :: as, bs => by
    cases bs <;> simp [sameFields, same_iff a, sameFields_iff as, Prod.ext_iff]

end

instance : DecidableEq Json := fun a b => decidable_of_iff _ (same_iff a b)

/-- The object with the given fields; of two fields with one name the later counts. -/
def object (fields : List (String × Json)) : Json := obj (Dict.ofList fields).entries

/-- The object whose fields are the entries of a dictionary. -/
def ofDict (dict : Dict Json) : Json := obj dict.entries

/-- A dictionary of texts as an object. -/
def ofTexts (dict : Dict String) : Json := ofDict (dict.map str)

/-- The fields of an object; none of any other value. -/
def fields : Json → List (String × Json)
  | obj fields => fields
  | _ => []

/-- The field called `name` of an object. -/
def field? (json : Json) (name : String) : Option Json := Assoc.find? name json.fields

/-- The value reached by following the field names of `path`. -/
def at? (json : Json) : List String → Option Json
  | [] => some json
  | name :: path => (json.field? name).bind fun value => value.at? path

/-- The text, if the value is one. -/
def str? : Json → Option String
  | str value => some value
  | _ => none

/-- The truth value, if the value is one. -/
def bool? : Json → Option Bool
  | bool value => some value
  | _ => none

/-- The integer, if the value is one. -/
def int? : Json → Option Int
  | int value => some value
  | _ => none

mutual

/-- Applies a merge patch: an object changes the fields it names and removes those it names with
`null`; anything else takes the place of the target. -/
def merge (target : Json) : (patch : Json) → Json
  | obj patch => obj (mergeFields target.fields patch)
  | patch => patch

/-- Applies the fields of a merge patch, one after the other. -/
def mergeFields (target : List (String × Json)) : List (String × Json) → List (String × Json)
  | [] => target
  | (name, value) :: rest =>
    match value with
    | null => mergeFields (Assoc.erase name target) rest
    | value =>
      mergeFields (Assoc.insert name (merge ((Assoc.find? name target).getD null) value) target) rest

end

end Json

end NamespaceBackup
