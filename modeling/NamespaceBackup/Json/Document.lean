import NamespaceBackup.Json.Basic

/-!
# JSON documents

A document is JSON as it is written: fields stand in the order of the text and may repeat, and
parts that are well formed may still stand for no value: a text with half a surrogate pair, a
number out of range, a container nested too deep. Nothing is wrong with such a part as long as
nobody looks at it.

## Main definitions

* `Json.Document`: JSON as it is written
* `Json.Document.value?`: the value of a document, all of whose parts count
-/

namespace NamespaceBackup.Json

/-- JSON as it is written. -/
inductive Document where
  /-- A part that stands for no value. -/
  | void
  /-- A text, a number, a truth value or `null`. -/
  | scalar (value : Json)
  | arr (items : List Document)
  /-- The fields in the order of the text; a name may stand for no text. -/
  | obj (fields : List (Option String × Document))
deriving Inhabited

namespace Document

mutual

/-- The value of a document, all of whose parts count; of two fields with one name the later. -/
def value? : Document → Option Json
  | void => none
  | scalar value => some value
  | arr items => (itemValues? items).map Json.arr
  | obj fields => (fieldValues? fields).map Json.object

/-- The values of a list of documents. -/
def itemValues? : List Document → Option (List Json)
  | [] => some []
  | item :: rest => do pure ((← item.value?) :: (← itemValues? rest))

/-- The values of a list of fields. -/
def fieldValues? : List (Option String × Document) → Option (List (String × Json))
  | [] => some []
  | (name, field) :: rest => do
    pure ((← name, ← field.value?) :: (← fieldValues? rest))

end

end Document

end NamespaceBackup.Json
