import NamespaceBackup.Object.Metadata
import NamespaceBackup.Text.Split

/-!
# Label selectors

A label selector is a list of terms with commas between them. A term asks for a label with a given
value, or for a label with any value; all terms must hold.

## Main definitions

* `Selector.Term`, `Selector.parse`: the terms of a selector
* `Selector.selects`: whether metadata has the labels that a selector asks for
-/

namespace NamespaceBackup.Selector

/-- What a selector asks of one label. -/
structure Term where
  key : String
  /-- The value it must have, if not any. -/
  value : Option String
deriving DecidableEq, Repr

/-- Reads a term: key and value with an equals sign between them, or a key. -/
def Term.parse (text : String) : Term :=
  match Text.cut? '=' text with
  | some (key, value) => ⟨key, some value⟩
  | none => ⟨text, none⟩

/-- Whether a term holds of metadata. -/
def Term.holds (term : Term) (metadata : Metadata) : Bool :=
  match term.value with
  | some value => metadata.label? term.key = some value
  | none => (metadata.label? term.key).isSome

/-- The terms of a selector; empty ones do not count. -/
def parse (selector : String) : List Term :=
  ((Text.split ',' selector).filter (· ≠ "")).map Term.parse

/-- Whether metadata has the labels that a selector asks for. -/
def selects (selector : String) (metadata : Metadata) : Bool :=
  (parse selector).all (·.holds metadata)

end NamespaceBackup.Selector
