import NamespaceBackup.Json.Basic

/-!
# Schemas

What values a field of a custom resource may have, as the API server wants it described.

## Main definitions

* `Schema`: the shapes of values
* `Schema.toJson`: a schema in the form of OpenAPI
-/

namespace NamespaceBackup

/-- The shape of a value. -/
inductive Schema where
  | text
  | flag
  /-- One of some texts. -/
  | choice (names : List String)
  /-- An object whose fields are kept although nothing is known about them. -/
  | free
  /-- A list of values of one shape. -/
  | list (items : Schema)
  /-- Values of one shape by name. -/
  | dict (values : Schema)
  /-- Fields with shapes of their own, some of them required. -/
  | record (fields : List (String × Schema)) (required : List String)
  /-- A shape with something to be said about it. -/
  | noted (name : String) (note : Json) (schema : Schema)

namespace Schema

/-- A shape with a description. -/
def described (description : String) (schema : Schema) : Schema :=
  noted "description" (.str description) schema

/-- A shape with a default value. -/
def withDefault (default : Json) (schema : Schema) : Schema := noted "default" default schema

/-- A shape that also allows `null`. -/
def nullable (schema : Schema) : Schema := noted "nullable" (.bool true) schema

mutual

/-- The fields that describe a shape. -/
def describe : Schema → List (String × Json)
  | text => [("type", .str "string")]
  | flag => [("type", .str "boolean")]
  | choice names => [("type", .str "string"), ("enum", .arr (names.map .str))]
  | free => [("type", .str "object"), ("x-kubernetes-preserve-unknown-fields", .bool true)]
  | list items => [("type", .str "array"), ("items", .object items.describe)]
  | dict values => [("type", .str "object"), ("additionalProperties", .object values.describe)]
  | record fields required =>
    [("type", .str "object"), ("properties", .object (describeFields fields))] ++
      if required = [] then [] else [("required", .arr (required.map .str))]
  | noted name note schema => schema.describe ++ [(name, note)]

/-- The descriptions of fields. -/
def describeFields : List (String × Schema) → List (String × Json)
  | [] => []
  | (name, schema) :: rest => (name, .object schema.describe) :: describeFields rest

end

/-- A schema in the form of OpenAPI. -/
def toJson (schema : Schema) : Json := .object schema.describe

end Schema

end NamespaceBackup
