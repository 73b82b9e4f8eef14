import NamespaceBackup.Failure
import NamespaceBackup.Json.Reader
import NamespaceBackup.Json.Record
import NamespaceBackup.Rest.StatusCode
import NamespaceBackup.Text.Quoted

/-!
# Errors of the API server

An error reply carries an object that says what is wrong. Its own code, not that of the reply,
decides which kind of failure it is.

## Main definitions

* `Rest.ApiError`: what an error reply says
* `Rest.ApiError.ofReply`: reads an error reply
* `Rest.ApiError.failure`: the failure that it is
-/

namespace NamespaceBackup.Rest

/-- What an error reply says. -/
structure ApiError where
  status : String
  message : String
  reason : String
  code : Nat
deriving DecidableEq, Repr

namespace ApiError

/-- The names of the fields, in order. -/
def fieldNames : List String := ["status", "message", "reason", "code"]

/-- Reads the object of an error reply. -/
def ofJson? {σ : Type} [Json.Source σ] (json : σ) : Option ApiError := do
  let record ← Record.ofObjectOrArray? fieldNames 4 json
  pure {
    status := ← record.required "status" Source.text?
    message := ← record.withDefault "message" "" Source.text?
    reason := ← record.withDefault "reason" "" Source.text?
    code := ← record.required "code" (Source.unsigned? 16) }

/-- The error that stands for a reply that cannot be read. -/
def unreadable (code : Nat) (text : String) : ApiError :=
  { status := statusText code, message := Text.quoted text
    reason := "Failed to parse error data", code }

/-- Reads an error reply. -/
def ofReply (code : Nat) (text : String) : ApiError :=
  ((Json.Document.parse text).bind ofJson?).getD (unreadable code text)

/-- An error as text: message and reason, then all four fields. -/
def text (error : ApiError) : String :=
  "ApiError: " ++ error.message ++ ": " ++ error.reason ++ " (ErrorResponse \x7b status: " ++
    Text.quoted error.status ++ ", message: " ++ Text.quoted error.message ++ ", reason: " ++
    Text.quoted error.reason ++ ", code: " ++ toString error.code ++ " \x7d)"

/-- The failure that an error is. -/
def failure (error : ApiError) : Failure :=
  if error.code = 409 then .conflict error.message
  else if error.code = 404 then .notFound error.message
  else .api error.text

/-- Whether an error says that an object does not exist. -/
def isAbsence (error : ApiError) : Bool := error.reason = "NotFound"

end ApiError

end NamespaceBackup.Rest
