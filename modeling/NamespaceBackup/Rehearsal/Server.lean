import NamespaceBackup.Json.Writer
import NamespaceBackup.Rest.Client
import NamespaceBackup.Text.Blank

/-!
# Scripted servers

An API server for rehearsals: it gives the replies that are laid out for it, either one after the
other or by rules, and notes every request.

## Main definitions

* `Script`: replies in order
* `Rule`, `Rulebook`: replies by method and address
* `Script.carryOut`, `Rulebook.carryOut`: carries out an activity against such a server
-/

namespace NamespaceBackup

open Rest

/-- The reply that carries a status object. -/
def statusReply (code : Nat) (message reason : String) : Reply :=
  .response code <| Json.text <| .object
    [("apiVersion", .str "v1"), ("kind", .str "Status"), ("status", .str "Failure"),
      ("message", .str message), ("reason", .str reason), ("code", .int code)]

/-- A server that gives replies in order. -/
structure Script where
  clock : Instant
  /-- The replies not given yet. -/
  replies : List Reply
  /-- The requests made, the last one first. -/
  requests : List Rest.Request := []

namespace Script

/-- What a server replies that has no more replies laid out. -/
def exhausted : Reply := statusReply 500 "no response scripted" "InternalError"

/-- What a client is answered. -/
def answer : (question : Question) → Script → question.Answer × Script
  | .clock, script => (script.clock, script)
  | .send request, script =>
    (script.replies.headD exhausted,
      { script with replies := script.replies.tail, requests := request :: script.requests })

/-- Carries out requests. -/
def carryOut {α : Type} (dialogue : Dialogue Question Question.Answer α) (script : Script) :
    α × Script :=
  Dialogue.run answer dialogue script

end Script

/-- A reply that is given to some requests. -/
structure Rule where
  /-- The name of their method. -/
  method : String
  /-- What their address contains. -/
  part : String
  reply : Reply

/-- A server that replies by rules. -/
structure Rulebook where
  clock : Instant
  rules : List Rule
  /-- The second of its own time. -/
  second : Nat := 0
  /-- The requests made, with the second of each, the last one first. -/
  requests : List (Nat × Rest.Request) := []

namespace Rulebook

/-- Whether a rule is about a request. -/
def covers (rule : Rule) (request : Rest.Request) : Bool :=
  rule.method = request.method.name && Text.occursIn rule.part request.uri

/-- What is replied to requests that no rule is about: lists are empty, nothing exists, and every
write is in conflict. -/
def fallback (request : Rest.Request) : Reply :=
  if request.method = .get then
    if request.uri.toList.contains '?' then
      .response 200 <| Json.text <| .object [("items", .arr []), ("metadata", .obj [])]
    else statusReply 404 "not found" "NotFound"
  else statusReply 409 "conflict" "Conflict"

/-- What a client is answered. -/
def answer : (question : Question) → Rulebook → question.Answer × Rulebook
  | .clock, book => (book.clock, book)
  | .send request, book =>
    let reply := match book.rules.find? (covers · request) with
      | some rule => rule.reply
      | none => fallback request
    (reply, { book with requests := (book.second, request) :: book.requests })

/-- Carries out requests in a given second. -/
def carryOut {α : Type} (second : Nat) (dialogue : Dialogue Question Question.Answer α)
    (book : Rulebook) : α × Rulebook :=
  Dialogue.run answer dialogue { book with second }

end Rulebook

end NamespaceBackup
