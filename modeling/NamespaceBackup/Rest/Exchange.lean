import NamespaceBackup.Json.Basic
import NamespaceBackup.Time.Timestamp

/-!
# Requests and replies

What is sent to the API server over HTTP, and what comes back.

## Main definitions

* `Rest.Request`: a request
* `Rest.Frame`, `Rest.Reply`: what comes back
* `Rest.Question`: what a client asks of its surroundings
-/

namespace NamespaceBackup.Rest

/-- The methods of HTTP that are used. -/
inductive Method where
  | get
  | post
  | put
  | patch
  | delete
deriving DecidableEq, Repr

/-- The name of a method. -/
def Method.name : Method → String
  | get => "GET"
  | post => "POST"
  | put => "PUT"
  | patch => "PATCH"
  | delete => "DELETE"

/-- What a request carries. -/
structure Body where
  contentType : String
  content : Json
deriving DecidableEq

/-- A request. -/
structure Request where
  method : Method
  uri : String
  body : Option Body := none
deriving DecidableEq

/-- A message that comes back while a command runs. -/
structure Frame where
  /-- What the message is about. -/
  channel : Nat
  payload : List UInt8
deriving DecidableEq, Repr

/-- What comes back. -/
inductive Reply where
  /-- A status code and a text. -/
  | response (code : Nat) (text : String)
  /-- A connection on which frames arrive until it is closed. -/
  | upgraded (frames : List Frame)
  /-- No reply, because the connection failed. -/
  | broken (detail : String)
deriving DecidableEq, Repr

/-- What a client asks of its surroundings. -/
inductive Question where
  /-- What time it is. -/
  | clock
  /-- The reply to a request. -/
  | send (request : Request)
deriving DecidableEq

/-- The answer to a question. -/
def Question.Answer : Question → Type
  | clock => Instant
  | send _ => Reply

end NamespaceBackup.Rest
