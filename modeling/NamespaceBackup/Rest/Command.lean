import NamespaceBackup.Call
import NamespaceBackup.Json.Reader
import NamespaceBackup.Json.Shape
import NamespaceBackup.Rest.Exchange

/-!
# Output of a running command

While a command runs, its output arrives in frames: one channel for each of its two outputs, and
one for the status that ends it.

## Main definitions

* `Rest.readCommandStatus`: the status that ends a command
* `Rest.received`: the output of one channel
* `Rest.commandOutput`: what all frames together say
-/

namespace NamespaceBackup.Rest

/-- The channel of the normal output. -/
def stdoutChannel : Nat := 1

/-- The channel of the error output. -/
def stderrChannel : Nat := 2

/-- The channel of the status. -/
def statusChannel : Nat := 3

/-- The frames up to the first that carries a status; empty frames do not count. -/
def untilStatus (frames : List Frame) : List Frame :=
  (frames.filter (·.payload ≠ [])).takeWhile (·.channel ≠ statusChannel)

/-- The payload of the first frame that carries a status. -/
def statusPayload? (frames : List Frame) : Option (List UInt8) :=
  ((frames.filter (·.payload ≠ [])).find? (·.channel = statusChannel)).map (·.payload)

/-- The bytes that arrived on a channel. -/
def received (channel : Nat) (frames : List Frame) : List UInt8 :=
  ((untilStatus frames).filter (·.channel = channel)).flatMap (·.payload)

section Status

variable {σ : Type} [Json.Source σ]

/-- What metadata of a list looks like. -/
def listMetadata : Shape σ :=
  .fields <| Shape.each ["continue", "resourceVersion", "selfLink"] .text ++
    [("remainingItemCount", .int64)]

/-- What a cause of a failure looks like. -/
def cause : Shape σ := .fields (Shape.each ["field", "message", "reason"] .text)

/-- What the details of a status look like. -/
def details : Shape σ :=
  .fields <| Shape.each ["group", "kind", "name", "uid"] .text ++
    [("causes", .list cause), ("retryAfterSeconds", .int32)]

/-- Reads the status that ends a command: what it says, if anything. All its fields must be in
order. -/
def readCommandStatus (json : σ) : Option (Option String) := do
  let record ← Record.ofObject? json
  record.fixed "apiVersion" "v1"
  record.fixed "kind" "Status"
  let other : Shape σ := .fields <| Shape.each ["message", "reason"] .text ++
    [("code", .int32), ("details", details), ("metadata", listMetadata)]
  other.check json
  record.nullable "status" Source.text?

end Status

/-- What a status means: whether the command succeeded. -/
def succeeded (payload : List UInt8) : Option Bool := do
  let status ← (Json.Document.ofBytes? payload).bind readCommandStatus
  pure (status = some "Success")

/-- The text of an output. -/
def outputText (name : String) (bytes : List UInt8) : Except Failure String :=
  match Utf8.decode bytes with
  | .ok text => .ok text
  | .error fault => .error (.remoteCommand ("reading " ++ name ++ ": " ++ fault.message))

/-- What all frames together say. A status that cannot be read goes before output that is no
text; without a status the command did not succeed. -/
def commandOutput (frames : List Frame) : Except Failure CommandOutput := do
  let success ← match statusPayload? frames with
    | none => pure false
    | some payload =>
      match succeeded payload with
      | some success => pure success
      | none => throw (.remoteCommand "failed to deserialize status object")
  let stdout ← outputText "stdout" (received stdoutChannel frames)
  let stderr ← outputText "stderr" (received stderrChannel frames)
  return { stdout, stderr, success }

end NamespaceBackup.Rest
