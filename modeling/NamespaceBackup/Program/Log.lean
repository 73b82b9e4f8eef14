import NamespaceBackup.Program.Options
import NamespaceBackup.Program.Pattern
import NamespaceBackup.Text.Alphanumeric

/-!
# The log

Messages have a level and fields and come from a target. A filter says which are shown: it is a
list of directives, each with a level for all messages, or for those whose target starts in a given
way or that have a given field.

## Main definitions

* `Level`: how much a directive shows
* `FilterFault`: what can be wrong with a filter
* `Directive.parse`, `LogFilter.parse`: reads a directive and a filter
* `LogFilter.shows`: whether a message is shown
* `startMessages`: what the program reports when it starts and finds no cluster
-/

namespace NamespaceBackup

/-- How much is shown, from nothing to everything. -/
inductive Level where
  | off
  | error
  | warn
  | info
  | debug
  | trace
deriving DecidableEq, Repr

namespace Level

/-- All levels, in order. -/
def all : List Level := [off, error, warn, info, debug, trace]

/-- The name of a level in a filter. -/
def name : Level → String
  | off => "off"
  | error => "error"
  | warn => "warn"
  | info => "info"
  | debug => "debug"
  | trace => "trace"

/-- The number of a level in a filter. -/
def number : Level → Nat
  | off => 0
  | error => 1
  | warn => 2
  | info => 3
  | debug => 4
  | trace => 5

/-- Reads a level, by number, or by name in any case. -/
def parse (text : String) : Option Level :=
  match Options.number text with
  | .ok n => all.find? (·.number = n)
  | .error _ => all.find? (text.toLower = ·.name)

/-- The word for a level in the log. -/
def label (level : Level) : String := level.name.toUpper

end Level

/-- A field that a directive asks for. -/
structure FieldMatch where
  name : String
  /-- Whether the field must have a given value. -/
  hasValue : Bool
deriving DecidableEq, Repr

/-- Reads what a directive asks of a field: a name, or a name and a value with an equals sign
between them. -/
def FieldMatch.parse (text : String) : Option FieldMatch :=
  match Text.split '=' text with
  | [] | [""] => none
  | [name] => some ⟨name, false⟩
  | name :: value :: _ => if Pattern.isValue value then some ⟨name, true⟩ else none

/-- What can be wrong with a filter. -/
inductive FilterFault where
  /-- It does not have the form of a filter. -/
  | malformed
  /-- A name or level would start or end inside of a character. -/
  | splitCharacter
deriving DecidableEq, Repr

/-- What is shown of some messages. -/
structure Directive where
  /-- What the names of the targets start with, if not all targets are meant. -/
  target : Option String := none
  level : Level := .trace
  /-- Whether only messages from inside of spans with some name are meant. -/
  inSpan : Bool := false
  /-- A field that the messages must have. -/
  field : Option FieldMatch := none
deriving DecidableEq, Repr

namespace Directive

/-- Whether the name of a target or a level may start with a character. -/
def startsName (c : Char) : Bool := Text.isAlphanumeric c || "-:_".toList.contains c

/-- Where in a directive a part starts, in bytes, and which part it is. -/
inductive Part where
  | start
  /-- The name of a target, or a level. -/
  | name
  /-- The name of spans, in brackets. -/
  | span (start : Nat)
  /-- A field, in braces behind the name of the spans. -/
  | field (start : Nat)
  /-- The bracket behind the field. -/
  | close
  /-- The equals sign in front of the level. -/
  | equals
  | level (start : Nat)
deriving DecidableEq, Repr

/-- The bytes of a text from one place on up to another. -/
def slice (text : String) (start stop : Nat) : Except FilterFault String :=
  let bytes := Utf8.encode text
  match Utf8.decode (bytes.take start), Utf8.decode ((bytes.take stop).drop start) with
  | .ok _, .ok part => .ok part
  | _, _ => .error .splitCharacter

/-- A directive so far. -/
structure Reading where
  directive : Directive := {}
  part : Part := .start
  /-- The number of bytes read. -/
  read : Nat := 0

/-- Reads a character. Brackets hold the name of spans, and a field in braces behind it. -/
def Reading.step (text : String) (reading : Reading) (c : Char) : Except FilterFault Reading :=
  let directive := reading.directive
  let here := reading.read
  let next := here + c.utf8Size
  match reading.part with
  | .start =>
    if c = '[' then .ok ⟨directive, .span next, next⟩
    else if startsName c then .ok ⟨directive, .name, next⟩
    else .error .malformed
  | .name =>
    if c = '=' ∨ c = '[' then do
      let target ← slice text 0 here
      let part : Part := if c = '=' then .level next else .span next
      return ⟨{ directive with target := some target }, part, next⟩
    else .ok ⟨directive, .name, next⟩
  | .span start =>
    if c = ']' ∨ c = '\x7b' then do
      let name ← slice text start here
      let part : Part := if c = ']' then .equals else .field next
      return ⟨{ directive with inSpan := c = ']' || name ≠ "" }, part, next⟩
    else .ok ⟨directive, .span start, next⟩
  | .field start =>
    if c = '\x7d' then do
      match FieldMatch.parse (← slice text start here) with
      | some field => return ⟨{ directive with field := some field }, .close, next⟩
      | none => throw .malformed
    else .ok ⟨directive, .field start, next⟩
  | .close => if c = ']' then .ok ⟨directive, .equals, next⟩ else .error .malformed
  | .equals => if c = '=' then .ok ⟨directive, .level next, next⟩ else .error .malformed
  | .level start => .ok ⟨directive, .level start, next⟩

/-- The directive at the end of the text. A name that is no level is one of a target. Where the
level is missing everything is shown. -/
def Reading.finish (text : String) (reading : Reading) : Except FilterFault Directive :=
  let directive := reading.directive
  match reading.part with
  | .name =>
    match Level.parse text with
    | some level => .ok { directive with level }
    | none => .ok { directive with target := some text }
  | .level start => do
    let rest ← slice text start text.utf8ByteSize
    if rest = "" then return directive
    match Level.parse rest with
    | some level => return { directive with level }
    | none => throw .malformed
  | .equals => .ok directive
  | _ => .error .malformed

/-- Reads a directive. Blanks at its ends are not looked at, but they take part in the names and
levels, which are counted off from the start of the text. -/
def parse (text : String) : Except FilterFault Directive := do
  let reading ← (Text.trim text).toList.foldlM (Reading.step text) {}
  reading.finish text

end Directive

/-- A filter for messages. -/
structure LogFilter where
  directives : List Directive
deriving DecidableEq, Repr

namespace LogFilter

/-- What is shown if nothing else is said. -/
def standard : LogFilter := ⟨[{ level := .info }]⟩

/-- Reads a filter: directives with commas between them. Without any only errors are shown. -/
def parse (text : String) : Except FilterFault LogFilter := do
  let directives ← ((Text.split ',' text).filter (· ≠ "")).mapM Directive.parse
  return if directives = [] then ⟨[{ level := .error }]⟩ else ⟨directives⟩

/-- The filter that is given to the program; a malformed one counts as none. -/
def ofSetting (setting : Option String) : Except FilterFault LogFilter :=
  match setting.map parse with
  | none => .ok standard
  | some (.error .malformed) => .ok standard
  | some result => result

/-- What is reported, behind an empty line, about a filter with which the program cannot start. -/
def breakdown : String := "\nThe log filter cannot be cut inside of a character."

/-- How closely a directive fits a message. -/
structure Fit where
  /-- The number of bytes of the target it names, and one more if it names any. -/
  target : Nat := 0
  /-- The field it asks for, if any. -/
  field : Option String := none

/-- Whether the second of two fits is at least as close as the first: a longer target counts more,
then a field, and of two fields the one whose name comes later. -/
def Fit.isNoCloser (a b : Fit) : Bool :=
  a.target < b.target || a.target = b.target &&
    match a.field, b.field with
    | none, _ => true
    | some _, none => false
    | some a, some b => a ≤ b

/-- How closely a directive fits a message, if it is about it. The messages come from outside of
all spans, and no value of theirs is asked for. -/
def fit? (target : String) (fields : List String) (directive : Directive) : Option Fit :=
  let start := directive.target.getD ""
  let length := if directive.target.isSome then start.utf8ByteSize + 1 else 0
  if directive.inSpan ∨ !start.toList.isPrefixOf target.toList then none
  else
    match directive.field with
    | none => some ⟨length, none⟩
    | some field =>
      if !field.hasValue ∧ fields.contains field.name then some ⟨length, some field.name⟩
      else none

/-- The directive that counts for a message: of those that fit most closely the last. -/
def directiveFor (filter : LogFilter) (target : String) (fields : List String) :
    Option Directive :=
  let step (best : Option (Fit × Directive)) (directive : Directive) : Option (Fit × Directive) :=
    match fit? target fields directive, best with
    | none, best => best
    | some fit, none => some (fit, directive)
    | some fit, some (other, old) =>
      if other.isNoCloser fit then some (fit, directive) else some (other, old)
  (filter.directives.foldl step none).map Prod.snd

/-- Whether a message is shown. -/
def shows (filter : LogFilter) (level : Level) (target : String) (fields : List String) : Bool :=
  (filter.directiveFor target fields).any fun directive => level.number ≤ directive.level.number

end LogFilter

/-- A message in the log. -/
structure LogMessage where
  level : Level
  target : String
  text : String
  /-- The names of the fields that it has besides its text. -/
  fields : List String := []
deriving DecidableEq, Repr

/-- The target of the program's own messages. -/
def programTarget : String := "director_backup_operator"

/-- The target of the messages about the search for a cluster. -/
def searchTarget : String := "kube_client::config"

/-- What the program reports when it starts and finds no cluster. -/
def startMessages (given : List (Options.Key × String)) : List LogMessage :=
  [{ level := .info, target := programTarget, text := "Starting Director Backup Operator" },
    { level := .info, target := programTarget
      text := "Watching namespace: " ++ (Options.watchedNamespace given).getD "all" },
    { level := .trace, target := searchTarget
      text := "no local config found, falling back to local in-cluster config"
      fields := ["error"] }]

/-- The messages that a filter lets through. -/
def LogFilter.apply (filter : LogFilter) (messages : List LogMessage) : List LogMessage :=
  messages.filter fun message =>
    filter.shows message.level message.target ("message" :: message.fields)

end NamespaceBackup
