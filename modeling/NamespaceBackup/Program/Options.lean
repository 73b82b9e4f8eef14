import NamespaceBackup.Settings
import NamespaceBackup.Text.Split
import NamespaceBackup.Text.Terminal

/-!
# The command line

Options have a long name and a value, which follows as the next argument or behind an equals sign.
Besides there are the two flags for help and version. A value is looked at only when the argument
behind it has been recognised, so of two mistakes an unknown argument is reported first.

## Main definitions

* `Options.Key`: the options
* `Options.Fault`: what can be wrong with a command line
* `Options.parse`: reads a command line
* `Options.help`, `Options.version`: what the two flags print
* `Options.settings`: the settings that a command line gives
-/

namespace NamespaceBackup

namespace Options

/-- The options. -/
inductive Key where
  | ns
  | requeueSeconds
  | adminPodSelector
  | adminContainer
  | adminUser
  | haNetwork
  | managedSelector
deriving DecidableEq, Repr

namespace Key

/-- All options, in the order of the help text. -/
def all : List Key :=
  [ns, requeueSeconds, adminPodSelector, adminContainer, adminUser, haNetwork, managedSelector]

/-- The long name of an option. -/
def name : Key → String
  | ns => "namespace"
  | requeueSeconds => "requeue-seconds"
  | adminPodSelector => "admin-pod-selector"
  | adminContainer => "admin-container"
  | adminUser => "admin-user"
  | haNetwork => "ha-network"
  | managedSelector => "managed-selector"

/-- The option of a long name. -/
def ofName? (name : String) : Option Key := all.find? (·.name = name)

/-- The placeholder for an option's value. -/
def placeholder (key : Key) : String :=
  String.ofList (key.name.toList.map fun c => if c = '-' then '_' else c.toUpper)

/-- An option with its placeholder. -/
def usage (key : Key) : String := "--" ++ key.name ++ " <" ++ key.placeholder ++ ">"

/-- What an option is for. -/
def purpose : Key → String
  | ns => "Namespace to watch (empty for all namespaces) [default: \"\"]"
  | requeueSeconds => "Seconds between passes while a request is in progress"
  | adminPodSelector => "Label selector of the administrative pod HA commands run in"
  | adminContainer => "Container of the administrative pod"
  | adminUser => "User for ssh into VMs"
  | haNetwork => "Network whose address reaches a VM for HA commands"
  | managedSelector => "Label selector of config maps and secrets to save"

end Key

/-- The two flags. -/
inductive Flag where
  | help
  | version
deriving DecidableEq, Repr

namespace Flag

/-- The long name of a flag. -/
def name : Flag → String
  | help => "help"
  | version => "version"

/-- The short name of a flag. -/
def letter : Flag → Char
  | help => 'h'
  | version => 'V'

/-- The flag of a long name. -/
def ofName? (name : String) : Option Flag := [help, version].find? (·.name = name)

/-- The flag of a short name. -/
def ofLetter? (letter : Char) : Option Flag := [help, version].find? (·.letter = letter)

/-- What a flag is for. -/
def purpose : Flag → String
  | help => "Print help"
  | version => "Print version"

end Flag

/-- Why a text is no number of 64 bits. -/
inductive NumberFault where
  | empty
  | digit
  | tooLarge
deriving DecidableEq, Repr

/-- The wording of what is wrong with a number. -/
def NumberFault.message : NumberFault → String
  | empty => "cannot parse integer from empty string"
  | digit => "invalid digit found in string"
  | tooLarge => "number too large to fit in target type"

/-- What can be wrong with a command line. -/
inductive Fault where
  /-- An argument that is not known. -/
  | unexpected (argument : String)
  /-- An option without a value. -/
  | missingValue (key : Key)
  /-- An option given more than once. -/
  | repeated (key : Key)
  /-- A value that is no number. -/
  | invalidNumber (key : Key) (value : String) (fault : NumberFault)
  /-- A flag with a value. -/
  | excessValue (flag : Flag) (value : String)
deriving DecidableEq, Repr

/-- The wording of what is wrong with a command line. Control sequences in what was given are left
out. -/
def Fault.message : Fault → String
  | unexpected argument => "unexpected argument '" ++ Terminal.visible argument ++ "' found"
  | missingValue key => "a value is required for '" ++ key.usage ++ "' but none was supplied"
  | repeated key => "the argument '" ++ key.usage ++ "' cannot be used multiple times"
  | invalidNumber key value fault =>
    "invalid value '" ++ Terminal.visible value ++ "' for '" ++ key.usage ++ "': " ++ fault.message
  | excessValue flag value =>
    "unexpected value '" ++ Terminal.visible value ++ "' for '--" ++ flag.name ++
      "' found; no more were expected"

/-- What a command line asks for. -/
inductive Outcome where
  /-- To print something and end. -/
  | display (flag : Flag)
  /-- Nothing, because it is wrong. -/
  | reject (fault : Fault)
  /-- To start with the given options. -/
  | start (given : List (Key × String))
deriving DecidableEq, Repr

/-! ## Reading -/

/-- The number that the rest of its digits continue. -/
def numberFrom (value : Nat) : List Char → Except NumberFault Nat
  | [] => .ok value
  | c :: cs =>
    if !c.isDigit then .error .digit
    else
      let value := value * 10 + (c.toNat - 0x30)
      if value < 1 <<< 64 then numberFrom value cs else .error .tooLarge

/-- A number of 64 bits, with or without a plus sign. -/
def number (text : String) : Except NumberFault Nat :=
  match text.toList with
  | [] => .error .empty
  | ['+'] => .error .digit
  | '+' :: cs => numberFrom 0 cs
  | cs => numberFrom 0 cs

/-- Checks the value of an option. -/
def check (key : Key) (value : String) : Except Fault Unit :=
  match key with
  | .requeueSeconds =>
    match number value with
    | .ok _ => .ok ()
    | .error fault => .error (.invalidNumber key value fault)
  | _ => .ok ()

/-- Accepts the value of an option that was not given before. -/
def accept (given : List (Key × String)) (key : Key) (value : String) :
    Except Fault (List (Key × String)) := do
  if given.any (·.1 = key) then throw (.repeated key)
  check key value
  return given ++ [(key, value)]

/-- An option whose value is not looked at yet, or is still to come. -/
structure Pending where
  key : Key
  value : Option String

/-- Looks at the value of a pending option. -/
def settle (given : List (Key × String)) : Option Pending → Except Fault (List (Key × String))
  | none => .ok given
  | some ⟨key, none⟩ => .error (.missingValue key)
  | some ⟨key, some value⟩ => accept given key value

/-- How an argument is to be understood. -/
inductive Argument where
  /-- An option or flag by its long name, with the value behind the equals sign. -/
  | long (name : String) (value : Option String)
  /-- A flag by its short name. -/
  | short (letter : Char)
  /-- The mark behind which there are no options. -/
  | endOfOptions
  /-- A value. -/
  | plain

/-- How an argument is to be understood. -/
def Argument.ofText (text : String) : Argument :=
  match text.toList with
  | ['-', '-'] => .endOfOptions
  | '-' :: '-' :: rest =>
    match Text.cut? '=' (String.ofList rest) with
    | some (name, value) => .long name (some value)
    | none => .long (String.ofList rest) none
  | ['-'] => .plain
  | '-' :: letter :: _ => .short letter
  | _ => .plain

/-- The outcome of a flag, which is looked at after the option in front of it. -/
def raise (settled : Except Fault (List (Key × String))) (flag : Flag) : Outcome :=
  match settled with
  | .ok _ => .display flag
  | .error fault => .reject fault

/-- Reads the rest of a command line. -/
def parseFrom (given : List (Key × String)) (pending : Option Pending) : List String → Outcome
  | [] =>
    match settle given pending with
    | .ok given => .start given
    | .error fault => .reject fault
  | text :: rest =>
    match Argument.ofText text with
    -- There are no positional values, so nothing may follow the mark.
    | .endOfOptions =>
      match rest, settle given pending with
      | next :: _, _ => .reject (.unexpected next)
      | [], .ok given => .start given
      | [], .error fault => .reject fault
    | .long name value =>
      match Key.ofName? name, Flag.ofName? name, value with
      | some key, _, some value =>
        match settle given pending with
        | .error fault => .reject fault
        | .ok given =>
          match accept given key value with
          | .error fault => .reject fault
          | .ok given => parseFrom given none rest
      | some key, _, none =>
        match settle given pending with
        | .error fault => .reject fault
        | .ok given => parseFrom given (some ⟨key, none⟩) rest
      -- The next two mistakes are reported before anything that is wrong further left.
      | none, some flag, some value => .reject (.excessValue flag value)
      | none, some flag, none => raise (settle given pending) flag
      | none, none, _ => .reject (.unexpected ("--" ++ name))
    | .short letter =>
      match Flag.ofLetter? letter with
      | some flag => raise (settle given pending) flag
      | none => .reject (.unexpected (String.ofList ['-', letter]))
    | .plain =>
      match pending with
      | some ⟨key, none⟩ => parseFrom given (some ⟨key, some text⟩) rest
      | _ => .reject (.unexpected text)

/-- Reads a command line. -/
def parse (arguments : List String) : Outcome := parseFrom [] none arguments

/-! ## Writing -/

/-- The name of the program. -/
def programName : String := "director-backup-operator"

/-- What the flag for the version prints. -/
def version : String := programName ++ " 0.1.0\n"

/-- What is said about an option or flag in the help text. -/
def helpEntry (usage purpose : String) : String := usage ++ "\n          " ++ purpose ++ "\n"

/-- What the flag for help prints. -/
def help : String :=
  "Kubernetes Operator for director namespace backup and restore\n\nUsage: " ++ programName ++
    " [OPTIONS]\n\nOptions:\n" ++
    String.join (Key.all.map fun key => helpEntry ("      " ++ key.usage) key.purpose) ++
    String.join ([Flag.help, Flag.version].map fun flag =>
      helpEntry ("  -" ++ flag.letter.toString ++ ", --" ++ flag.name) flag.purpose)

/-- What a flag prints. -/
def Flag.text : Flag → String
  | help => Options.help
  | version => Options.version

/-! ## Settings -/

/-- The value given for an option. -/
def value? (given : List (Key × String)) (key : Key) : Option String := given.lookup key

/-- The namespace that is watched; all, if it has no name. -/
def watchedNamespace (given : List (Key × String)) : Option String :=
  (value? given .ns).filter (· ≠ "")

/-- The settings that a command line gives. -/
def settings (given : List (Key × String)) : Settings :=
  let default : Settings := {}
  let text (key : Key) (default : String) : String := (value? given key).getD default
  { default with
    requeueSeconds :=
      ((value? given .requeueSeconds).bind fun text => (number text).toOption).getD
        default.requeueSeconds
    adminPodSelector := text .adminPodSelector default.adminPodSelector
    adminContainer := text .adminContainer default.adminContainer
    adminUser := text .adminUser default.adminUser
    haNetwork := text .haNetwork default.haNetwork
    managedSelector := text .managedSelector default.managedSelector }

end Options

end NamespaceBackup
