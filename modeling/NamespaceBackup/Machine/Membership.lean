import NamespaceBackup.Call
import NamespaceBackup.Settings
import NamespaceBackup.Text.Blank

/-!
# Cluster membership of machines

Machines may form a highly available cluster, which a machine must leave before it is powered off
and join again afterwards. A command from the administrative pod does either. What a failed
command printed decides whether it is tried again, passed over, or taken for a failure.

## Main definitions

* `Membership.Change`: leaving and joining
* `Membership.command`: the command that does it
* `Membership.classify`: what a failed command means
* `Membership.apply`: carries out a change
-/

namespace NamespaceBackup

namespace Membership

/-- What happens to a machine's membership. -/
inductive Change where
  /-- The machine joins its cluster. -/
  | start
  /-- The machine leaves its cluster. -/
  | stop
deriving DecidableEq, Repr

/-- The word for a change in a command. -/
def Change.name : Change → String
  | start => "start"
  | stop => "stop"

/-- The command that changes the membership of `node`, which is reached at `address`. -/
def command (user address : String) (change : Change) (node : String) : String :=
  "ssh " ++ user ++ "@" ++ address ++ " sudo pcs cluster " ++ change.name ++ " " ++ node

/-- What a command prints if a later attempt may succeed. -/
def retryable : List String :=
  ["Connection refused", "No route to host", "unable to start all nodes",
    "unable to stop all nodes"]

/-- What a command prints if the machine has no membership to change. -/
def ignorable : List String := ["pcs: command not found", "Permission denied"]

/-- What a failed command means by what it printed: `true` if nothing is left to do, `false` if it
must be tried again. Trying again goes before passing over; all else is a failure. -/
def classify (stderr : String) : Except Failure Bool :=
  if retryable.any (Text.occursIn · stderr) then .ok false
  else if ignorable.any (Text.occursIn · stderr) then .ok true
  else .error (.remoteCommand (Text.trim stderr))

/-- What a command's output means: `true` if nothing is left to do. -/
def conclude (output : CommandOutput) : Except Failure Bool :=
  if output.success then .ok true else classify output.stderr

/-- Changes the membership of `node`; tells whether nothing is left to do. -/
def apply {σ : Type} (settings : Settings) (ns address : String) (change : Change)
    (node : String) : Activity σ Bool := do
  let output ← Activity.call (.runCommand ns (command settings.adminUser address change node))
  ofExcept (conclude output)

end Membership

end NamespaceBackup
