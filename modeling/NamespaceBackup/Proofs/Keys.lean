import NamespaceBackup.Call.Summary
import NamespaceBackup.Proofs.Frames

/-!
# Single objects

Every call that writes is about one object of one namespace, and leaves all others as they are.

## Main definitions

* `Space.Key`, `Space.lookup?`: the place of an object in a namespace, and what is there
* `Call.key?`: the place that a call writes
* `Cluster.Beside`: a cluster in which nobody else writes one of the objects
* `Cluster.Untouched`: some exchanges leave an object as it is

## Main results

* `Cluster.lookup?_perform`: a call leaves alone what it is not about
* `Cluster.untouched_of_mem`: so do calls one after the other, if they are performed at all
-/

namespace NamespaceBackup

namespace Space

/-- The place of an object in a namespace. -/
inductive Key where
  | managed (kind : ManagedKind) (name : String)
  | configMap (name : String)
  | secret (name : String)
  | bundle (name : String)
  | machine (name : String)
  | marker (kind : MarkerKind) (name : String)
  | request (name : String)
deriving DecidableEq

namespace Key

/-- What may be stored at a place. -/
def Value : Key → Type
  | managed .. | machine _ | marker .. => Resource
  | configMap _ => ConfigMap
  | secret _ => Secret
  | bundle _ => Bundle
  | request _ => Request

/-- The part of a namespace that a place belongs to. -/
def part : Key → Part
  | managed .. | configMap _ | secret _ => .content
  | bundle _ => .bundles
  | machine _ => .machines
  | marker .. => .markers
  | request _ => .requests

end Key

/-- What is stored at a place. -/
def lookup? (space : Space) : (key : Key) → Option key.Value
  | .managed kind name => (space.ofKind kind.name).find? name
  | .configMap name => space.configMaps.find? name
  | .secret name => space.secrets.find? name
  | .bundle name => space.bundles.find? name
  | .machine name => space.machines.find? name
  | .marker kind name => (space.markers kind).find? name
  | .request name => space.requests.find? name

variable {key : Key} {a b : Space}

theorem Agree.lookup?_eq (h : Agree key.part a b) : a.lookup? key = b.lookup? key := by
  cases key with
  | managed kind name => exact congrArg (·.find? name) (h.ofKind_eq kind.name)
  | configMap name => exact congrArg (·.find? name) h.2.1
  | secret name => exact congrArg (·.find? name) h.2.2
  | bundle name => exact congrArg (·.find? name) (show a.bundles = b.bundles from h)
  | machine name => exact congrArg (·.find? name) (show a.machines = b.machines from h)
  | request name => exact congrArg (·.find? name) (show a.requests = b.requests from h)
  | marker kind name =>
    cases kind
    · exact congrArg (·.find? name) h.1
    · exact congrArg (·.find? name) h.2

end Space

open Space (Key)

/-- The place that a call writes. -/
def Call.key? : Call → Option Key
  | .applyManaged _ kind object => some (.managed kind object.anyName)
  | .patchManagedStatus _ kind name _ | .deleteManaged _ kind name => some (.managed kind name)
  | .applyConfigMap _ configMap => some (.configMap configMap.anyName)
  | .deleteConfigMap _ name => some (.configMap name)
  | .applySecret _ secret => some (.secret secret.anyName)
  | .deleteSecret _ name => some (.secret name)
  | .createBundle _ bundle => some (.bundle bundle.anyName)
  | .updateStatus request => some (.request request.anyName)
  | .patchMachine _ name _ => some (.machine name)
  | .createMarker _ kind marker => some (.marker kind marker.anyName)
  | .listManaged .. | .listConfigMaps .. | .listSecrets .. | .getBundle .. | .findBundle ..
  | .getMachine .. | .listMarkers .. | .runCommand .. => none

namespace Cluster

variable {cluster : Cluster} {ns other : String} {key : Key} {α : Type}

theorem space_commit_of_ne (hne : ns ≠ other) {change : Except Failure (Dict α)}
    {store : Space → Dict α → Space} :
    (cluster.commit ns change store).2.space other = cluster.space other := by
  cases change with
  | ok dict => exact space_withSpace_of_ne hne
  | error failure => rfl

/-- A call leaves all other namespaces as they are. -/
theorem space_perform_of_ne {c : Call} (h : c.ns ≠ other) (cluster : Cluster) :
    (cluster.perform c).2.space other = cluster.space other := by
  cases c with
  | listManaged | listConfigMaps | listSecrets | getBundle | findBundle | getMachine | listMarkers
  | runCommand => rfl
  | applyManaged | applyConfigMap | applySecret => exact space_withSpace_of_ne h
  | patchManagedStatus | deleteManaged | deleteConfigMap | deleteSecret | createBundle
  | patchMachine | createMarker => exact space_commit_of_ne h
  | updateStatus request =>
    rw [perform, writeStatus]
    split
    · rfl
    · dsimp only
      split
      · rfl
      · exact space_withSpace_of_ne h

section Stores

variable {dict dict' : Dict α} {name name' : String} {change : α → α} {value : α}

theorem find?_of_modifyOrFail (h : modifyOrFail dict name change = .ok dict') (hne : name ≠ name') :
    dict'.find? name' = dict.find? name' := by
  rw [modifyOrFail] at h
  split at h
  · cases h
    exact Dict.find?_insert_of_ne hne
  · cases h

theorem find?_of_eraseOrFail (h : eraseOrFail dict name = .ok dict') (hne : name ≠ name') :
    dict'.find? name' = dict.find? name' := by
  rw [eraseOrFail] at h
  split at h
  · cases h
    rw [Dict.find?_erase, if_neg hne]
  · cases h

theorem find?_of_addOrFail (h : addOrFail dict name value = .ok dict') (hne : name ≠ name') :
    dict'.find? name' = dict.find? name' := by
  rw [addOrFail] at h
  split at h
  · cases h
  · cases h
    exact Dict.find?_insert_of_ne hne

/-- Other objects of a kind leave alone all but those that they change. -/
theorem lookup?_withKind {space : Space} {kind : ManagedKind} {objects : Dict Resource}
    (h : ∀ name', key = .managed kind name' →
      objects.find? name' = (space.ofKind kind.name).find? name') :
    (space.withKind kind.name objects).lookup? key = space.lookup? key := by
  cases key with
  | managed kind' name' =>
    rw [Space.lookup?, Space.lookup?, Space.ofKind_withKind]
    split
    case isTrue hname =>
      obtain rfl := ManagedKind.name_injective hname
      exact h name' rfl
    case isFalse => rfl
  | marker kind' name' => cases kind' <;> rfl
  | _ => rfl

/-- Other markers of a kind leave alone all but those that they change. -/
theorem lookup?_withMarkers {space : Space} {kind : MarkerKind} {markers : Dict Resource}
    (h : ∀ name', key = .marker kind name' →
      markers.find? name' = (space.markers kind).find? name') :
    (space.withMarkers kind markers).lookup? key = space.lookup? key := by
  cases key with
  | marker kind' name' =>
    cases kind <;> cases kind' <;> first | exact h name' rfl | rfl
  | _ => cases kind <;> rfl

theorem lookup?_configMaps {space : Space} {configMaps : Dict ConfigMap}
    (h : ∀ name', key = .configMap name' →
      configMaps.find? name' = space.configMaps.find? name') :
    ({ space with configMaps } : Space).lookup? key = space.lookup? key := by
  cases key with
  | configMap name' => exact h name' rfl
  | marker kind name' => cases kind <;> rfl
  | _ => rfl

theorem lookup?_secrets {space : Space} {secrets : Dict Secret}
    (h : ∀ name', key = .secret name' → secrets.find? name' = space.secrets.find? name') :
    ({ space with secrets } : Space).lookup? key = space.lookup? key := by
  cases key with
  | secret name' => exact h name' rfl
  | marker kind name' => cases kind <;> rfl
  | _ => rfl

/-- Within its namespace, a commit leaves alone what the store leaves alone. -/
theorem lookup?_commit {change : Except Failure (Dict α)} {store : Space → Dict α → Space}
    (h : ∀ dict, change = .ok dict →
      (store (cluster.space ns) dict).lookup? key = (cluster.space ns).lookup? key) :
    ((cluster.commit ns change store).2.space ns).lookup? key = (cluster.space ns).lookup? key := by
  cases change with
  | ok dict =>
    rw [commit, space_withSpace]
    exact h dict rfl
  | error failure => rfl

end Stores

/-- A call leaves alone what it is not about. -/
theorem lookup?_perform {c : Call} (h : c.ns = ns → c.key? ≠ some key) (cluster : Cluster) :
    ((cluster.perform c).2.space ns).lookup? key = (cluster.space ns).lookup? key := by
  by_cases hns : c.ns = ns
  swap
  · rw [space_perform_of_ne hns]
  have hkey := h hns
  -- What belongs to another part is not at stake; within the part, the names tell the objects apart.
  by_cases hpart : c.part? = some key.part
  swap
  · exact (agree_perform hpart cluster ns).lookup?_eq
  cases c with
  | listManaged | listConfigMaps | listSecrets | getBundle | findBundle | getMachine | listMarkers
  | runCommand => rfl
  | applyManaged place kind object =>
    obtain rfl : place = ns := hns
    rw [perform, space_update]
    refine lookup?_withKind fun name' hname => ?_
    exact Dict.find?_insert_of_ne fun heq => hkey (by rw [hname, Call.key?, heq])
  | patchManagedStatus place kind name patch =>
    obtain rfl : place = ns := hns
    refine lookup?_commit fun dict hdict => lookup?_withKind fun name' hname => ?_
    exact find?_of_modifyOrFail hdict fun heq => hkey (by rw [hname, Call.key?, heq])
  | deleteManaged place kind name =>
    obtain rfl : place = ns := hns
    refine lookup?_commit fun dict hdict => lookup?_withKind fun name' hname => ?_
    exact find?_of_eraseOrFail hdict fun heq => hkey (by rw [hname, Call.key?, heq])
  | createMarker place kind marker =>
    obtain rfl : place = ns := hns
    refine lookup?_commit fun dict hdict => lookup?_withMarkers fun name' hname => ?_
    exact find?_of_addOrFail hdict fun heq => hkey (by rw [hname, Call.key?, heq])
  | applyConfigMap place configMap =>
    obtain rfl : place = ns := hns
    rw [perform, space_update]
    refine lookup?_configMaps fun name' hname => ?_
    exact Dict.find?_insert_of_ne fun heq => hkey (by rw [hname, Call.key?, heq])
  | deleteConfigMap place name =>
    obtain rfl : place = ns := hns
    refine lookup?_commit fun dict hdict => lookup?_configMaps fun name' hname => ?_
    exact find?_of_eraseOrFail hdict fun heq => hkey (by rw [hname, Call.key?, heq])
  | applySecret place secret =>
    obtain rfl : place = ns := hns
    rw [perform, space_update]
    refine lookup?_secrets fun name' hname => ?_
    exact Dict.find?_insert_of_ne fun heq => hkey (by rw [hname, Call.key?, heq])
  | deleteSecret place name =>
    obtain rfl : place = ns := hns
    refine lookup?_commit fun dict hdict => lookup?_secrets fun name' hname => ?_
    exact find?_of_eraseOrFail hdict fun heq => hkey (by rw [hname, Call.key?, heq])
  | createBundle place bundle =>
    obtain rfl : place = ns := hns
    refine lookup?_commit fun dict hdict => ?_
    cases key with
    | bundle name' => exact find?_of_addOrFail hdict fun heq => hkey (by rw [Call.key?, heq])
    | _ => cases hpart
  | patchMachine place name patch =>
    obtain rfl : place = ns := hns
    refine lookup?_commit fun dict hdict => ?_
    cases key with
    | machine name' => exact find?_of_modifyOrFail hdict fun heq => hkey (by rw [Call.key?, heq])
    | _ => cases hpart
  | updateStatus request =>
    obtain rfl : home request = ns := hns
    cases key with
    | request name' =>
      rw [perform, writeStatus]
      split
      · rfl
      · dsimp only
        split
        · rfl
        · rw [space_withSpace]
          exact Dict.find?_insert_of_ne fun heq => hkey (by rw [Call.key?, heq])
    | _ => cases hpart

/-! ## An object that nobody else writes -/

/-- A cluster in which nobody else writes the object at a place. A call is performed or it is not, and
is answered in any way. Of all other objects nothing is said. -/
inductive Beside (ns : String) (key : Key) (cluster : Cluster) : Exchange → Cluster → Prop
  | performed {c : Call} {answer : Except Failure c.Answer} {after : Cluster}
    (h : (after.space ns).lookup? key = ((cluster.perform c).2.space ns).lookup? key) :
    Beside ns key cluster ⟨.call c, answer⟩ after
  | passed {exchange : Exchange} {after : Cluster}
    (h : (after.space ns).lookup? key = (cluster.space ns).lookup? key) :
    Beside ns key cluster exchange after

/-- Some exchanges leave the object at a place as it is, if nobody else writes it. -/
def Untouched (ns : String) (key : Key) (exchanges : List Exchange) : Prop :=
  ∀ cluster after, Respondent.Path (Beside ns key) cluster exchanges after →
    (after.space ns).lookup? key = (cluster.space ns).lookup? key

theorem Beside.lookup?_eq {exchange : Exchange} {after : Cluster}
    (h : Beside ns key cluster exchange after)
    (hother : ∀ c, exchange.1 = .call c → c.ns = ns → c.key? ≠ some key) :
    (after.space ns).lookup? key = (cluster.space ns).lookup? key := by
  cases h with
  | @performed c _ _ h => exact h.trans (lookup?_perform (hother c rfl) cluster)
  | passed h => exact h

/-- What no call is about is left as it is by all of them. -/
theorem untouched_of_mem {exchanges : List Exchange}
    (h : ∀ exchange ∈ exchanges, ∀ c, exchange.1 = .call c → c.ns = ns → c.key? ≠ some key) :
    Untouched ns key exchanges := fun cluster _ hpath =>
  hpath.invariant_of_mem (fun after => (after.space ns).lookup? key = (cluster.space ns).lookup? key)
    rfl fun _ exchange _ hmem hkept hbeside =>
      (hbeside.lookup?_eq (h exchange hmem)).trans hkept

end Cluster

end NamespaceBackup
