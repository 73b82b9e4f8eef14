import NamespaceBackup.Proofs.Activity
import NamespaceBackup.Proofs.Membership
import NamespaceBackup.Proofs.Objects
import NamespaceBackup.Proofs.Visiting
import NamespaceBackup.Saga.Reconcile

/-!
# What the parts of a pass ask

Each part of a pass asks questions of few shapes: it lists a namespace, deletes what was listed,
loads what a bundle has, handles machines, or looks for a bundle and makes it. Whatever such
questions cannot disturb survives the part.

## Main definitions

* `Inventory.IsListing`, `Inventory.IsDeletion`: collecting and clearing a namespace
* `Saga.IsLoading`, `Saga.IsBundling`: loading a bundle, finding and making it
* `Imaging.IsHandling`: the next step for some machines
* `Imaging.Marks`: for which machine a marker is

## Main results

* `Inventory.collect_asks`, `Inventory.clear_asks`, `Saga.loadObjects_asks`,
  `Saga.ensureBundle_asks`, `Saga.sourceBundle_asks`, `Imaging.runMachine_asks`
* `Imaging.runMembers_asks`, `Imaging.runSet_asks`, `Imaging.runPass_asks`: with the machines whose
  records may change
* `Imaging.within_runPass_asks`: a visit to the machines as a part of a pass
-/

namespace NamespaceBackup

open Activity (Asks Ensures)

variable {σ : Type}

namespace Inventory

/-- The questions that list what is managed in a namespace. -/
inductive IsListing (ns selector : String) : Query → Prop
  | managed (kind : ManagedKind) : IsListing ns selector (.call (.listManaged ns kind))
  | configMaps : IsListing ns selector (.call (.listConfigMaps ns selector))
  | secrets : IsListing ns selector (.call (.listSecrets ns selector))

theorem collect_asks (ns selector : String) :
    Asks (IsListing ns selector) (collect ns selector : Activity σ Inventory) := by
  refine .bind (.foldlM fun resources kind _ => ?_) fun _ => ?_
  · exact .bind (.call (.managed kind)) fun _ => .pure _
  · exact .bind (.call .configMaps) fun _ => .bind (.call .secrets) fun _ => .pure _

/-- The questions that delete something of an inventory. -/
inductive IsDeletion (ns : String) (inventory : Inventory) : Query → Prop
  | managed {kind : ManagedKind} {object : Resource} (h : object ∈ inventory.objects kind.name) :
    IsDeletion ns inventory (.call (.deleteManaged ns kind object.anyName))
  | configMap {configMap : ConfigMap} (h : configMap ∈ inventory.configMaps) :
    IsDeletion ns inventory (.call (.deleteConfigMap ns configMap.anyName))
  | secret {secret : Secret} (h : secret ∈ inventory.secrets) :
    IsDeletion ns inventory (.call (.deleteSecret ns secret.anyName))

theorem tolerate_asks {P : Query → Prop} {deletion : Activity σ Unit} (h : Asks P deletion) :
    Asks P (tolerate deletion) := by
  refine .bind h.outcome fun outcome => ?_
  cases outcome with
  | ok => exact .pure _
  | error failure =>
    simp only
    split
    · exact .pure _
    · exact .throw _

theorem clearKind_asks {ns kindName : String} {objects : List Resource} {inventory : Inventory}
    (h : ∀ object ∈ objects, object ∈ inventory.objects kindName) :
    Asks (IsDeletion ns inventory) (clearKind ns kindName objects : Activity σ Unit) := by
  rw [clearKind]
  split
  case h_1 => exact .throw _
  case h_2 kind hkind =>
    refine .forM fun object hobject => tolerate_asks (.call (.managed ?_))
    rw [ManagedKind.name_of_ofName? hkind]
    exact h object hobject

theorem clear_asks (ns : String) (inventory : Inventory) :
    Asks (IsDeletion ns inventory) (inventory.clear ns : Activity σ Bool) := by
  rw [clear]
  split
  · exact .pure _
  · refine .bind (.forM ?_) fun _ => .bind (.forM fun m hm => ?_) fun _ =>
      .bind (.forM fun s hs => ?_) fun _ => .pure _
    · rintro ⟨kindName, objects⟩ hentry
      refine clearKind_asks fun object hobject => ?_
      rwa [Inventory.objects, Dict.mem_entries_iff.1 hentry]
    · exact tolerate_asks (.call (.configMap hm))
    · exact tolerate_asks (.call (.secret hs))

end Inventory

namespace Saga

/-- The questions that load something of a bundle. -/
inductive IsLoading (ns reason : String) (content : Bundle.Content) : Query → Prop
  | object {kind : ManagedKind} {saved : Resource} (h : saved ∈ content.objects kind.name) :
    IsLoading ns reason content (.call (.applyManaged ns kind (saved.reloaded ns)))
  | status {kind : ManagedKind} {saved : Resource} {patch : Json}
    (h : saved ∈ content.objects kind.name) (hpatch : kind.waitingStatus reason = some patch) :
    IsLoading ns reason content
      (.call (.patchManagedStatus ns kind (saved.reloaded ns).anyName patch))
  | configMap {saved : ConfigMap} (h : saved ∈ content.configMaps) :
    IsLoading ns reason content (.call (.applyConfigMap ns (saved.reloaded ns)))
  | secret {saved : Secret} (h : saved ∈ content.secrets) :
    IsLoading ns reason content (.call (.applySecret ns (saved.reloaded ns)))

theorem loadObject_asks {ns reason : String} {content : Bundle.Content} {kind : ManagedKind}
    {saved : Resource} (h : saved ∈ content.objects kind.name) :
    Asks (IsLoading ns reason content) (loadObject ns reason kind saved : Activity σ Unit) := by
  refine .bind (.call (.object h)) fun _ => ?_
  cases hpatch : kind.waitingStatus reason with
  | none => exact .pure _
  | some patch => exact .call (.status h hpatch)

theorem loadObjects_asks (ns reason : String) (content : Bundle.Content) :
    Asks (IsLoading ns reason content) (loadObjects ns reason content : Activity σ Unit) := by
  refine .bind (.forM fun kind _ => ?_) fun _ => .bind (.forM fun m hm => ?_) fun _ =>
    .forM fun s hs => ?_
  · exact .forM fun saved hsaved => loadObject_asks hsaved
  · exact .call (.configMap hm)
  · exact .call (.secret hs)

theorem sourceBundle_asks (ns : String) :
    Asks (fun question => ∃ name, question = .call (.getBundle ns name)) (sourceBundle ns) := by
  intro request
  rw [sourceBundle]
  simp only [Activity.ensures_bind, Activity.ensures_get, Activity.then_ok]
  split
  · exact rfl
  · simp only [Activity.ensures_bind, Activity.ensures_call]
    refine ⟨⟨_, rfl⟩, fun answer _ _ => ?_⟩
    rcases answer with failure | (_ | bundle) <;> exact rfl

/-- The questions that find the bundle of a request, or make it. -/
inductive IsBundling (settings : Settings) (ns name marker : String) (inventory : Inventory)
    (snapshotNames : Dict String) : Query → Prop
  | find : IsBundling settings ns name marker inventory snapshotNames
      (.call (.findBundle ns (settings.markerSelector marker)))
  | clock : IsBundling settings ns name marker inventory snapshotNames .clock
  | create (seconds : Int) : IsBundling settings ns name marker inventory snapshotNames
      (.call (.createBundle ns (newBundle settings ns name marker
        (name ++ "-" ++ toString seconds) inventory snapshotNames)))

theorem ensureBundle_asks (settings : Settings) (ns name marker : String) (inventory : Inventory)
    (snapshotNames : Dict String) :
    Asks (IsBundling settings ns name marker inventory snapshotNames)
      (ensureBundle settings ns name marker inventory snapshotNames) := by
  refine .bind (.call .find) fun found => ?_
  cases found with
  | some bundle => exact .pure _
  | none =>
    exact .bind (.now .clock) fun now => .bind (.call (.create now.seconds)) fun _ => .pure _

end Saga

namespace Imaging

/-- The questions of the next step for one of some machines. -/
inductive IsHandling (settings : Settings) (request : Request) (task : Task)
    (machines : List String) : Query → Prop
  | read {machine : String} (h : machine ∈ machines) :
    IsHandling settings request task machines (.call (.getMachine request.ns machine))
  | powerOn {machine : String} (h : machine ∈ machines) :
    IsHandling settings request task machines
      (.call (.patchMachine request.ns machine Machine.powerOn))
  | powerOff {machine : String} (h : machine ∈ machines) :
    IsHandling settings request task machines
      (.call (.patchMachine request.ns machine Machine.powerOff))
  | mark {machine name : String} (h : machine ∈ machines)
    (hname : snapshotName request task machine = .ok name) :
    IsHandling settings request task machines
      (.call (.createMarker request.ns task.markerKind
        (buildMarker settings request task machine name)))
  | command {machine address : String} (h : machine ∈ machines)
    (hblank : ' ' ∉ address.toList) (change : Membership.Change) :
    IsHandling settings request task machines
      (.call (.runCommand request.ns
        (Membership.command settings.adminUser address change machine)))

/-- Whom a question changes the membership of is among the machines that it handles. -/
theorem mem_of_orders {settings : Settings} {request : Request} {task : Task}
    {machines : List String} {node : String} {change : Membership.Change} {question : Query}
    (h : IsHandling settings request task machines question)
    (horders : Membership.Orders settings.adminUser change node question) : node ∈ machines := by
  obtain ⟨ns, text, rfl, hconcerns⟩ := horders
  cases h with
  | command hmachine hblank change' =>
    rw [(hconcerns.unique (Membership.concerns_command hblank _ change' _)).2]
    exact hmachine

/-- A marker is for a machine. -/
def Marks (marker : Resource) (machine : String) : Prop :=
  marker.at? ["spec", "source", "name"] = some (.str machine) ∨
    marker.at? ["spec", "target", "name"] = some (.str machine)

theorem marks_buildMarker {settings : Settings} {request : Request} {task : Task}
    {machine snapshotName other : String} :
    Marks (buildMarker settings request task machine snapshotName) other ↔ other = machine := by
  cases task <;>
    simp [Marks, buildMarker, Resource.at?_cons, Json.at?_cons, Json.field?_object, Dict.ofList,
      eq_comm]

variable {settings : Settings} {request : Request} {task : Task} {machines : List String}
  {machine name : String} {address : Option String}

/-- The questions by which a machine is powered on and joins its cluster again. -/
inductive IsReturning (settings : Settings) (request : Request) (machine : String) : Query → Prop
  | read : IsReturning settings request machine (.call (.getMachine request.ns machine))
  | powerOn : IsReturning settings request machine
      (.call (.patchMachine request.ns machine Machine.powerOn))
  | command {address : String} (hblank : ' ' ∉ address.toList) (change : Membership.Change) :
    IsReturning settings request machine
      (.call (.runCommand request.ns
        (Membership.command settings.adminUser address change machine)))

theorem IsReturning.isHandling {question : Query}
    (h : IsReturning settings request machine question) (hmachine : machine ∈ machines) :
    IsHandling settings request task machines question := by
  cases h with
  | read => exact .read hmachine
  | powerOn => exact .powerOn hmachine
  | command hblank change => exact .command hmachine hblank change

theorem apply_asks {address : String} (hblank : ' ' ∉ address.toList)
    (change : Membership.Change) :
    Asks (IsReturning settings request machine)
      (Membership.apply settings request.ns address change machine : Activity σ Bool) :=
  .bind (.call (.command hblank change)) fun _ => .ofExcept _

theorem finishMachine_asks (hblank : ∀ a ∈ address, ' ' ∉ a.toList) (markerReady : Bool) :
    Asks (IsReturning settings request machine)
      (finishMachine settings request machine markerReady address : Activity σ Bool) := by
  cases markerReady with
  | false => exact .pure _
  | true =>
    refine .bind (.call .read) fun object => ?_
    cases object with
    | none => exact .pure _
    | some object =>
      simp only
      split
      · exact .bind (.call .powerOn) fun _ => .pure _
      · split
        · exact .pure _
        · cases address with
          | none => exact .pure _
          | some a => exact apply_asks (hblank a rfl) .start

/-- What is done to a machine that has left its cluster, or need not: it is powered off and its
marker is made. -/
def shutMachine (settings : Settings) (request : Request) (task : Task)
    (machine snapshotName : String) : Activity σ Unit := do
  match ← Activity.call (.getMachine request.ns machine) with
  | none => return
  | some object =>
    if Machine.isReady object then
      Activity.call (.patchMachine request.ns machine Machine.powerOff)
    createMarker request task (buildMarker settings request task machine snapshotName)

theorem startMachine_some (settings : Settings) (request : Request) (task : Task)
    (machine snapshotName address : String) :
    (startMachine settings request task machine snapshotName (some address) : Activity σ Unit) =
      Membership.apply settings request.ns address .stop machine >>= fun stopped =>
        if stopped then shutMachine settings request task machine snapshotName else pure () := by
  refine congrArg (Membership.apply settings request.ns address .stop machine >>= ·)
    (funext fun stopped => ?_)
  cases stopped <;> rfl

/-- The questions by which a machine is powered off and its marker is made. -/
inductive IsShutting (settings : Settings) (request : Request) (task : Task) (machine : String) :
    Query → Prop
  | read : IsShutting settings request task machine (.call (.getMachine request.ns machine))
  | powerOff : IsShutting settings request task machine
      (.call (.patchMachine request.ns machine Machine.powerOff))
  | mark {name : String} (hname : snapshotName request task machine = .ok name) :
    IsShutting settings request task machine
      (.call (.createMarker request.ns task.markerKind
        (buildMarker settings request task machine name)))

theorem IsShutting.isHandling {question : Query}
    (h : IsShutting settings request task machine question) (hmachine : machine ∈ machines) :
    IsHandling settings request task machines question := by
  cases h with
  | read => exact .read hmachine
  | powerOff => exact .powerOff hmachine
  | mark hname => exact .mark hmachine hname

theorem createMarker_asks (hname : snapshotName request task machine = .ok name) :
    Asks (IsShutting settings request task machine)
      (createMarker request task (buildMarker settings request task machine name) :
        Activity σ Unit) := by
  refine .bind (Asks.call (.mark hname)).outcome fun outcome => ?_
  rcases outcome with failure | _
  · simp only
    split
    · exact .pure _
    · exact .throw _
  · exact .pure _

theorem shutMachine_asks (hname : snapshotName request task machine = .ok name) :
    Asks (IsShutting settings request task machine)
      (shutMachine settings request task machine name : Activity σ Unit) := by
  refine .bind (.call .read) fun object => ?_
  cases object with
  | none => exact .pure _
  | some object =>
    simp only
    split
    · exact .bind (.call .powerOff) fun _ => createMarker_asks hname
    · exact createMarker_asks hname

theorem startMachine_asks (hmachine : machine ∈ machines)
    (hname : snapshotName request task machine = .ok name)
    (hblank : ∀ a ∈ address, ' ' ∉ a.toList) :
    Asks (IsHandling settings request task machines)
      (startMachine settings request task machine name address : Activity σ Unit) := by
  have hshut : Asks (IsHandling settings request task machines)
      (shutMachine settings request task machine name : Activity σ Unit) :=
    (shutMachine_asks hname).mono fun _ h => h.isHandling hmachine
  cases address with
  | none => exact hshut
  | some a =>
    rw [startMachine_some]
    refine .bind ((apply_asks (hblank a rfl) .stop).mono fun _ h => h.isHandling hmachine)
      fun stopped => ?_
    cases stopped with
    | false => exact .pure _
    | true => exact hshut

theorem runMachine_asks {markers : List Resource} (hmachine : machine ∈ machines)
    (hname : snapshotName request task machine = .ok name)
    (hblank : ∀ a ∈ address, ' ' ∉ a.toList) :
    Asks (IsHandling settings request task machines)
      (runMachine settings request task markers machine name address : Activity σ Bool) := by
  rw [runMachine]
  split
  · exact (finishMachine_asks hblank _).mono fun _ h => h.isHandling hmachine
  · exact .bind (startMachine_asks hmachine hname hblank) fun _ => .pure _

/-- The addresses of commands have no blank. -/
theorem blank_notMem_fencedAddress {fencing : Bool} {set : Resource}
    (h : fencedAddress settings fencing set machine = .ok address) :
    ∀ a ∈ address, ' ' ∉ a.toList := by
  rw [fencedAddress] at h
  split at h
  · cases haddress : MachineSet.address set machine settings.haNetwork with
    | error failure => simp [haddress, Except.map] at h
    | ok a =>
      rw [haddress] at h
      cases h
      rintro _ ⟨⟩
      exact MachineSet.blank_notMem_address haddress
  · cases h
    simp

/-- The members of a set that is fenced have an address each. -/
theorem exists_fencedAddress {fencing : Bool} {set : Resource}
    (hfenced : isFenced fencing set = true)
    (h : fencedAddress settings fencing set machine = .ok address) :
    ∃ a, address = some a ∧ MachineSet.address set machine settings.haNetwork = .ok a := by
  rw [fencedAddress, if_pos hfenced] at h
  cases hset : MachineSet.address set machine settings.haNetwork with
  | error failure => simp [hset, Except.map] at h
  | ok a =>
    rw [hset] at h
    cases h
    exact ⟨a, rfl, rfl⟩

variable {markers : List Resource} {fencing : Bool} {recorded : Dict String}

/-- Members of a set are handled without touching anybody else's record. -/
theorem runMembers_asks {set : Resource} {members : List String} (hsub : members ⊆ machines) :
    Ensures (Terms.only (IsHandling settings request task machines))
      (runMembers settings request task markers fencing set members) recorded ()
      fun _ recorded' _ => ∀ machine ∉ machines,
        recorded'.find? machine = recorded.find? machine := by
  induction members generalizing recorded with
  | nil => exact fun _ _ => rfl
  | cons machine rest ih =>
    rw [List.cons_subset] at hsub
    refine ensures_runMembers_cons (fun _ _ _ _ => rfl) (fun _ _ _ _ => rfl) ?_
    intro name address hname haddress
    have hrun : Asks (IsHandling settings request task machines)
        (runMachine settings request task markers machine name address :
          Activity (Dict String) Bool) :=
      runMachine_asks hsub.1 hname (blank_notMem_fencedAddress haddress)
    refine (hrun recorded).mono ?_
    rintro (failure | finished) recorded' _ rfl
    · exact fun _ _ => rfl
    · -- Who is recorded is among the machines, whether or not the set is left after that.
      have hinsert : ∀ other ∉ machines,
          (recorded'.insert machine name).find? other = recorded'.find? other := by
        intro other hother
        refine Dict.find?_insert_of_ne ?_
        rintro rfl
        exact hother hsub.1
      cases finished with
      | false => exact fun _ _ => rfl
      | true =>
        cases address with
        | some a => exact hinsert
        | none => exact (ih hsub.2).mono fun _ _ _ h other hother =>
            (h other hother).trans (hinsert other hother)

theorem runSet_asks {set : Resource} (hsub : MachineSet.members set ⊆ machines) :
    Ensures (Terms.only (IsHandling settings request task machines))
      (runSet settings request task markers fencing set) recorded ()
      fun _ recorded' _ => ∀ machine ∉ machines,
        recorded'.find? machine = recorded.find? machine :=
  ensures_runSet.2 (runMembers_asks fun _ h => hsub (List.mem_filter.1 h).1)

theorem runSets_asks {sets : List Resource}
    (hsub : ∀ set ∈ sets, MachineSet.members set ⊆ machines) :
    Ensures (Terms.only (IsHandling settings request task machines))
      (sets.mapM (runSet settings request task markers fencing)) recorded ()
      fun _ recorded' _ => ∀ machine ∉ machines,
        recorded'.find? machine = recorded.find? machine := by
  refine Activity.ensures_mapM (fun (recorded' : Dict String) _ => ∀ machine ∉ machines,
    recorded'.find? machine = recorded.find? machine) ?_ fun _ _ => rfl
  intro set hset recorded' _ hagree
  refine (runSet_asks (hsub set hset)).mono fun _ recorded'' _ hvisited machine hmachine => ?_
  exact (hvisited machine hmachine).trans (hagree machine hmachine)

/-- The questions of a pass over sets of machines: it lists the markers once and handles the
members of its sets. -/
inductive IsImaging (settings : Settings) (request : Request) (task : Task)
    (machines : List String) : Query → Prop
  | list : IsImaging settings request task machines
      (.call (.listMarkers request.ns task.markerKind (settings.markerSelector request.marker)))
  | handle {question : Query} (h : IsHandling settings request task machines question) :
    IsImaging settings request task machines question

theorem runPass_asks {sets : List Resource}
    (hsub : ∀ set ∈ sets, MachineSet.members set ⊆ machines) :
    Ensures (Terms.only (IsImaging settings request task machines))
      (runPass settings request task sets fencing) recorded ()
      fun _ recorded' _ => ∀ machine ∉ machines,
        recorded'.find? machine = recorded.find? machine := by
  refine ensures_runPass.2 ⟨.list, fun answer _ _ => ?_⟩
  cases answer with
  | error failure => exact fun _ _ => rfl
  | ok markers => exact (runSets_asks hsub).widen fun _ => .handle

/-- Handling machines writes no status. -/
theorem not_isImaging_updateStatus {request' : NamespaceBackup.Request} :
    ¬ IsImaging settings request task machines (.call (.updateStatus request')) := by
  rintro (_ | ⟨⟨⟩⟩)

/-- A pass over sets of machines with a map of its own handles the members of the sets. -/
theorem within_runPass_asks (settings : Settings) (request : Request) (task : Task)
    (sets : List Resource) (fencing : Bool) (recorded : Dict String) :
    Asks (IsImaging settings request task (sets.flatMap MachineSet.members))
      (Activity.within recorded (runPass settings request task sets fencing) :
        Activity σ (List String × Dict String)) := by
  refine .within (runPass_asks fun set hset machine hmachine => ?_)
  exact List.mem_flatMap.2 ⟨set, hset, hmachine⟩

end Imaging

end NamespaceBackup
