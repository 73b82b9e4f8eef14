import NamespaceBackup.Proofs.Collect
import NamespaceBackup.Proofs.Failures
import NamespaceBackup.Proofs.Grounds
import NamespaceBackup.Proofs.Saving

/-!
# What a recorded machine is vouched for by

A machine is recorded only after the pass has heard all that makes its image safe: a marker for its
snapshot that is ready, a machine that is kept running and is up, and, if its set is fenced, a
command by which it is back in its cluster. So each machine that a status records anew is vouched
for by what was exchanged earlier in the same pass.

## Main definitions

* `Imaging.Vouched`: what was heard of a machine that is recorded
* `Saga.Occasion`: what a pass visits the machines for
* `Saga.Vouched`: a machine that a pass had reason to record

## Main results

* `Imaging.runPass_vouched`: a visit records only machines that are vouched for
* `Saga.Grounds.kept`, `Saga.Grounds.vouched`: a status that is written records whom the copy in
  hand records, and otherwise only machines that are vouched for
-/

namespace NamespaceBackup

open Activity (Ensures Gives hearing)

namespace Imaging

variable {σ : Type} {settings : Settings} {request : Request} {task : Task} {sets : List Resource}
  {fencing : Bool} {journal journal' : List Exchange} {machine name : String}

/-- What was heard of a machine that is recorded with a snapshot. -/
structure Vouched (settings : Settings) (request : Request) (task : Task) (sets : List Resource)
    (fencing : Bool) (journal : List Exchange) (machine name : String) : Prop where
  /-- The snapshot is the one that the task names. -/
  named : snapshotName request task machine = .ok name
  /-- A marker for it was listed, and was ready. -/
  marked : ∃ markers : List Resource,
    ⟨.call (.listMarkers request.ns task.markerKind (settings.markerSelector request.marker)),
      (.ok markers : Except Failure (List Resource))⟩ ∈ journal ∧
    ∃ marker ∈ markers, task.markerKind.isFor marker name = true ∧
      task.markerKind.isReady marker = true
  /-- The machine was read, and was kept running and up. -/
  running : ∃ object : Resource, ⟨.call (.getMachine request.ns machine),
      (.ok (some object) : Except Failure (Option Resource))⟩ ∈ journal ∧
    Machine.isKeptRunning object = true ∧ Machine.isReady object = true
  /-- The machine is of some set, and if the set is fenced, nothing was left to do for it to be back
  in its cluster. -/
  joined : ∃ set ∈ sets, machine ∈ MachineSet.members set ∧ (isFenced fencing set = true →
    ∃ address output, MachineSet.address set machine settings.haNetwork = .ok address ∧
      ⟨.call (.runCommand request.ns
          (Membership.command settings.adminUser address .start machine)),
        (.ok output : Except Failure CommandOutput)⟩ ∈ journal ∧
      Membership.conclude output = .ok true)

theorem Vouched.mono (h : Vouched settings request task sets fencing journal machine name)
    (hsub : journal ⊆ journal') :
    Vouched settings request task sets fencing journal' machine name where
  named := h.named
  marked := by
    obtain ⟨markers, hlisted, hmarker⟩ := h.marked
    exact ⟨markers, hsub hlisted, hmarker⟩
  running := by
    obtain ⟨object, hread, hobject⟩ := h.running
    exact ⟨object, hsub hread, hobject⟩
  joined := by
    obtain ⟨set, hset, hmember, hfenced⟩ := h.joined
    refine ⟨set, hset, hmember, fun hfencing => ?_⟩
    obtain ⟨address, output, haddress, hcommand, hdone⟩ := hfenced hfencing
    exact ⟨address, output, haddress, hsub hcommand, hdone⟩

/-- What was heard of a machine that is finished. -/
structure Finished (settings : Settings) (request : Request) (journal : List Exchange)
    (machine : String) (address : Option String) : Prop where
  running : ∃ object : Resource, ⟨.call (.getMachine request.ns machine),
      (.ok (some object) : Except Failure (Option Resource))⟩ ∈ journal ∧
    Machine.isKeptRunning object = true ∧ Machine.isReady object = true
  joined : ∀ a ∈ address, ∃ output, ⟨.call (.runCommand request.ns
        (Membership.command settings.adminUser a .start machine)),
      (.ok output : Except Failure CommandOutput)⟩ ∈ journal ∧
    Membership.conclude output = .ok true

/-- A machine is finished only if its marker is ready, it was read as running, and nothing was left
to do for it to join its cluster. -/
theorem finishMachine_finished {markerReady : Bool} {address : Option String} (s : σ) :
    Ensures (hearing (· ∈ journal)) (finishMachine settings request machine markerReady address) s ()
      fun outcome s' _ => s' = s ∧
        (outcome = .ok true → markerReady = true ∧
          Finished settings request journal machine address) := by
  cases markerReady with
  | false => exact ⟨rfl, nofun⟩
  | true =>
    refine Activity.ensures_call_bind.2 ⟨trivial, ?_⟩
    intro (answer : Except Failure (Option Resource)) _ hread
    rcases answer with failure | (_ | object)
    · exact ⟨rfl, nofun⟩
    · exact ⟨rfl, nofun⟩
    · refine Activity.then_ok.2 ?_
      by_cases hkept : Machine.isKeptRunning object = true
      · by_cases hready : Machine.isReady object = true
        · simp only [hkept, hready]
          have hrunning : ∃ object : Resource, ⟨.call (.getMachine request.ns machine),
              (.ok (some object) : Except Failure (Option Resource))⟩ ∈ journal ∧
              Machine.isKeptRunning object = true ∧ Machine.isReady object = true :=
            ⟨object, hread, hkept, hready⟩
          cases address with
          | none => exact ⟨rfl, fun _ => ⟨trivial, hrunning, nofun⟩⟩
          | some a =>
            refine Activity.ensures_call_bind.2 ⟨trivial, ?_⟩
            intro (answer : Except Failure CommandOutput) _ hcommand
            cases answer with
            | error failure => exact ⟨rfl, nofun⟩
            | ok output =>
              refine Activity.then_ok.2 (Activity.ensures_ofExcept.2 ⟨rfl, fun hdone => ?_⟩)
              refine ⟨trivial, hrunning, ?_⟩
              rintro _ ⟨⟩
              exact ⟨output, hcommand, hdone⟩
        · simp only [hkept, hready]
          exact ⟨rfl, nofun⟩
      · simp only [hkept]
        refine Activity.ensures_call_bind.2 ⟨trivial, fun answer _ _ => ?_⟩
        cases answer <;> exact ⟨rfl, nofun⟩

variable {markers : List Resource} {address : Option String} {set : Resource}
  {recorded : Dict String}

/-- A machine without a marker is not finished by the step that makes it. -/
theorem runMachine_finished (hname : snapshotName request task machine = .ok name)
    (hblank : ∀ a ∈ address, ' ' ∉ a.toList) (s : σ) :
    Ensures (hearing (· ∈ journal))
      (runMachine settings request task markers machine name address) s () fun outcome s' _ =>
        s' = s ∧ (outcome = .ok true →
          (∃ marker ∈ markers, task.markerKind.isFor marker name = true ∧
            task.markerKind.isReady marker = true) ∧
          Finished settings request journal machine address) := by
  rw [runMachine]
  split
  case h_1 marker hmarker =>
    refine (finishMachine_finished s).mono ?_
    rintro outcome s' _ ⟨hs, hfinished⟩
    refine ⟨hs, fun hdone => ?_⟩
    obtain ⟨hready, hfinished⟩ := hfinished hdone
    have hfor : task.markerKind.isFor marker name = true := by
      have hfound := List.find?_some hmarker
      exact hfound
    exact ⟨⟨marker, List.mem_of_find?_eq_some hmarker, hfor, hready⟩, hfinished⟩
  case h_2 =>
    -- The marker is made now, so the machine waits for the next visit whatever comes of it.
    have hstart : Activity.Asks (fun _ => True)
        (startMachine settings request task machine name address : Activity σ Unit) :=
      (startMachine_asks (List.mem_singleton_self machine) hname hblank).mono fun _ _ => trivial
    refine hstart.preserves_bind (fun _ => True) (fun _ _ _ _ => trivial) (fun _ _ _ _ _ _ => trivial)
      trivial ?_ ?_
    · exact fun _ _ _ => ⟨rfl, by simp⟩
    · exact fun _ _ _ => ⟨rfl, by simp⟩

/-- Whoever is new in a map of recorded machines is vouched for. -/
def Backed (vouched : String → String → Prop) (recorded recorded' : Dict String) : Prop :=
  ∀ machine name, recorded'.find? machine = some name →
    recorded.find? machine = some name ∨ vouched machine name

theorem Backed.refl (vouched : String → String → Prop) (recorded : Dict String) :
    Backed vouched recorded recorded := fun _ _ h => .inl h

theorem Backed.trans {vouched : String → String → Prop} {recorded recorded' recorded'' : Dict String}
    (h : Backed vouched recorded recorded') (h' : Backed vouched recorded' recorded'') :
    Backed vouched recorded recorded'' := by
  intro machine name hfind
  rcases h' machine name hfind with hold | hvouched
  · exact h machine name hold
  · exact .inr hvouched

theorem Backed.mono {vouched vouched' : String → String → Prop} {recorded recorded' : Dict String}
    (h : Backed vouched recorded recorded')
    (hvouched : ∀ machine name, vouched machine name → vouched' machine name) :
    Backed vouched' recorded recorded' :=
  fun machine name hfind => (h machine name hfind).imp_right (hvouched machine name)

theorem Backed.insert {vouched : String → String → Prop} (h : vouched machine name) :
    Backed vouched recorded (recorded.insert machine name) := by
  intro other new hfind
  rw [Dict.find?_insert] at hfind
  split at hfind
  case isTrue heq =>
    obtain rfl := Option.some.inj hfind
    exact .inr (heq ▸ h)
  case isFalse => exact .inl hfind

/-- A pass over members of a set records only machines that are vouched for. -/
theorem runMembers_vouched (hset : set ∈ sets)
    (hlisted : ⟨.call (.listMarkers request.ns task.markerKind
        (settings.markerSelector request.marker)),
      (.ok markers : Except Failure (List Resource))⟩ ∈ journal)
    {members : List String} (hsub : members ⊆ MachineSet.members set) :
    Ensures (hearing (· ∈ journal))
      (runMembers settings request task markers fencing set members) recorded ()
      fun _ recorded' _ =>
        Backed (Vouched settings request task sets fencing journal) recorded recorded' := by
  induction members generalizing recorded with
  | nil => exact .refl _ recorded
  | cons machine rest ih =>
    rw [List.cons_subset] at hsub
    -- Without a name or an address the visit to the set ends here, and nobody is recorded.
    refine ensures_runMembers_cons (fun _ _ => .refl _ recorded) (fun _ _ => .refl _ recorded) ?_
    intro name address hname haddress
    refine (runMachine_finished hname (blank_notMem_fencedAddress haddress) recorded).mono ?_
    rintro (failure | finished) recorded' _ ⟨rfl, hfinished⟩
    · exact .refl _ _
    · cases finished with
      | false => exact .refl _ _
      | true =>
        obtain ⟨hmarker, hfinished⟩ := hfinished rfl
        have hvouched : Vouched settings request task sets fencing journal machine name := by
          refine ⟨hname, ⟨markers, hlisted, hmarker⟩, hfinished.running, set, hset, hsub.1, ?_⟩
          intro hfenced
          obtain ⟨a, rfl, ha⟩ := exists_fencedAddress hfenced haddress
          obtain ⟨output, hcommand, hdone⟩ := hfinished.joined a rfl
          exact ⟨a, output, ha, hcommand, hdone⟩
        have hinsert : Backed _ recorded' (recorded'.insert machine name) := .insert hvouched
        -- The visit goes on with the rest only if no cluster has to settle.
        cases address with
        | some a => exact hinsert
        | none => exact (ih hsub.2).mono fun _ _ _ hrest => hinsert.trans hrest

/-- A visit to the machines records only machines that are vouched for. -/
theorem runPass_vouched :
    Ensures (hearing (· ∈ journal)) (runPass settings request task sets fencing) recorded ()
      fun _ recorded' _ =>
        Backed (Vouched settings request task sets fencing journal) recorded recorded' := by
  refine ensures_runPass.2 ⟨trivial, fun answer _ hlisted => ?_⟩
  cases answer with
  | error failure => exact .refl _ recorded
  | ok markers =>
    refine Activity.ensures_mapM (fun (recorded' : Dict String) _ =>
      Backed (Vouched settings request task sets fencing journal) recorded recorded') ?_
      (.refl _ recorded)
    intro set hset recorded' _ hbacked
    refine ensures_runSet.2 ?_
    refine (runMembers_vouched hset hlisted fun _ h => (List.mem_filter.1 h).1).mono ?_
    exact fun _ _ _ hvisited => hbacked.trans hvisited

end Imaging

namespace Saga

variable {settings : Settings} {request given copy : Request} {journal start : List Exchange}
  {status : Request.Status}

/-- What a pass visits the machines for: to take the images of what it has listed, or to restore
those of the bundle that it has read. -/
inductive Occasion (request : Request) (journal : List Exchange) :
    Imaging.Request → Imaging.Task → List Resource → Bool → Prop
  | save {ns marker : String} {sets planes : List Resource} (hmode : request.spec.mode = .save)
    (hns : request.metadata.ns = some ns) (hmarker : request.marker? = some marker)
    (hsets : ⟨.call (.listManaged ns .vmSet), (.ok sets : Except Failure (List Resource))⟩ ∈ journal)
    (hplanes : ⟨.call (.listManaged ns .controlPlane),
      (.ok planes : Except Failure (List Resource))⟩ ∈ journal) :
    Occasion request journal { ns, name := request.anyName, marker } .save sets
      (isFencing planes.head?)
  | restore {ns marker : String} {bundle : Bundle} (hmode : request.spec.mode.isRestore = true)
    (hns : request.metadata.ns = some ns) (hmarker : request.marker? = some marker)
    (hbundle : ⟨.call (.getBundle ns (request.spec.restoreSource.getD "")),
      (.ok (some bundle) : Except Failure (Option Bundle))⟩ ∈ journal) :
    Occasion request journal { ns, name := request.anyName, marker }
      (.restore bundle.anyName bundle.content.snapshotNames)
      (bundle.content.objects ManagedKind.vmSet.name)
      (isFencing (bundle.content.objects ManagedKind.controlPlane.name).head?)

/-- A machine that a pass had reason to record with a snapshot, by what it has heard. -/
def Vouched (settings : Settings) (request : Request) (journal : List Exchange)
    (machine name : String) : Prop :=
  ∃ imaging task sets fencing, Occasion request journal imaging task sets fencing ∧
    Imaging.Vouched settings imaging task sets fencing journal machine name

/-- A copy asks for the same as another: only its version and its status may differ. -/
structure SameCall (a b : Request) : Prop where
  spec : a.spec = b.spec
  metadata : ({ a.metadata with resourceVersion := none } : Metadata) =
    { b.metadata with resourceVersion := none }

/-- What is collected comes from lists that were answered. -/
theorem listed_of_gives {ns : String} {listing : List Exchange} {inventory : Inventory}
    (h : Gives (collect settings ns) copy listing inventory) (kind : ManagedKind) :
    ⟨.call (.listManaged ns kind),
      (.ok (inventory.objects kind.name) : Except Failure (List Resource))⟩ ∈ listing := by
  have hlisted : Inventory.Listed (hearing (· ∈ listing)) ns settings.managedSelector (fun _ => True)
      (fun kind objects => ⟨.call (.listManaged ns kind),
        (.ok objects : Except Failure (List Resource))⟩ ∈ listing) (fun _ => True)
      fun _ => True :=
    ⟨fun _ _ _ _ => trivial, fun _ _ _ _ _ _ => trivial, fun _ _ _ _ _ hmem => hmem,
      fun _ _ _ _ _ => trivial, fun _ _ _ _ _ => trivial⟩
  obtain ⟨-, -, lists, cs, ss, hlists, -, -, rfl⟩ :=
    h.ends (Inventory.collect_ensures hlisted trivial) (Activity.path_hearing fun _ h => h)
  rw [Inventory.objects_gather]
  exact hlists kind

theorem SameCall.symm {a b : Request} (h : SameCall a b) : SameCall b a where
  spec := h.spec.symm
  metadata := h.metadata.symm

theorem SameCall.ns_eq {a b : Request} (h : SameCall a b) : a.metadata.ns = b.metadata.ns := by
  have hns := congrArg Metadata.ns h.metadata
  exact hns

/-- What two copies that ask for the same call their request, and mark what is made for it with. -/
theorem SameCall.marker?_eq {a b : Request} (h : SameCall a b) :
    a.marker? = b.marker? ∧ a.anyName = b.anyName := by
  have hname := congrArg Metadata.name h.metadata
  have hcreated := congrArg Metadata.creationTimestamp h.metadata
  have hanyName := congrArg Metadata.anyName h.metadata
  dsimp only at hname hcreated
  constructor
  · rw [Request.marker?, Request.marker?, hname, hcreated]
  · exact hanyName

theorem Occasion.of_sameCall {a b : Request} {imaging : Imaging.Request} {task : Imaging.Task}
    {sets : List Resource} {fencing : Bool} (h : Occasion a start imaging task sets fencing)
    (hsame : SameCall a b) (hsub : start ⊆ journal) :
    Occasion b journal imaging task sets fencing := by
  obtain ⟨hmarkers, hname⟩ := hsame.marker?_eq
  cases h with
  | save hmode hns hmarker hsets hplanes =>
    rw [hname]
    exact .save (hsame.spec ▸ hmode) (hsame.ns_eq ▸ hns) (hmarkers ▸ hmarker) (hsub hsets)
      (hsub hplanes)
  | restore hmode hns hmarker hbundle =>
    rw [hname]
    exact .restore (hsame.spec ▸ hmode) (hsame.ns_eq ▸ hns) (hmarkers ▸ hmarker)
      (hsame.spec ▸ hsub hbundle)

theorem Occasion.mono {imaging : Imaging.Request} {task : Imaging.Task} {sets : List Resource}
    {fencing : Bool} (h : Occasion request start imaging task sets fencing) (hsub : start ⊆ journal) :
    Occasion request journal imaging task sets fencing := h.of_sameCall ⟨rfl, rfl⟩ hsub

/-- What a machine is vouched for by is the same for all copies that ask for the same. -/
theorem Vouched.of_sameCall {a b : Request} {machine name : String}
    (h : Vouched settings a start machine name) (hsame : SameCall a b) (hsub : start ⊆ journal) :
    Vouched settings b journal machine name := by
  obtain ⟨imaging, task, sets, fencing, hoccasion, hvouched⟩ := h
  exact ⟨imaging, task, sets, fencing, hoccasion.of_sameCall hsame hsub, hvouched.mono hsub⟩

namespace Visited

variable {imaging : String → Imaging.Request} {task : Imaging.Task} {sets : List Resource}
  {fencing : Bool} {images : List Exchange} {pending : List String} {recorded : Dict String}

/-- Whether or not the machines are visited, what was recorded stays. If they are, each of them is
recorded or pending afterwards. -/
theorem accounts (h : Visited copy (fun marker => Activity.within copy.currentStatus.snapshotNames
      (Imaging.runPass settings (imaging marker) task sets fencing)) images pending recorded) :
    (∀ machine name, copy.currentStatus.snapshotNames.find? machine = some name →
      recorded.find? machine = some name) ∧
    (copy.spec.includeImages = true → ∀ machine ∈ sets.flatMap MachineSet.members,
      machine ∈ pending ∨ recorded.contains machine = true) := by
  cases h with
  | unneeded himages =>
    refine ⟨fun _ _ h => h, fun hincluded => ?_⟩
    rw [himages] at hincluded
    cases hincluded
  | @images marker _ _ _ _ _ hvisit =>
    have hsub : ∀ set ∈ sets, MachineSet.members set ⊆ sets.flatMap MachineSet.members :=
      fun set hset machine hmachine => List.mem_flatMap.2 ⟨set, hset, hmachine⟩
    have haccounts : Imaging.Accounts (imaging marker) task (sets.flatMap MachineSet.members)
        copy.currentStatus.snapshotNames (.ok pending) recorded () :=
      (Imaging.runPass_accounts hsub).ends (Activity.gives_within.1 hvisit) (Activity.path_only _ _)
    exact ⟨haccounts.1.kept, fun _ => haccounts.2⟩

/-- A visit to the machines records only machines that are vouched for. -/
theorem vouched (h : Visited copy (fun marker => Activity.within copy.currentStatus.snapshotNames
      (Imaging.runPass settings (imaging marker) task sets fencing)) images pending recorded)
    (hoccasion : ∀ marker, requestMarker copy = .ok marker →
      Occasion copy journal (imaging marker) task sets fencing) (hsub : images ⊆ journal) :
    Imaging.Backed (Vouched settings copy journal) copy.currentStatus.snapshotNames recorded := by
  cases h with
  | unneeded => exact .refl _ _
  | @images marker _ _ _ _ hmarker hvisit =>
    have hbacked : Imaging.Backed
        (Imaging.Vouched settings (imaging marker) task sets fencing images)
        copy.currentStatus.snapshotNames recorded :=
      Imaging.runPass_vouched.ends (Activity.gives_within.1 hvisit)
        (Activity.path_hearing fun _ hmem => hmem)
    intro machine name hfind
    rcases hbacked machine name hfind with hold | hvouched
    · exact .inl hold
    · exact .inr ⟨_, _, _, _, hoccasion marker hmarker, hvouched.mono hsub⟩

end Visited

/-- A status that is written records whom the copy in hand records. -/
theorem Grounds.kept (h : Grounds settings given copy start status) {machine name : String}
    (hfind : copy.currentStatus.snapshotNames.find? machine = some name) :
    status.snapshotNames.find? machine = some name := by
  cases h with
  | wait _ _ _ _ himages _ => exact himages.accounts.1 machine name hfind
  | save _ _ _ _ _ himages _ => exact himages.accounts.1 machine name hfind
  | load _ _ _ himages => exact himages.accounts.1 machine name hfind
  | _ => exact hfind

/-- What a save visits the machines for. -/
theorem occasion_save {ns marker : String} {listing : List Exchange} {inventory : Inventory}
    (hmode : copy.spec.mode = .save) (hns : requestNamespace copy = .ok ns)
    (hmarker : requestMarker copy = .ok marker)
    (hcollect : Gives (collect settings ns) copy listing inventory) :
    Occasion copy listing { ns, name := copy.anyName, marker } .save inventory.vmSets
      (isFencing inventory.controlPlane) :=
  .save hmode (requestNamespace_eq_ok.1 hns) (marker?_of_requestMarker hmarker)
    (listed_of_gives hcollect .vmSet) (listed_of_gives hcollect .controlPlane)

/-- What a restore visits the machines for. -/
theorem occasion_restore {ns marker : String} {bundle : Bundle} (hsame : SameCall given copy)
    (hfound : Found given ns bundle start) (hmarker : requestMarker copy = .ok marker) :
    Occasion copy start { ns, name := copy.anyName, marker }
      (.restore bundle.anyName bundle.content.snapshotNames)
      (bundle.content.objects ManagedKind.vmSet.name)
      (isFencing (bundle.content.objects ManagedKind.controlPlane.name).head?) := by
  have hns : copy.metadata.ns = some ns := hsame.ns_eq ▸ requestNamespace_eq_ok.1 hfound.ns_eq
  refine .restore (hsame.spec ▸ hfound.restores) hns (marker?_of_requestMarker hmarker) ?_
  exact hsame.spec ▸ hfound.mem

/-- A status that is written records, apart from whom the copy in hand records, only machines that
are vouched for. -/
theorem Grounds.vouched (h : Grounds settings given copy start status) (hsame : SameCall given copy) :
    Imaging.Backed (Vouched settings copy start) copy.currentStatus.snapshotNames
      status.snapshotNames := by
  -- Only the writes after a visit to the machines change the record at all.
  cases h with
  | wait hmode _ hns hcollect himages _ =>
    refine himages.vouched (fun marker hmarker => ?_) (by simp)
    exact (occasion_save (hsame.spec ▸ hmode) hns hmarker hcollect).mono (by simp)
  | save hmode _ hns _ hcollect himages _ =>
    refine himages.vouched (fun marker hmarker => ?_) fun exchange hexchange => by simp [hexchange]
    exact (occasion_save (hsame.spec ▸ hmode) hns hmarker hcollect).mono (by simp)
  | load _ hfound _ himages =>
    refine himages.vouched (fun marker hmarker => ?_) (by simp)
    exact (occasion_restore hsame hfound hmarker).mono (by simp)
  | _ => exact .refl _ _

end Saga

end NamespaceBackup
