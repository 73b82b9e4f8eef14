import NamespaceBackup.Proofs.Collect
import NamespaceBackup.Proofs.Runs
import NamespaceBackup.Proofs.Saving

/-!
# Restores that find every snapshot and every kind

A restore with images fails for good if a machine of a saved set has no snapshot in the bundle, and
a clean restore does if an object to be deleted is of no managed kind. The wording of these failures
is used of nothing else. From a bundle that covers its machines no restore fails in the first way,
and in the second way no restore fails at all, since only objects of managed kinds are collected.

## Main definitions

* `Failure.Peculiar`: failures in the wording of those two
* `Imaging.IsMissing`, `Saga.IsUnknown`: the failures that a machine has no snapshot, and that an
  object is of no managed kind
* `Saga.Hears`: passes over one saved content

## Main results

* `Imaging.runPass_spares`: a visit to machines that have snapshots
* `Saga.reconcile_spares`: a pass of a restore from a bundle that covers its machines
* `Saga.reconcile_knows_kinds`: any pass of a restore
-/

namespace NamespaceBackup

open Activity (Spared Spares)

/-- Failures over an invalid state in the wording that is used where a snapshot or a kind is not
known. No other failure that a restore comes up with is worded in this way. -/
def Failure.Peculiar (bad : Failure → Prop) : Prop :=
  ∀ failure, bad failure → ∃ text, failure = .invalidState text ∧
    (text.toList.head? = some 'n' ∨ text.toList.head? = some 'u')

/-- Failures in such a wording with which no call is answered. -/
structure Activity.Unheard (hears : Exchange → Prop) (bad : Failure → Prop) : Prop where
  spared : Spared hears bad
  peculiar : Failure.Peculiar bad

open Activity (Unheard)

variable {σ : Type} {hears : Exchange → Prop} {bad : Failure → Prop} {settings : Settings}

namespace Failure.Peculiar

variable {failure : Failure}

theorem not_invalidState (h : Peculiar bad) {text : String}
    (hn : text.toList.head? ≠ some 'n') (hu : text.toList.head? ≠ some 'u') :
    ¬ bad (.invalidState text) := by
  intro hbad
  obtain ⟨_, ⟨⟩, hhead⟩ := h _ hbad
  exact hhead.elim hn hu

theorem not_of_ne (h : Peculiar bad) (hne : ∀ text, failure ≠ .invalidState text) :
    ¬ bad failure := by
  intro hbad
  obtain ⟨text, heq, -⟩ := h _ hbad
  exact hne text heq

theorem not_address (h : Peculiar bad) {set : Resource} {machine network : String}
    (haddress : MachineSet.address set machine network = .error failure) : ¬ bad failure := by
  rw [MachineSet.address] at haddress
  split at haddress
  · cases haddress
    exact h.not_invalidState (by simp) (by simp)
  · split at haddress
    · cases haddress
    · cases haddress
      exact h.not_invalidState (by simp) (by simp)

theorem not_fencedAddress (h : Peculiar bad) {fencing : Bool} {set : Resource} {machine : String}
    (haddress : Imaging.fencedAddress settings fencing set machine = .error failure) :
    ¬ bad failure := by
  rw [Imaging.fencedAddress] at haddress
  split at haddress
  · cases hfound : MachineSet.address set machine settings.haNetwork with
    | ok address => simp [hfound, Except.map] at haddress
    | error failure' =>
      rw [hfound] at haddress
      cases haddress
      exact h.not_address hfound
  · cases haddress

theorem not_conclude (h : Peculiar bad) {output : CommandOutput}
    (hconclude : Membership.conclude output = .error failure) : ¬ bad failure := by
  rw [Membership.conclude, Membership.classify] at hconclude
  split at hconclude
  · cases hconclude
  · split at hconclude
    · cases hconclude
    · split at hconclude
      · cases hconclude
      · cases hconclude
        exact h.not_of_ne nofun

end Failure.Peculiar

namespace Imaging

/-- The failure that a machine has no snapshot in the bundle. -/
def IsMissing (failure : Failure) : Prop :=
  ∃ text, failure = .invalidState ("no snapshot for VM " ++ text)

theorem peculiar_isMissing : Failure.Peculiar IsMissing := by
  rintro _ ⟨text, rfl⟩
  exact ⟨_, rfl, .inl (by simp)⟩

/-- The snapshot of a machine is not missing from a bundle in a bad way. -/
def Names (bad : Failure → Prop) (names : Dict String) (machine : String) : Prop :=
  ∀ request bundle failure, snapshotName request (.restore bundle names) machine = .error failure →
    ¬ bad failure

theorem Names.of_contains {machine : String} {names : Dict String}
    (h : names.contains machine = true) : Names bad names machine := by
  intro request bundle failure hfailure
  obtain ⟨name, hname⟩ := Option.isSome_iff_exists.1 h
  simp [snapshotName, hname] at hfailure

variable {request : Request} {task : Task} {machine name bundle : String} {names : Dict String}
  {address : Option String} {markers : List Resource} {fencing : Bool}

theorem apply_spares (h : Unheard hears bad) (ns address : String)
    (change : Membership.Change) (node : String) :
    Spares hears bad
      (Membership.apply settings ns address change node : Activity σ Bool) :=
  .bind (.call h.spared _) fun _ => .ofExcept fun _ => h.peculiar.not_conclude

theorem finishMachine_spares (h : Unheard hears bad) (markerReady : Bool) :
    Spares hears bad
      (finishMachine settings request machine markerReady address : Activity σ Bool) := by
  cases markerReady with
  | false => exact .pure _
  | true =>
    refine .bind (.call h.spared _) fun object => ?_
    cases object with
    | none => exact .pure _
    | some object =>
      dsimp only
      split
      · exact .bind (.call h.spared _) fun _ => .pure _
      · split
        · exact .pure _
        · cases address with
          | none => exact .pure _
          | some a => exact apply_spares h _ _ _ _

theorem createMarker_spares (h : Unheard hears bad) (marker : Resource) :
    Spares hears bad (createMarker request task marker : Activity σ Unit) := by
  refine .outcome_bind (.call h.spared _) fun outcome houtcome => ?_
  rcases outcome with failure | _
  · dsimp only
    split
    · exact .pure _
    · exact .throw (houtcome failure rfl)
  · exact .pure _

theorem shutMachine_spares (h : Unheard hears bad) :
    Spares hears bad
      (shutMachine settings request task machine name : Activity σ Unit) := by
  refine .bind (.call h.spared _) fun object => ?_
  cases object with
  | none => exact .pure _
  | some object =>
    dsimp only
    split
    · exact .bind (.call h.spared _) fun _ => createMarker_spares h _
    · exact createMarker_spares h _

theorem startMachine_spares (h : Unheard hears bad) :
    Spares hears bad
      (startMachine settings request task machine name address : Activity σ Unit) := by
  cases address with
  | none => exact shutMachine_spares h
  | some a =>
    rw [startMachine_some]
    refine .bind (apply_spares h _ _ _ _) fun stopped => ?_
    cases stopped with
    | false => exact .pure _
    | true => exact shutMachine_spares h

theorem runMachine_spares (h : Unheard hears bad) :
    Spares hears bad
      (runMachine settings request task markers machine name address : Activity σ Bool) := by
  rw [runMachine]
  split
  · exact finishMachine_spares h _
  · exact .bind (startMachine_spares h) fun _ => .pure _

/-- Members that all have snapshots. -/
theorem runMembers_spares (h : Unheard hears bad) {set : Resource} {members : List String}
    (hmembers : ∀ machine ∈ members, Names bad names machine) :
    Spares hears bad
      (runMembers settings request (.restore bundle names) markers fencing set members) := by
  induction members with
  | nil => exact .pure _
  | cons machine rest ih =>
    rw [runMembers]
    refine .ofExcept_bind (hmembers machine (by simp) request bundle) fun name _ => ?_
    refine .ofExcept_bind (fun _ => h.peculiar.not_fencedAddress) fun address _ => ?_
    refine .bind (runMachine_spares h) fun finished => ?_
    split
    · exact .pure _
    · refine .bind (.modify _) fun _ => ?_
      split
      · exact .pure _
      · exact ih fun other hother => hmembers other (by simp [hother])

/-- A visit to machines that all have snapshots. -/
theorem runPass_spares (h : Unheard hears bad) {sets : List Resource}
    (hsets : ∀ set ∈ sets, ∀ machine ∈ MachineSet.members set, Names bad names machine) :
    Spares hears bad (runPass settings request (.restore bundle names) sets fencing) := by
  refine .bind (.call h.spared _) fun markers => .bind (.mapM fun set hset => ?_) fun _ => .pure _
  refine .bind .get fun recorded => runMembers_spares h fun machine hmachine => ?_
  exact hsets set hset machine (List.mem_filter.1 hmachine).1

end Imaging

open Imaging (IsMissing Names)

namespace Inventory

theorem tolerate_spares {deletion : Activity σ Unit} (h : Spares hears bad deletion) :
    Spares hears bad (tolerate deletion) := by
  refine .outcome_bind h fun outcome houtcome => ?_
  rcases outcome with failure | _
  · dsimp only
    split
    · exact .pure _
    · exact .throw (houtcome failure rfl)
  · exact .pure _

/-- Clearing fails only as one of its calls does, if all kinds are known. -/
theorem clear_spares (h : Spared hears bad) (ns : String) {inventory : Inventory}
    (hkinds : inventory.KnowsKinds) :
    Spares hears bad (inventory.clear ns : Activity σ Bool) := by
  rw [clear]
  split
  · exact .pure _
  · refine .bind (.forM fun entry hentry => ?_) fun _ => .bind (.forM fun m _ => ?_) fun _ =>
      .bind (.forM fun s _ => ?_) fun _ => .pure _
    · obtain ⟨kind, hkind⟩ := hkinds entry hentry
      dsimp only
      rw [clearKind, hkind]
      exact .forM fun object _ => tolerate_spares (.call h _)
    · exact tolerate_spares (.call h _)
    · exact tolerate_spares (.call h _)

end Inventory

namespace Saga

/-- What a restore from some saved content hears: bundles have this content, and no call fails
because a machine has no snapshot. -/
structure Hears (content : Bundle.Content) (exchange : Exchange) : Prop where
  bundle : ∀ ns name (bundle : Bundle), exchange =
    ⟨.call (.getBundle ns name), (.ok (some bundle) : Except Failure (Option Bundle))⟩ →
    bundle.content = content
  failure : ∀ (c : Call) failure,
    exchange = ⟨.call c, (.error failure : Except Failure c.Answer)⟩ → ¬ IsMissing failure

variable {content : Bundle.Content} {ns : String} {bundle : Bundle}

theorem unheard_isMissing (content : Bundle.Content) : Unheard (Hears content) IsMissing where
  spared c failure h := h.failure c failure rfl
  peculiar := Imaging.peculiar_isMissing

/-- In a restore from some saved content, no snapshot is missing in a bad way. -/
def Complete (bad : Failure → Prop) (content : Bundle.Content) : Prop :=
  ∀ set ∈ content.objects ManagedKind.vmSet.name, ∀ machine ∈ MachineSet.members set,
    Names bad content.snapshotNames machine

/-- No call is answered with a failure of a sort. -/
def Unanswered (bad : Failure → Prop) (exchange : Exchange) : Prop :=
  ∀ (c : Call) failure, exchange = ⟨.call c, (.error failure : Except Failure c.Answer)⟩ →
    ¬ bad failure

/-- The bundles that are found have all snapshots. -/
def FindsComplete (hears : Exchange → Prop) (bad : Failure → Prop) : Prop :=
  ∀ ns name (bundle : Bundle), hears ⟨.call (.getBundle ns name),
    (.ok (some bundle) : Except Failure (Option Bundle))⟩ → Complete bad bundle.content

theorem writeStatus_spares (h : Unheard hears bad) (status : Request.Status)
    (message : String) : Spares hears bad (writeStatus status message) := by
  refine .bind .get fun request => .bind .now fun now => ?_
  dsimp only
  split
  · exact .pure _
  · exact .bind (.call h.spared _) fun stored => .set stored

theorem transition_spares (h : Unheard hears bad) (state : State) (message : String) :
    Spares hears bad (transition state message) :=
  .bind .get fun _ => writeStatus_spares h _ _

theorem sourceBundle_bind_spares {α : Type} (h : Unheard hears bad)
    (hfinds : FindsComplete hears bad) {f : Bundle → Pass α}
    (hf : ∀ bundle, Complete bad bundle.content → Spares hears bad (f bundle)) :
    Spares hears bad (sourceBundle ns >>= f) := by
  intro request
  refine Activity.ensures_bind.2 ?_
  rw [sourceBundle, Activity.ensures_bind, Activity.ensures_get, Activity.then_ok]
  dsimp only
  cases request.spec.fault? with
  | some fault =>
    rintro _ ⟨⟩
    exact h.peculiar.not_of_ne (by simp)
  | none =>
    refine Activity.ensures_bind.2 ⟨trivial, ?_⟩
    intro (answer : Except Failure (Option Bundle)) _ hhears
    rcases answer with failure | (_ | bundle)
    · rintro _ ⟨⟩
      exact h.spared _ failure hhears
    · rintro _ ⟨⟩
      exact h.peculiar.not_of_ne (by simp)
    · exact hf bundle (hfinds _ _ bundle hhears) request

theorem loadObjects_spares (h : Unheard hears bad) (ns reason : String)
    (content : Bundle.Content) :
    Spares hears bad (loadObjects ns reason content : Activity σ Unit) := by
  refine .bind (.forM fun kind _ => .forM fun saved _ => ?_) fun _ =>
    .bind (.forM fun m _ => .call h.spared _) fun _ => .forM fun s _ => .call h.spared _
  refine .bind (.call h.spared _) fun _ => ?_
  split
  · exact .call h.spared _
  · exact .pure _

theorem clean_spares (h : Unheard hears bad) :
    Spares hears bad (clean settings ns) := by
  refine .bind_known (Inventory.collect_spares h.spared _ _)
    (fun s => Inventory.collect_knowsKinds fun _ _ _ => trivial) fun inventory hkinds => ?_
  refine .bind (Inventory.clear_spares h.spared _ hkinds) fun cleared => ?_
  split <;> exact transition_spares h _ _

theorem load_spares (h : Unheard hears bad) (hcomplete : Complete bad bundle.content) :
    Spares hears bad (load settings ns bundle) := by
  refine .bind .get fun request => .bind (loadObjects_spares h _ _ _) fun _ => ?_
  dsimp only
  split
  · refine .ofExcept_bind (fun failure hfailure => ?_) fun marker _ => ?_
    · rw [requestMarker] at hfailure
      split at hfailure
      · cases hfailure
      · cases hfailure
        exact h.peculiar.not_invalidState (by simp) (by simp)
    · refine .bind (.within (Imaging.runPass_spares h hcomplete)) fun visited => ?_
      obtain ⟨pending, recorded⟩ := visited
      dsimp only
      split <;> exact writeStatus_spares h _ _
  · exact writeStatus_spares h _ _

theorem awaitRestored_spares (h : Unheard hears bad) :
    Spares hears bad (awaitRestored settings ns bundle) := by
  refine .bind (Inventory.collect_spares h.spared _ _) fun inventory => ?_
  dsimp only
  split
  · exact .bind .get fun request => .bind .now fun now => writeStatus_spares h _ _
  · exact transition_spares h _ _

theorem restorePhase_spares (h : Unheard hears bad) (hcomplete : Complete bad bundle.content) :
    Spares hears bad (restorePhase settings ns bundle) := by
  refine .bind .get fun request => ?_
  split
  · exact clean_spares h
  · exact load_spares h hcomplete
  · exact awaitRestored_spares h
  · exact .throw (h.peculiar.not_invalidState (by simp) (by simp))

theorem restoreFrom_spares (h : Unheard hears bad) (hcomplete : Complete bad bundle.content) :
    Spares hears bad (restoreFrom settings ns bundle) := by
  refine .bind .get fun request => ?_
  dsimp only
  split
  · split <;> exact .bind (transition_spares h _ _) fun _ => restorePhase_spares h hcomplete
  · exact restorePhase_spares h hcomplete

theorem pass_spares (h : Unheard hears bad) (hfinds : FindsComplete hears bad) {mode : Mode}
    (hmode : mode.isRestore = true) : Spares hears bad (pass settings mode) := by
  have hpass : Spares hears bad (restorePass settings) := by
    intro request
    refine ensures_restorePass.2 (Spares.ofExcept_bind (fun failure hfailure => ?_)
      (fun ns _ => sourceBundle_bind_spares h hfinds fun bundle hcomplete => ?_) request)
    · rw [requestNamespace] at hfailure
      split at hfailure
      · cases hfailure
      · cases hfailure
        exact h.peculiar.not_invalidState (by simp) (by simp)
    · exact restoreFrom_spares h hcomplete
  cases mode with
  | save => cases hmode
  | restore => exact hpass
  | cleanRestore => exact hpass

/-- If no call is answered in a bad way and no snapshot is missing in one, no pass of a restore
fails in that way, whatever state it is in. -/
theorem restore_spares (h : Unheard hears bad) (hfinds : FindsComplete hears bad)
    {request : Request} (hmode : request.spec.mode.isRestore = true) {transcript : List Exchange}
    {outcome : Except Failure Action × Request}
    (hyields : Dialogue.Yields (reconcile settings request) transcript outcome)
    (hhears : ∀ exchange ∈ transcript, hears exchange) :
    ∀ failure, outcome.1 = .error failure → ¬ bad failure := by
  have hensures : Activity.Ensures (Activity.hearing hears) (reconcile settings) request
      () fun outcome _ _ => ∀ failure, outcome = .error failure → ¬ bad failure := by
    rw [reconcile, Activity.ensures_bind, Activity.ensures_get, Activity.then_ok]
    dsimp only
    split
    · rintro _ ⟨⟩
    · refine Spares.outcome_bind (pass_spares h hfinds hmode) (fun outcome houtcome => ?_) request
      rcases outcome with failure | _
      · dsimp only
        split
        · exact .pure _
        · -- The error state is written first; then the failure is handed on.
          refine .outcome_bind (transition_spares h _ _) fun _ _ => ?_
          exact .throw (houtcome failure rfl)
      · refine .bind .get fun request => ?_
        split <;> exact .pure _
  exact hensures.ends hyields (Activity.path_hearing hhears)

/-- A pass of a restore from a bundle that covers its machines, whatever state it is in. -/
theorem reconcile_spares (hcovers : content.Covers) {request : Request}
    (hmode : request.spec.mode.isRestore = true) {transcript : List Exchange}
    {outcome : Except Failure Action × Request}
    (hyields : Dialogue.Yields (reconcile settings request) transcript outcome)
    (hhears : ∀ exchange ∈ transcript, Hears content exchange) :
    ∀ failure, outcome.1 = .error failure → ¬ IsMissing failure := by
  refine restore_spares (unheard_isMissing content) ?_ hmode hyields hhears
  intro ns name bundle hbundle set hset machine hmachine
  rw [hbundle.bundle ns name bundle rfl] at hset ⊢
  exact .of_contains (hcovers set hset machine hmachine)

/-- The failure that an object is of no managed kind. -/
def IsUnknown (kindName : String) (failure : Failure) : Prop :=
  failure = .invalidState ("unknown managed kind " ++ kindName)

theorem unheard_isUnknown (kindName : String) :
    Unheard (Unanswered (IsUnknown kindName)) (IsUnknown kindName) where
  spared c failure h := h c failure rfl
  peculiar := by
    rintro _ rfl
    exact ⟨_, rfl, .inr (by simp)⟩

/-- A snapshot that is missing is described in other words than a kind that is not known. -/
theorem findsComplete_isUnknown (hears : Exchange → Prop) (kindName : String) :
    FindsComplete hears (IsUnknown kindName) := by
  rintro ns name bundle - set - machine - request bundleName failure hfailure rfl
  rw [Imaging.snapshotName] at hfailure
  split at hfailure
  · cases hfailure
  · have htext := Failure.invalidState.inj (Except.error.inj hfailure)
    simpa using congrArg (·.toList.head?) htext

/-- A pass of a restore fails because an object is of no managed kind only if a call is answered so:
only objects of managed kinds are collected. -/
theorem reconcile_knows_kinds {request : Request} (hmode : request.spec.mode.isRestore = true)
    {transcript : List Exchange} {outcome : Except Failure Action × Request}
    (hyields : Dialogue.Yields (reconcile settings request) transcript outcome) (kindName : String)
    (hunknown : outcome.1 = .error (.invalidState ("unknown managed kind " ++ kindName))) :
    ∃ c : Call, ⟨.call c, (.error (.invalidState ("unknown managed kind " ++ kindName)) :
      Except Failure c.Answer)⟩ ∈ transcript := by
  by_contra hnever
  refine restore_spares (unheard_isUnknown kindName) (findsComplete_isUnknown _ kindName) hmode
    hyields (fun exchange hmem c failure heq => ?_) _ hunknown rfl
  rintro rfl
  exact hnever ⟨c, heq ▸ hmem⟩

end Saga

end NamespaceBackup
