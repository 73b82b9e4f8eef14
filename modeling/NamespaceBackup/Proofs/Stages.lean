import Mathlib.Algebra.GroupWithZero.Nat
import Mathlib.Algebra.Order.BigOperators.Group.List
import Mathlib.Algebra.Order.Group.Nat
import Mathlib.Data.List.Nodup
import NamespaceBackup.Proofs.Obliging
import NamespaceBackup.Proofs.Visiting

/-!
# How far the machines have come

Each machine whose image is handled comes through the same stages: it has no marker, it has one, it
is powered on again, it is recorded. Without trouble, a visit takes the first machine of each set that
is not recorded yet at least one stage further, and none back. So the stages that are left to all
members of a set are fewer after every visit, until there are none.

## Main definitions

* `Imaging.phase`, `Imaging.stage`: how far a machine has come
* `Imaging.left`: the stages that are left to some machines
* `Imaging.Handled`: what a visit to some machines may change
* `Imaging.Smooth`: what a visit without trouble finds

## Main results

* `Imaging.runMachine_advances`: a machine that is not finished comes a phase further
* `Imaging.runPass_advances`: every set has fewer stages left after a visit
-/

namespace NamespaceBackup

open Activity (Ensures)
open Cluster (obliging)

theorem Dict.mem_values_iff {α : Type} {dict : Dict α} {value : α} :
    value ∈ dict.values ↔ ∃ name, dict.find? name = some value := by
  simp only [values, List.mem_map, Prod.exists, mem_entries_iff, exists_eq_right]

/-- Who was powered on is kept running. -/
theorem Machine.isKeptRunning_powerOn (machine : Resource) :
    isKeptRunning (machine.patched powerOn) = true := by
  have hstrategy : (machine.patched powerOn).at? ["spec", "runStrategy"] =
      (((machine.fields.find? "spec").getD .null).merge
        (.object [("running", .null), ("runStrategy", .str rerunOnFailure)])).field?
          "runStrategy" := by
    rw [Resource.at?_cons, powerOn, Json.object,
      Resource.find?_patched machine (Dict.ofList _).ascending "spec"]
    exact Option.bind_fun_some _
  rw [isKeptRunning, hstrategy, Json.object, Json.field?_merge _ (Dict.ofList _).ascending]
  rfl

@[simp] theorem Space.markers_withMarkers (space : Space) (kind : MarkerKind)
    (markers : Dict Resource) : (space.withMarkers kind markers).markers kind = markers := by
  cases kind <;> rfl

theorem Space.Agree.markers_eq {a b : Space} (h : Space.Agree .markers a b) (kind : MarkerKind) :
    a.markers kind = b.markers kind := by
  cases kind with
  | snapshot => exact h.1
  | restore => exact h.2

namespace Imaging

variable {settings : Settings} {request : Request} {task : Task} {machine other name : String}
  {machines machines' : List String} {start before after later : Space} {recorded : Dict String}

/-! ## The marker of a machine -/

/-- The name under which the marker of a machine is made. -/
def markerName (request : Request) (machine : String) : String := machine ++ "-" ++ request.marker

theorem markerName_injective (h : markerName request machine = markerName request other) :
    machine = other := by
  rw [markerName, markerName, String.append_assoc, String.append_assoc] at h
  exact String.append_left_inj _ |>.1 h

theorem anyName_buildMarker (h : snapshotName request task machine = .ok name) :
    (buildMarker settings request task machine name).anyName = markerName request machine := by
  cases task with
  | save => exact (Except.ok.inj h).symm
  | restore => rfl

theorem isFor_buildMarker (h : snapshotName request task machine = .ok name) :
    task.markerKind.isFor (buildMarker settings request task machine name) name = true := by
  cases task with
  | save => simp [Task.markerKind, MarkerKind.isFor, buildMarker, Resource.anyName, Metadata.anyName]
  | restore =>
    simp [Task.markerKind, MarkerKind.isFor, buildMarker, Resource.at?_cons, Json.at?_cons,
      Dict.ofList]

/-- The markers of a request that a visit lists. -/
def listed (settings : Settings) (request : Request) (task : Task) (space : Space) :
    List Resource :=
  (space.markers task.markerKind).values.filter
    (Selector.selects (settings.markerSelector request.marker) ·.metadata)

theorem mem_listed_iff {marker : Resource} {space : Space} :
    marker ∈ listed settings request task space ↔
      (∃ name, (space.markers task.markerKind).find? name = some marker) ∧
        Selector.selects (settings.markerSelector request.marker) marker.metadata = true := by
  rw [listed, List.mem_filter, Dict.mem_values_iff]

theorem listed_congr (h : Space.Agree .markers after before) :
    listed settings request task after = listed settings request task before := by
  rw [listed, listed, h.markers_eq]

/-! ## Phases -/

/-- How far a machine has come in a namespace: it has no marker, it has one, or it is kept running
again besides. -/
def phase (settings : Settings) (request : Request) (task : Task) (space : Space)
    (machine : String) : Nat :=
  match snapshotName request task machine with
  | .error _ => 0
  | .ok name =>
    if (listed settings request task space).any (task.markerKind.isFor · name) then
      if (space.machines.find? machine).any Machine.isKeptRunning then 2 else 1
    else 0

/-- How far a machine has come, with the machines that are recorded. -/
def stage (settings : Settings) (request : Request) (task : Task) (recorded : Dict String)
    (space : Space) (machine : String) : Nat :=
  if recorded.contains machine then 3 else phase settings request task space machine

/-- The stages that are left to some machines. -/
def left (settings : Settings) (request : Request) (task : Task) (recorded : Dict String)
    (space : Space) (machines : List String) : Nat :=
  (machines.map fun machine => 3 - stage settings request task recorded space machine).sum

theorem phase_le (settings : Settings) (request : Request) (task : Task) (space : Space)
    (machine : String) : phase settings request task space machine ≤ 2 := by
  rw [phase]
  split
  · omega
  · split
    · split <;> omega
    · omega

theorem stage_le (settings : Settings) (request : Request) (task : Task) (recorded : Dict String)
    (space : Space) (machine : String) :
    stage settings request task recorded space machine ≤ 3 := by
  have hphase := phase_le settings request task space machine
  rw [stage]
  split <;> omega

section Left

variable {recorded' : Dict String} {members : List String}

theorem stage_mono (hrecorded : recorded'.find? machine = recorded.find? machine)
    (hphase : phase settings request task before machine ≤
      phase settings request task after machine) :
    stage settings request task recorded before machine ≤
      stage settings request task recorded' after machine := by
  rw [stage, stage, Dict.contains, Dict.contains, hrecorded]
  split
  · exact le_rfl
  · exact hphase

theorem left_le_left (h : ∀ machine ∈ members, stage settings request task recorded before machine ≤
    stage settings request task recorded' after machine) :
    left settings request task recorded' after members ≤
      left settings request task recorded before members :=
  List.sum_le_sum fun machine hmachine => Nat.sub_le_sub_left (h machine hmachine) 3

theorem left_lt_left (h : ∀ machine ∈ members, stage settings request task recorded before machine ≤
    stage settings request task recorded' after machine)
    (hlt : ∃ machine ∈ members, stage settings request task recorded before machine <
      stage settings request task recorded' after machine) :
    left settings request task recorded' after members <
      left settings request task recorded before members := by
  obtain ⟨machine, hmachine, hmore⟩ := hlt
  have hle := stage_le settings request task recorded' after machine
  refine List.sum_lt_sum _ _ (fun other hother => Nat.sub_le_sub_left (h other hother) 3)
    ⟨machine, hmachine, ?_⟩
  omega

theorem left_congr (hmachines : Space.Agree .machines after before)
    (hmarkers : Space.Agree .markers after before) (recorded : Dict String) (members : List String) :
    left settings request task recorded after members =
      left settings request task recorded before members := by
  simp only [left, stage, phase, listed_congr hmarkers,
    show after.machines = before.machines from hmachines]

/-- To each member at most three stages are left. -/
theorem left_le_three (settings : Settings) (request : Request) (task : Task)
    (recorded : Dict String) (space : Space) (members : List String) :
    left settings request task recorded space members ≤ 3 * members.length := by
  have hle : left settings request task recorded space members ≤ (members.map fun _ => 3).sum :=
    List.sum_le_sum fun _ _ => Nat.sub_le _ _
  simpa [mul_comm] using hle

/-- Something is left to a set as long as one of its members is not recorded. -/
theorem left_pos (hmachine : machine ∈ members) (hrecorded : recorded.contains machine = false)
    (settings : Settings) (request : Request) (task : Task) (space : Space) :
    0 < left settings request task recorded space members := by
  have hphase := phase_le settings request task space machine
  have hstage : 0 < 3 - stage settings request task recorded space machine := by
    rw [stage, if_neg (by simp [hrecorded])]
    omega
  exact hstage.trans_le (List.single_le_sum (fun _ _ => Nat.zero_le _) _
    (List.mem_map_of_mem hmachine))

end Left

/-- A machine is no further back where its marker and its running are kept. -/
theorem phase_mono
    (hmarkers : ∀ marker ∈ listed settings request task before,
      ∃ marker' ∈ listed settings request task after, ∀ name,
        task.markerKind.isFor marker name = true → task.markerKind.isFor marker' name = true)
    (hkept : (before.machines.find? machine).any Machine.isKeptRunning = true →
      (after.machines.find? machine).any Machine.isKeptRunning = true) :
    phase settings request task before machine ≤ phase settings request task after machine := by
  rw [phase, phase]
  split
  case h_1 => exact Nat.le_refl 0
  case h_2 name _ =>
    split
    case isFalse => exact Nat.zero_le _
    case isTrue hmarked =>
      obtain ⟨marker, hmarker, hfor⟩ := List.any_eq_true.1 hmarked
      obtain ⟨marker', hmarker', hfor'⟩ := hmarkers marker hmarker
      rw [if_pos (List.any_eq_true.2 ⟨marker', hmarker', hfor' name hfor⟩)]
      by_cases hrunning : (before.machines.find? machine).any Machine.isKeptRunning = true
      · rw [if_pos hrunning, if_pos (hkept hrunning)]
      · rw [if_neg hrunning]
        split <;> omega

section Phase

variable {space : Space} {marker : Resource}

/-- A machine that has a marker is past the first phase. -/
theorem phase_pos (hname : snapshotName request task machine = .ok name)
    (hmarker : marker ∈ listed settings request task space)
    (hfor : task.markerKind.isFor marker name = true) :
    0 < phase settings request task space machine := by
  have hmarked : (listed settings request task space).any (task.markerKind.isFor · name) = true :=
    List.any_eq_true.2 ⟨marker, hmarker, hfor⟩
  rw [phase, hname]
  dsimp only
  rw [if_pos hmarked]
  split <;> omega

/-- A machine without a marker is in the first phase. -/
theorem phase_eq_zero (hname : snapshotName request task machine = .ok name)
    (hnone : (listed settings request task space).find? (task.markerKind.isFor · name) = none) :
    phase settings request task space machine = 0 := by
  have hunmarked :
      ¬ (listed settings request task space).any (task.markerKind.isFor · name) = true := by
    rw [List.any_eq_true]
    rintro ⟨marker, hmarker, hfor⟩
    exact List.find?_eq_none.1 hnone marker hmarker hfor
  rw [phase, hname]
  exact if_neg hunmarked

/-- A machine that is kept running and has a marker is in the last phase. -/
theorem phase_eq_two (hname : snapshotName request task machine = .ok name)
    (hmarker : marker ∈ listed settings request task space)
    (hfor : task.markerKind.isFor marker name = true)
    (hkept : (space.machines.find? machine).any Machine.isKeptRunning = true) :
    phase settings request task space machine = 2 := by
  have hmarked : (listed settings request task space).any (task.markerKind.isFor · name) = true :=
    List.any_eq_true.2 ⟨marker, hmarker, hfor⟩
  rw [phase, hname]
  dsimp only
  rw [if_pos hmarked, if_pos hkept]

/-- A machine that is not kept running is not in the last phase. -/
theorem phase_le_one (hkept : (space.machines.find? machine).any Machine.isKeptRunning = false) :
    phase settings request task space machine ≤ 1 := by
  rw [phase]
  split
  · omega
  · simp only [hkept, Bool.false_eq_true, if_false]
    split <;> omega

end Phase

/-! ## What a visit may change -/

/-- What a visit to some machines may change in a namespace: it makes their markers, and changes
their objects. -/
structure Handled (request : Request) (task : Task) (machines : List String)
    (before after : Space) : Prop where
  parts : ∀ part ≠ .machines, part ≠ .markers → Space.Agree part after before
  objects : ∀ machine ∉ machines, after.machines.find? machine = before.machines.find? machine
  markers : ∀ name marker, (before.markers task.markerKind).find? name = some marker →
    (after.markers task.markerKind).find? name = some marker
  free : ∀ machine ∉ machines,
    (after.markers task.markerKind).find? (markerName request machine) =
      (before.markers task.markerKind).find? (markerName request machine)

namespace Handled

protected theorem refl (space : Space) : Handled request task machines space space :=
  ⟨fun _ _ _ => .refl _ _, fun _ _ => rfl, fun _ _ h => h, fun _ _ => rfl⟩

theorem mono (h : Handled request task machines before after) (hsub : machines ⊆ machines') :
    Handled request task machines' before after where
  parts := h.parts
  objects machine hmachine := h.objects machine fun hmem => hmachine (hsub hmem)
  markers := h.markers
  free machine hmachine := h.free machine fun hmem => hmachine (hsub hmem)

theorem trans (h : Handled request task machines before after)
    (h' : Handled request task machines after later) :
    Handled request task machines before later where
  parts part hpart hpart' := (h'.parts part hpart hpart').trans (h.parts part hpart hpart')
  objects machine hmachine := (h'.objects machine hmachine).trans (h.objects machine hmachine)
  markers name marker hmarker := h'.markers name marker (h.markers name marker hmarker)
  free machine hmachine := (h'.free machine hmachine).trans (h.free machine hmachine)

/-- The object of a machine is replaced. -/
theorem replaced (space : Space) (machine : String) (object : Resource) :
    Handled request task [machine] space
      { space with machines := space.machines.insert machine object } where
  parts part hpart hpart' := by cases part <;> simp_all [Space.Agree]
  objects other hother := by
    exact Dict.find?_insert_of_ne fun heq => hother (List.mem_singleton.2 heq.symm)
  markers _ _ h := by cases hkind : task.markerKind <;> simp_all [Space.markers]
  free _ _ := by cases task.markerKind <;> rfl

/-- The marker of a machine is made. -/
theorem marked {space : Space} {marker : Resource}
    (hfree : (space.markers task.markerKind).find? (markerName request machine) = none) :
    Handled request task [machine] space (space.withMarkers task.markerKind
      ((space.markers task.markerKind).insert (markerName request machine) marker)) where
  parts part hpart hpart' := by
    cases part <;> cases task.markerKind <;> simp_all [Space.Agree, Space.withMarkers]
  objects _ _ := by cases task.markerKind <;> rfl
  markers name old hold := by
    have hne : markerName request machine ≠ name := by
      rintro rfl
      rw [hfree] at hold
      cases hold
    rw [Space.markers_withMarkers, Dict.find?_insert_of_ne hne]
    exact hold
  free other hother := by
    rw [Space.markers_withMarkers, Dict.find?_insert_of_ne]
    exact fun heq => hother (List.mem_singleton.2 (markerName_injective heq).symm)

/-- Who is not handled is not taken back. -/
theorem phase_le (h : Handled request task machines before after) (hmachine : machine ∉ machines) :
    phase settings request task before machine ≤ phase settings request task after machine := by
  refine phase_mono (fun marker hmarker => ?_) fun hkept => ?_
  · obtain ⟨⟨name, hfind⟩, hselected⟩ := mem_listed_iff.1 hmarker
    exact ⟨marker, mem_listed_iff.2 ⟨⟨name, h.markers name marker hfind⟩, hselected⟩, fun _ h => h⟩
  · rwa [h.objects machine hmachine]

end Handled

/-! ## A visit without trouble -/

/-- What a visit without trouble finds: machines that are there and can be told apart, reached and
restored; who is kept running is up; the request's markers are ready, and no other has one of their
names. -/
structure Smooth (settings : Settings) (request : Request) (task : Task) (sets : List Resource)
    (fencing : Bool) (space : Space) : Prop where
  disjoint : (sets.flatMap MachineSet.members).Nodup
  named : ∀ machine ∈ sets.flatMap MachineSet.members,
    (snapshotName request task machine).isOk = true
  reached : ∀ set ∈ sets, isFenced fencing set = true → ∀ machine ∈ MachineSet.members set,
    (MachineSet.address set machine settings.haNetwork).isOk = true
  present : ∀ machine ∈ sets.flatMap MachineSet.members, space.machines.contains machine = true
  running : ∀ object ∈ space.machines.values,
    Machine.isKeptRunning object = true → Machine.isReady object = true
  own : ∀ machine ∈ sets.flatMap MachineSet.members,
    ∀ name ∈ (snapshotName request task machine).toOption,
    ∀ marker ∈ (space.markers task.markerKind).find? (markerName request machine),
      Selector.selects (settings.markerSelector request.marker) marker.metadata = true ∧
        task.markerKind.isFor marker name = true
  ready : ∀ marker ∈ listed settings request task space, task.markerKind.isReady marker = true

instance (settings : Settings) (request : Request) (task : Task) (sets : List Resource)
    (fencing : Bool) (space : Space) :
    Decidable (Smooth settings request task sets fencing space) :=
  decidable_of_iff (_ ∧ _ ∧ _ ∧ _ ∧ _ ∧ _ ∧ _)
    ⟨fun ⟨h₁, h₂, h₃, h₄, h₅, h₆, h₇⟩ => ⟨h₁, h₂, h₃, h₄, h₅, h₆, h₇⟩, fun h =>
      ⟨h.disjoint, h.named, h.reached, h.present, h.running, h.own, h.ready⟩⟩

/-- It matters to a visit only which machines and which markers there are. -/
theorem Smooth.congr {sets : List Resource} {fencing : Bool}
    (h : Smooth settings request task sets fencing before)
    (hmachines : Space.Agree .machines after before) (hmarkers : Space.Agree .markers after before) :
    Smooth settings request task sets fencing after where
  disjoint := h.disjoint
  named := h.named
  reached := h.reached
  present := by
    rw [show after.machines = before.machines from hmachines]
    exact h.present
  running := by
    rw [show after.machines = before.machines from hmachines]
    exact h.running
  own := by
    rw [hmarkers.markers_eq]
    exact h.own
  ready := by
    rw [listed_congr hmarkers]
    exact h.ready

/-- The markers that are made for a request are selected as its own. -/
def Labels (settings : Settings) (request : Request) : Prop :=
  ∀ task machine name, Selector.selects (settings.markerSelector request.marker)
    (buildMarker settings request task machine name).metadata = true

variable {σ : Type} {s : σ} {sets : List Resource} {fencing : Bool} {cluster : Cluster}
  {address : Option String}

/-- A machine that can be reached where its set is fenced has an address for that. -/
theorem fencedAddress_ne_error {set : Resource} {failure : Failure}
    (hreached : isFenced fencing set = true →
      (MachineSet.address set machine settings.haNetwork).isOk = true) :
    fencedAddress settings fencing set machine ≠ .error failure := by
  intro hfailure
  rw [fencedAddress] at hfailure
  split at hfailure
  case isTrue hfenced =>
    have hisOk := hreached hfenced
    cases haddress : MachineSet.address set machine settings.haNetwork with
    | ok address =>
      rw [haddress] at hfailure
      cases hfailure
    | error failure =>
      rw [haddress] at hisOk
      cases hisOk
  case isFalse => cases hfailure

theorem perform_getMachine {ns : String} {object : Resource}
    (h : (cluster.space ns).machines.find? machine = some object) :
    cluster.perform (.getMachine ns machine) = (.ok (some object), cluster) := by
  rw [Cluster.perform, h]

theorem perform_patchMachine {ns : String} {object : Resource} {patch : Json}
    (h : (cluster.space ns).machines.find? machine = some object) :
    cluster.perform (.patchMachine ns machine patch) =
      (.ok (), cluster.withSpace ns { cluster.space ns with
        machines := (cluster.space ns).machines.insert machine (object.patched patch) }) := by
  simp only [Cluster.perform, Cluster.modifyOrFail, Cluster.commit, h]
  rfl

theorem perform_patchMachine_of_missing {ns : String} {patch : Json}
    (h : (cluster.space ns).machines.find? machine = none) :
    cluster.perform (.patchMachine ns machine patch) = (.error (.notFound machine), cluster) := by
  rw [Cluster.perform, Cluster.modifyOrFail, h]
  rfl

theorem perform_createMarker {ns : String} {kind : MarkerKind} {marker : Resource}
    (h : ((cluster.space ns).markers kind).find? marker.anyName = none) :
    cluster.perform (.createMarker ns kind marker) =
      (.ok (), cluster.withSpace ns ((cluster.space ns).withMarkers kind
        (((cluster.space ns).markers kind).insert marker.anyName marker))) := by
  simp only [Cluster.perform, Cluster.addOrFail, Cluster.commit, Dict.contains, h,
    Option.isSome_none, Bool.false_eq_true, if_false]
  rfl

theorem perform_createMarker_of_taken {ns : String} {kind : MarkerKind} {marker old : Resource}
    (h : ((cluster.space ns).markers kind).find? marker.anyName = some old) :
    cluster.perform (.createMarker ns kind marker) =
      (.error (.conflict (marker.anyName ++ " already exists")), cluster) := by
  rw [Cluster.perform, Cluster.addOrFail, Dict.contains, h]
  rfl

/-- A marker under a free name is made. -/
theorem createMarker_obliging (hlabels : Labels settings request)
    (hname : snapshotName request task machine = .ok name)
    (hfree : ((cluster.space request.ns).markers task.markerKind).find?
      (markerName request machine) = none) :
    Ensures obliging (createMarker request task (buildMarker settings request task machine name)) s
      cluster fun outcome s' after => outcome = .ok () ∧ s' = s ∧
        Handled request task [machine] (cluster.space request.ns) (after.space request.ns) ∧
        0 < phase settings request task (after.space request.ns) machine := by
  refine Activity.ensures_bind.2 (Activity.ensures_outcome.2 ?_)
  refine Cluster.ensures_call_obliging (by simp) ?_
  have hmarkerName : (buildMarker settings request task machine name).anyName = _ :=
    anyName_buildMarker hname
  rw [perform_createMarker (by rwa [hmarkerName]), hmarkerName]
  refine ⟨rfl, rfl, ?_, ?_⟩
  · rw [Cluster.space_withSpace]
    exact .marked hfree
  · rw [Cluster.space_withSpace]
    refine phase_pos hname (mem_listed_iff.2 ⟨⟨markerName request machine, ?_⟩,
      hlabels task machine name⟩) (isFor_buildMarker hname)
    rw [Space.markers_withMarkers, Dict.find?_insert, if_pos rfl]

/-- A machine that is powered off has a marker afterwards. -/
theorem shutMachine_obliging (hlabels : Labels settings request)
    (hname : snapshotName request task machine = .ok name) {object : Resource}
    (hobject : (cluster.space request.ns).machines.find? machine = some object)
    (hfree : ((cluster.space request.ns).markers task.markerKind).find?
      (markerName request machine) = none) :
    Ensures obliging (shutMachine settings request task machine name) s cluster
      fun outcome s' after => outcome = .ok () ∧ s' = s ∧
        Handled request task [machine] (cluster.space request.ns) (after.space request.ns) ∧
        0 < phase settings request task (after.space request.ns) machine := by
  refine Cluster.ensures_call_bind_obliging (by simp) ?_
  rw [perform_getMachine hobject]
  refine Activity.then_ok.2 ?_
  dsimp only
  by_cases hready : Machine.isReady object = true
  · rw [if_pos hready]
    refine Cluster.ensures_call_bind_obliging (by simp) ?_
    rw [perform_patchMachine hobject]
    refine Activity.then_ok.2 ((createMarker_obliging hlabels hname ?_).mono ?_)
    · rw [Cluster.space_withSpace]
      cases hkind : task.markerKind <;> (rw [hkind] at hfree; exact hfree)
    · rintro outcome s' after ⟨houtcome, hs, hhandled, hphase⟩
      rw [Cluster.space_withSpace] at hhandled
      exact ⟨houtcome, hs, (Handled.replaced _ machine _).trans hhandled, hphase⟩
  · rw [if_neg hready]
    exact createMarker_obliging hlabels hname hfree

/-- A machine without a marker has one after the step that makes it. -/
theorem startMachine_obliging (hlabels : Labels settings request)
    (hname : snapshotName request task machine = .ok name) {object : Resource}
    (hobject : (cluster.space request.ns).machines.find? machine = some object)
    (hfree : ((cluster.space request.ns).markers task.markerKind).find?
      (markerName request machine) = none) :
    Ensures obliging (startMachine settings request task machine name address) s cluster
      fun outcome s' after => outcome = .ok () ∧ s' = s ∧
        Handled request task [machine] (cluster.space request.ns) (after.space request.ns) ∧
        0 < phase settings request task (after.space request.ns) machine := by
  have hshut := shutMachine_obliging (s := s) hlabels hname hobject hfree
  cases address with
  | none => exact hshut
  | some a =>
    rw [startMachine_some]
    exact Activity.ensures_bind.2 (Cluster.ensures_apply_obliging hshut)

/-- A machine whose marker is ready is powered on or finished. -/
theorem finishMachine_obliging (task : Task) {object : Resource}
    (hobject : (cluster.space request.ns).machines.find? machine = some object)
    (hready : Machine.isKeptRunning object = true → Machine.isReady object = true) :
    Ensures obliging (finishMachine settings request machine true address) s cluster
      fun outcome s' after => s' = s ∧
        Handled request task [machine] (cluster.space request.ns) (after.space request.ns) ∧
        (outcome = .ok true ∨ outcome = .ok false ∧ Machine.isKeptRunning object = false ∧
          ((after.space request.ns).machines.find? machine).any Machine.isKeptRunning = true) := by
  refine Cluster.ensures_call_bind_obliging (by simp) ?_
  rw [perform_getMachine hobject]
  refine Activity.then_ok.2 ?_
  by_cases hkept : Machine.isKeptRunning object = true
  · simp only [hkept, hready hkept]
    cases address with
    | none => exact ⟨rfl, .refl _, .inl rfl⟩
    | some a => exact Cluster.ensures_apply_obliging ⟨rfl, .refl _, .inl rfl⟩
  · simp only [hkept]
    refine Cluster.ensures_call_bind_obliging (by simp) ?_
    rw [perform_patchMachine hobject]
    refine ⟨rfl, ?_, .inr ⟨rfl, by simp, ?_⟩⟩
    · rw [Cluster.space_withSpace]
      exact .replaced _ machine _
    · rw [Cluster.space_withSpace]
      simp [Machine.isKeptRunning_powerOn]

/-- The next step for a machine succeeds, and the machine is finished or a phase further than it was
when the visit started. -/
theorem runMachine_advances (hlabels : Labels settings request)
    (hsmooth : Smooth settings request task sets fencing start)
    (hmachine : machine ∈ sets.flatMap MachineSet.members)
    (hname : snapshotName request task machine = .ok name)
    (hsince : Handled request task machines start (cluster.space request.ns))
    (hnew : machine ∉ machines) :
    Ensures obliging (runMachine settings request task (listed settings request task start) machine
      name address) s cluster fun outcome s' after => s' = s ∧
        Handled request task [machine] (cluster.space request.ns) (after.space request.ns) ∧
        (outcome = .ok true ∨ outcome = .ok false ∧ phase settings request task start machine <
          phase settings request task (after.space request.ns) machine) := by
  obtain ⟨object, hobject⟩ := Option.isSome_iff_exists.1 (hsmooth.present machine hmachine)
  have hnow : (cluster.space request.ns).machines.find? machine = some object :=
    (hsince.objects machine hnew).trans hobject
  rw [runMachine]
  split
  case h_1 marker hmarker =>
    have hlisted := List.mem_of_find?_eq_some hmarker
    have hfor : task.markerKind.isFor marker name = true := by simpa using List.find?_some hmarker
    rw [hsmooth.ready marker hlisted]
    refine (finishMachine_obliging task hnow (hsmooth.running object
      (Dict.mem_values_iff.2 ⟨machine, hobject⟩))).mono ?_
    rintro outcome s' after ⟨hs, hhandled, hfinished | ⟨hunfinished, hoff, hkept⟩⟩
    · exact ⟨hs, hhandled, .inl hfinished⟩
    · refine ⟨hs, hhandled, .inr ⟨hunfinished, ?_⟩⟩
      -- The marker is still listed, and the machine is kept running only now.
      obtain ⟨⟨key, hfind⟩, hselected⟩ := mem_listed_iff.1 hlisted
      have hstill := hhandled.markers key marker (hsince.markers key marker hfind)
      rw [phase_eq_two hname (mem_listed_iff.2 ⟨⟨key, hstill⟩, hselected⟩) hfor hkept]
      have hone : phase settings request task start machine ≤ 1 :=
        phase_le_one (by rw [hobject]; simpa using hoff)
      omega
  case h_2 hnone =>
    have hfree : ((cluster.space request.ns).markers task.markerKind).find?
        (markerName request machine) = none := by
      -- A marker of that name would be the machine's own, and would have been listed.
      rw [hsince.free machine hnew, Option.eq_none_iff_forall_ne_some]
      intro marker hmarker
      have hof : name ∈ (snapshotName request task machine).toOption := by simp [hname, Except.toOption]
      obtain ⟨hselected, hfor⟩ := hsmooth.own machine hmachine name hof marker hmarker
      have hlisted := mem_listed_iff.2 ⟨⟨_, hmarker⟩, hselected⟩
      exact absurd hfor (by simpa using List.find?_eq_none.1 hnone marker hlisted)
    refine (startMachine_obliging hlabels hname hnow hfree).bind ?_ ?_
    · rintro _ s after ⟨-, rfl, hhandled, hphase⟩
      rw [← phase_eq_zero hname hnone] at hphase
      exact ⟨rfl, hhandled, .inr ⟨rfl, hphase⟩⟩
    · rintro failure _ after ⟨⟨⟩, -⟩

/-! ## Visits -/

section Visits

variable {recorded' : Dict String} {members pending : List String} {set : Resource}

/-- What a visit leaves of some machines that were not recorded: none was taken back since the visit
started, the first of them has come further, and who is pending is not recorded. -/
structure Advanced (settings : Settings) (request : Request) (task : Task) (start : Space)
    (members : List String) (recorded : Dict String) (before : Space) (pending : List String)
    (recorded' : Dict String) (after : Space) : Prop where
  handled : Handled request task members before after
  others : ∀ machine ∉ members, recorded'.find? machine = recorded.find? machine
  unrecorded : ∀ machine ∈ pending, machine ∈ members ∧ recorded'.contains machine = false
  kept : ∀ machine ∈ members, phase settings request task start machine ≤
    stage settings request task recorded' after machine
  first : ∀ machine ∈ members.head?, phase settings request task start machine <
    stage settings request task recorded' after machine

theorem phase_le_stage (settings : Settings) (request : Request) (task : Task)
    (recorded : Dict String) (space : Space) (machine : String) :
    phase settings request task space machine ≤
      stage settings request task recorded space machine := by
  have hphase := phase_le settings request task space machine
  rw [stage]
  split <;> omega

theorem phase_lt_stage (hrecorded : recorded.contains machine = true) (before after : Space) :
    phase settings request task before machine <
      stage settings request task recorded after machine := by
  have hphase := phase_le settings request task before machine
  rw [stage, if_pos hrecorded]
  omega

/-- A visit that ends with the first machine. -/
theorem Advanced.of_first {rest : List String}
    (hsince : Handled request task machines start before)
    (hrest : ∀ other ∈ rest, other ∉ machines) (hnodup : (machine :: rest).Nodup)
    (hunrecorded : ∀ other ∈ rest, recorded.contains other = false)
    (hhandled : Handled request task [machine] before after)
    (hothers : ∀ other ≠ machine, recorded'.find? other = recorded.find? other)
    (hpending : pending = machine :: rest ∧ recorded'.contains machine = false ∨
      pending = rest ∧ recorded'.contains machine = true)
    (hfirst : phase settings request task start machine <
      stage settings request task recorded' after machine) :
    Advanced settings request task start (machine :: rest) recorded before pending recorded'
      after where
  handled := hhandled.mono (by simp)
  others other hother := hothers other fun heq => hother (heq ▸ List.mem_cons_self)
  unrecorded := by
    have hleft : ∀ other ∈ rest, recorded'.contains other = false := by
      intro other hother
      have hne : other ≠ machine := fun heq => (List.nodup_cons.1 hnodup).1 (heq ▸ hother)
      rw [Dict.contains, hothers other hne]
      exact hunrecorded other hother
    rcases hpending with ⟨rfl, hmachine⟩ | ⟨rfl, -⟩
    · intro other hother
      rcases List.mem_cons.1 hother with rfl | hother'
      · exact ⟨hother, hmachine⟩
      · exact ⟨hother, hleft other hother'⟩
    · exact fun other hother => ⟨List.mem_cons_of_mem _ hother, hleft other hother⟩
  kept := by
    intro other hother
    rcases List.mem_cons.1 hother with rfl | hother
    · exact hfirst.le
    · have hne : other ≠ machine := fun heq => (List.nodup_cons.1 hnodup).1 (heq ▸ hother)
      calc phase settings request task start other
          ≤ phase settings request task before other := hsince.phase_le (hrest other hother)
        _ ≤ phase settings request task after other := hhandled.phase_le (by simpa using hne)
        _ ≤ _ := phase_le_stage ..
  first := by
    rintro _ ⟨⟩
    exact hfirst

/-- A visit that goes on once the first machine is recorded. -/
theorem Advanced.cons {rest : List String} {recorded'' : Dict String}
    (h : Advanced settings request task start rest recorded' after pending recorded'' later)
    (hhandled : Handled request task [machine] before after) (hnew : machine ∉ rest)
    (hothers : ∀ other ≠ machine, recorded'.find? other = recorded.find? other)
    (hrecorded : recorded'.contains machine = true) :
    Advanced settings request task start (machine :: rest) recorded before pending recorded''
      later := by
  have hkept : recorded''.contains machine = true := by
    rw [Dict.contains, h.others machine hnew]
    exact hrecorded
  exact {
    handled := (hhandled.mono (by simp)).trans (h.handled.mono (by simp))
    others := fun other hother => (h.others other fun hmem => hother (by simp [hmem])).trans
      (hothers other fun heq => hother (by simp [heq]))
    unrecorded := fun other hother =>
      ⟨List.mem_cons_of_mem _ (h.unrecorded other hother).1, (h.unrecorded other hother).2⟩
    kept := List.forall_mem_cons.2 ⟨(phase_lt_stage hkept _ _).le, h.kept⟩
    first := fun _ hfirst => Option.some.inj hfirst ▸ phase_lt_stage hkept _ _ }

/-- A visit to members of a set succeeds, and takes the first of them further. -/
theorem runMembers_advances (hlabels : Labels settings request)
    (hsmooth : Smooth settings request task sets fencing start) (hset : set ∈ sets)
    (hsub : members ⊆ MachineSet.members set) (hnodup : members.Nodup)
    (hunrecorded : ∀ machine ∈ members, recorded.contains machine = false)
    (hsince : Handled request task machines start (cluster.space request.ns))
    (hnew : ∀ machine ∈ members, machine ∉ machines) :
    Ensures obliging (runMembers settings request task (listed settings request task start) fencing
      set members) recorded cluster fun outcome recorded' after => ∃ pending, outcome = .ok pending ∧
        Advanced settings request task start members recorded (cluster.space request.ns) pending
          recorded' (after.space request.ns) := by
  -- The markers were listed when the visit started, so the space of that moment is kept apart from
  -- the one that the earlier members have left.
  induction members generalizing recorded cluster machines with
  | nil =>
    refine ⟨[], rfl, .refl _, fun _ _ => rfl, ?_, ?_, ?_⟩ <;> simp
  | cons machine rest ih =>
    obtain ⟨hmachine, hrest⟩ := List.cons_subset.1 hsub
    have hmember : machine ∈ sets.flatMap MachineSet.members :=
      List.mem_flatMap.2 ⟨set, hset, hmachine⟩
    obtain ⟨hnewMachine, hnewRest⟩ := List.forall_mem_cons.1 hnew
    obtain ⟨hunrecordedMachine, hunrecordedRest⟩ := List.forall_mem_cons.1 hunrecorded
    refine ensures_runMembers_cons (fun failure hfailure => ?_) (fun failure hfailure => ?_) ?_
    · have hnamed := hsmooth.named machine hmember
      rw [hfailure] at hnamed
      cases hnamed
    · exact absurd hfailure (fencedAddress_ne_error fun hfenced =>
        hsmooth.reached set hset hfenced machine hmachine)
    · intro name address hname haddress
      refine (runMachine_advances hlabels hsmooth hmember hname hsince hnewMachine).mono ?_
      rintro outcome recorded' after ⟨rfl, hhandled, rfl | ⟨rfl, hphase⟩⟩
      · -- The machine is finished, so it is recorded.
        have hinserted : (recorded'.insert machine name).contains machine = true := by
          simp [Dict.contains]
        have hothers : ∀ other ≠ machine,
            (recorded'.insert machine name).find? other = recorded'.find? other :=
          fun other hne => Dict.find?_insert_of_ne hne.symm
        cases address with
        | some a =>
          -- Its cluster has to settle, so the members after this one wait for the next visit.
          exact ⟨rest, rfl, .of_first hsince hnewRest hnodup hunrecordedRest hhandled hothers
            (.inr ⟨rfl, hinserted⟩) (phase_lt_stage hinserted _ _)⟩
        | none =>
          -- Nobody has to settle, so the members after this one have their turn.
          have hnotRest := (List.nodup_cons.1 hnodup).1
          have hunrecordedNow : ∀ other ∈ rest,
              (recorded'.insert machine name).contains other = false := fun other hother => by
            rw [Dict.contains, hothers other fun heq => hnotRest (heq ▸ hother)]
            exact hunrecordedRest other hother
          have hsinceNow : Handled request task (machine :: machines) start
              (after.space request.ns) :=
            (hsince.mono (by simp)).trans (hhandled.mono (by simp))
          have hnewNow : ∀ other ∈ rest, other ∉ machine :: machines := fun other hother hmem => by
            rcases List.mem_cons.1 hmem with rfl | hmem
            · exact hnotRest hother
            · exact hnewRest other hother hmem
          have hvisit := ih hrest (List.nodup_cons.1 hnodup).2 hunrecordedNow hsinceNow hnewNow
          simp only [Option.isSome_none, Bool.false_eq_true, if_false]
          refine hvisit.mono ?_
          rintro _ recorded'' last ⟨pending, rfl, hadvanced⟩
          exact ⟨pending, rfl, hadvanced.cons hhandled hnotRest hothers hinserted⟩
      · -- The machine is not finished, so the visit to the set ends with it.
        refine ⟨machine :: rest, rfl, .of_first hsince hnewRest hnodup hunrecordedRest hhandled
          (fun _ _ => rfl) (.inl ⟨rfl, hunrecordedMachine⟩) ?_⟩
        exact hphase.trans_le (phase_le_stage ..)

/-- A visit to a set takes its members further, unless all of them are recorded. -/
theorem Advanced.left_le
    (h : Advanced settings request task start (members.filter (!recorded.contains ·)) recorded before
      pending recorded' after) :
    left settings request task recorded' after members ≤
      left settings request task recorded start members - 1 := by
  have hkept : ∀ machine ∈ members, stage settings request task recorded start machine ≤
      stage settings request task recorded' after machine := by
    intro machine hmachine
    by_cases hrecorded : recorded.contains machine = true
    · have hstill : recorded'.contains machine = true := by
        rw [Dict.contains, h.others machine (by simp [hrecorded])]
        exact hrecorded
      rw [stage, stage, if_pos hrecorded, if_pos hstill]
    · rw [stage, if_neg hrecorded]
      exact h.kept machine (List.mem_filter.2 ⟨hmachine, by simpa using hrecorded⟩)
  cases hunrecorded : members.filter (!recorded.contains ·) with
  | nil =>
    -- Nothing was left before, and nothing less can be left now.
    have hall : ∀ machine ∈ members, recorded.contains machine = true := by
      simpa using List.filter_eq_nil_iff.1 hunrecorded
    have hnone : left settings request task recorded start members = 0 := by
      refine List.sum_eq_zero fun rest hrest => ?_
      obtain ⟨machine, hmachine, rfl⟩ := List.mem_map.1 hrest
      rw [stage, if_pos (hall machine hmachine), Nat.sub_self]
    have hle := left_le_left hkept
    omega
  | cons machine rest =>
    have hmachine : machine ∈ members.filter (!recorded.contains ·) := by simp [hunrecorded]
    obtain ⟨hmember, hnot⟩ := List.mem_filter.1 hmachine
    have hfirst := h.first machine (by rw [hunrecorded]; rfl)
    have hlt : left settings request task recorded' after members <
        left settings request task recorded start members := by
      refine left_lt_left hkept ⟨machine, hmember, ?_⟩
      rwa [stage, if_neg (by simpa using hnot)]
    omega

/-- What a visit leaves of some sets: each of them has come further, and who is pending is not
recorded. -/
structure Visited (settings : Settings) (request : Request) (task : Task) (start : Space)
    (sets : List Resource) (recorded : Dict String) (before : Space) (pending : List String)
    (recorded' : Dict String) (after : Space) : Prop where
  handled : Handled request task (sets.flatMap MachineSet.members) before after
  others : ∀ machine ∉ sets.flatMap MachineSet.members,
    recorded'.find? machine = recorded.find? machine
  unrecorded : ∀ machine ∈ pending,
    machine ∈ sets.flatMap MachineSet.members ∧ recorded'.contains machine = false
  fewer : ∀ set ∈ sets, left settings request task recorded' after (MachineSet.members set) ≤
    left settings request task recorded start (MachineSet.members set) - 1

/-- What is left to each set is one less, and something is left as long as somebody is pending. -/
theorem Visited.left_le {most : Nat}
    (h : Visited settings request task start sets recorded before pending recorded' after)
    (hmost : ∀ set ∈ sets,
      left settings request task recorded start (MachineSet.members set) ≤ most) :
    (∀ set ∈ sets,
      left settings request task recorded' after (MachineSet.members set) ≤ most - 1) ∧
    (pending ≠ [] → 1 < most) := by
  have hfewer : ∀ set ∈ sets,
      left settings request task recorded' after (MachineSet.members set) ≤ most - 1 :=
    fun set hset => (h.fewer set hset).trans (Nat.sub_le_sub_right (hmost set hset) 1)
  refine ⟨hfewer, fun hpending => ?_⟩
  obtain ⟨machine, hmachine⟩ := List.exists_mem_of_ne_nil pending hpending
  obtain ⟨hmember, hrecorded⟩ := h.unrecorded machine hmachine
  obtain ⟨set, hset, hmember⟩ := List.mem_flatMap.1 hmember
  have hpos := left_pos hmember hrecorded settings request task after
  have hle := hfewer set hset
  omega

theorem Visited.nil : Visited settings request task start [] recorded before [] recorded before where
  handled := .refl _
  others _ _ := rfl
  unrecorded := by simp
  fewer := by simp

/-- One set is visited before others that share no member with it. -/
theorem Visited.cons {rest : List Resource} {pending' : List String} {recorded'' : Dict String}
    (hdisjoint : ∀ machine ∈ MachineSet.members set, machine ∉ rest.flatMap MachineSet.members)
    (h : Advanced settings request task start ((MachineSet.members set).filter
      (!recorded.contains ·)) recorded before pending recorded' after)
    (h' : Visited settings request task start rest recorded' after pending' recorded'' later) :
    Visited settings request task start (set :: rest) recorded before (pending ++ pending')
      recorded'' later where
  handled := by
    have hset : Handled request task (MachineSet.members set) before after :=
      h.handled.mono (List.filter_subset_self _)
    exact (hset.mono (by simp)).trans (h'.handled.mono (by simp))
  others machine hmachine := by
    rw [List.flatMap_cons, List.mem_append, not_or] at hmachine
    exact (h'.others machine hmachine.2).trans
      (h.others machine fun hmem => hmachine.1 (List.mem_filter.1 hmem).1)
  unrecorded machine hmachine := by
    rw [List.flatMap_cons, List.mem_append]
    rcases List.mem_append.1 hmachine with hmachine | hmachine
    · obtain ⟨hmember, hrecorded⟩ := h.unrecorded machine hmachine
      have hmember' := (List.mem_filter.1 hmember).1
      rw [Dict.contains, h'.others machine (hdisjoint machine hmember')]
      exact ⟨.inl hmember', hrecorded⟩
    · exact ⟨.inr (h'.unrecorded machine hmachine).1, (h'.unrecorded machine hmachine).2⟩
  fewer := by
    refine List.forall_mem_cons.2 ⟨?_, fun other hother => ?_⟩
    · refine le_trans (left_le_left fun machine hmachine => ?_) h.left_le
      -- Whoever is visited later leaves this set as it is.
      have hnot := hdisjoint machine hmachine
      exact stage_mono (h'.others machine hnot) (h'.handled.phase_le hnot)
    · -- Nor does the visit to this set record anybody of the others.
      refine (h'.fewer other hother).trans (Nat.sub_le_sub_right (left_le_left ?_) 1)
      refine fun machine hmachine => stage_mono (h.others machine ?_) le_rfl
      refine fun hmem => hdisjoint machine (List.mem_filter.1 hmem).1 ?_
      exact List.mem_flatMap.2 ⟨other, hother, hmachine⟩

/-- A visit to some sets succeeds, and takes each of them further. -/
theorem runSets_advances (hlabels : Labels settings request)
    (hsmooth : Smooth settings request task sets fencing start) {rest : List Resource}
    (hsub : rest ⊆ sets) (hnodup : (rest.flatMap MachineSet.members).Nodup)
    (hsince : Handled request task machines start (cluster.space request.ns))
    (hnew : ∀ machine ∈ rest.flatMap MachineSet.members, machine ∉ machines) :
    Ensures obliging (rest.mapM (runSet settings request task (listed settings request task start)
      fencing)) recorded cluster fun outcome recorded' after => ∃ pending, outcome = .ok pending ∧
        Visited settings request task start rest recorded (cluster.space request.ns) pending.flatten
          recorded' (after.space request.ns) := by
  induction rest generalizing recorded cluster machines with
  | nil => exact ⟨[], rfl, .nil⟩
  | cons set rest ih =>
    obtain ⟨hset, hrest⟩ := List.cons_subset.1 hsub
    rw [List.flatMap_cons] at hnodup hnew
    obtain ⟨hnodupSet, hnodupRest, hdisjoint⟩ := List.nodup_append'.1 hnodup
    rw [Activity.ensures_mapM_cons]
    refine Ensures.mono (ensures_runSet.2 (runMembers_advances hlabels hsmooth hset
      (List.filter_subset_self _) (hnodupSet.filter _) (by simp) hsince
      fun machine hmachine => hnew machine ?_)) ?_
    · exact List.mem_append_left _ (List.mem_filter.1 hmachine).1
    rintro _ recorded' after ⟨pending, rfl, hadvanced⟩
    rw [Activity.then_ok, Activity.ensures_bind]
    have hhandled : Handled request task (MachineSet.members set) (cluster.space request.ns)
        (after.space request.ns) := hadvanced.handled.mono (List.filter_subset_self _)
    have hsinceNow : Handled request task (machines ++ MachineSet.members set) start
        (after.space request.ns) :=
      (hsince.mono (by simp)).trans (hhandled.mono (by simp))
    refine Ensures.mono (ih hrest hnodupRest hsinceNow fun machine hmachine hmem => ?_) ?_
    · rcases List.mem_append.1 hmem with hmem | hmem
      · exact hnew machine (List.mem_append_right _ hmachine) hmem
      · exact hdisjoint hmem hmachine
    rintro _ recorded'' later ⟨pendings, rfl, hvisited⟩
    exact ⟨pending :: pendings, rfl, .cons (fun _ h h' => hdisjoint h h') hadvanced hvisited⟩

/-- A visit to all sets succeeds. Unless nobody is pending any more, something is left to some set,
and every set has come further. -/
theorem runPass_advances (hlabels : Labels settings request)
    (hsmooth : Smooth settings request task sets fencing (cluster.space request.ns)) :
    Ensures obliging (runPass settings request task sets fencing) recorded cluster
      fun outcome recorded' after => ∃ pending, outcome = .ok pending ∧
        Visited settings request task (cluster.space request.ns) sets recorded
          (cluster.space request.ns) pending recorded' (after.space request.ns) := by
  refine ensures_runPass.2 ⟨trivial, fun answer after hanswer => ?_⟩
  cases hanswer with
  | performed =>
    have hnobody : Handled request task [] (cluster.space request.ns) (cluster.space request.ns) :=
      .refl _
    refine Ensures.mono (runSets_advances hlabels hsmooth (List.Subset.refl sets) hsmooth.disjoint
      hnobody (by simp)) ?_
    rintro _ recorded' later ⟨pendings, rfl, hvisited⟩
    exact ⟨pendings.flatten, rfl, hvisited⟩

end Visits

end Imaging

end NamespaceBackup
