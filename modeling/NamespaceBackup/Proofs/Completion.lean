import NamespaceBackup.Proofs.Phases

/-!
# Requests are completed

While the cluster cooperates, every pass brings a request with images closer to its goal. The passes
that are left are counted by the stages that are left to its machines and by the states that come
before and after the visits to them. So the goal is stored after a number of passes that depends on
the largest set of machines alone, not on the number of sets.

## Main definitions

* `Mode.goal`, `Mode.passes`: where a request ends, and the passes it takes
* `Saga.Favourable`, `Saga.Respects`: what a pass finds, and what nobody undoes between two passes
* `Saga.cooperating`: the surroundings of a request while the cluster cooperates
* `Saga.PassesLeft`: the passes that are left to a request

## Main results

* `Saga.PassesLeft.between`, `Saga.PassesLeft.reconcile`: nothing between two passes takes a request
  back, and every pass takes it further
* `Saga.goal_of_runs`: the goal is stored after as many passes as the mode takes
-/

namespace NamespaceBackup

open Activity (Ensures)
open Cluster (home obliging)
open Space (Part Agree)

namespace Dict

variable {α : Type} {dict old new : Dict α} {name : String}

theorem mem_keys_iff : name ∈ dict.keys ↔ dict.contains name = true := by
  simp only [keys, contains, Option.isSome_iff_exists, List.mem_map, Prod.exists, exists_and_right,
    exists_eq_right, mem_entries_iff]

/-- A dictionary without names of its own has no value where another has none. -/
theorem values_eq_nil (h : ∀ name ∈ new.keys, old.contains name = true) (hold : old.values = []) :
    new.values = [] := by
  rw [eq_empty_of_values hold] at h
  have hkeys : new.keys = [] := List.eq_nil_iff_forall_not_mem.2 fun name hname => nomatch h name hname
  rw [values, List.map_eq_nil_iff.1 hkeys, List.map_nil]

end Dict

/-- Nothing is managed in a namespace without managed objects, config maps and secrets. -/
theorem Space.isEmpty_inventory_iff {space : Space} {selector : String} :
    (space.inventory selector).isEmpty = true ↔
      (∀ kind : ManagedKind, (space.ofKind kind.name).values = []) ∧
        (space.configMaps.filter (Selector.selects selector ·.metadata)).values = [] ∧
        (space.secrets.filter (Selector.selects selector ·.metadata)).values = [] := by
  constructor
  · intro hempty
    obtain ⟨-, hconfigMaps, hsecrets⟩ := Inventory.isEmpty_iff.1 hempty
    refine ⟨fun kind => ?_, hconfigMaps, hsecrets⟩
    rw [← Saga.objects_inventory space selector kind, Inventory.objects_of_isEmpty hempty]
  · rintro ⟨hmanaged, hconfigMaps, hsecrets⟩
    rw [inventory, hconfigMaps, hsecrets]
    exact Inventory.isEmpty_gather hmanaged

namespace Mode

/-- The state in which a request has done what it asks for. -/
def goal : Mode → State
  | save => .saved
  | restore | cleanRestore => .restored

/-- The passes that a request with images takes if no set has more machines than a number. -/
def passes : Mode → Nat → Nat
  | save, size | restore, size => 1 + max 1 (3 * size)
  | cleanRestore, size => 3 + max 1 (3 * size)

end Mode

namespace Saga

/-! ## A cluster that cooperates -/

/-- A request with images that can be worked on: it has all it needs and names its bundle if it
restores one, and what is made for it can be selected by its label. -/
structure Feasible (settings : Settings) (request : Request) : Prop where
  whole : Whole request
  images : request.spec.includeImages = true
  faultless : request.spec.fault? = none
  selectable : Selectable settings request
  labels : settings.markerLabel ≠ settings.requestLabel

/-- What a pass over a request finds that nothing is in the way of: its machines can be visited, no
set has more of them than a number, everything has a name, no other bundle has the name of its own,
and a restore finds its bundle. -/
structure Steady (settings : Settings) (size : Nat) (first : Request) (space : Space) : Prop where
  smooth : Smooth settings first space
  /-- The number bounds all sets, however many there are. -/
  sizes : ∀ set ∈ (order first space).sets, (MachineSet.members set).length ≤ size
  named : space.Named
  bundles : first.spec.mode.isRestore = false → OwnBundles settings first space
  source : first.spec.mode.isRestore = true → ∃ bundle, source? first space = some bundle ∧
    ∀ kind : ManagedKind, ∀ saved ∈ bundle.content.objects kind.name,
      saved.metadata.name.isSome = true

/-- All managed objects of a namespace are finished. -/
def Finished (space : Space) : Prop :=
  ∀ kind ∈ ManagedKind.all, ∀ object ∈ (space.ofKind kind.name).values, kind.isFinished object = true

instance (space : Space) : Decidable (Finished space) := by unfold Finished; infer_instance

/-- What a pass over a request finds while the cluster cooperates: besides, all controllers have
finished when a save begins and after a restore has loaded its bundle. -/
structure Favourable (settings : Settings) (size : Nat) (first request : Request) (space : Space) :
    Prop extends Steady settings size first space where
  /-- Only the first pass of a save asks for this. -/
  quiet : first.spec.mode.isRestore = false → request.state = .empty → Finished space
  settled : request.state = .reconciling → Finished space

/-- What happens to a namespace between two passes while the cluster cooperates: sets of machines keep
their members, machines are kept running, the markers and the bundle of a request stay what they are,
nobody else creates what is managed, and what was restored stays. -/
structure Respects (settings : Settings) (first request : Request) (before after : Space) : Prop where
  /-- A set that is there was there, with the same members. -/
  members : first.spec.mode.isRestore = false →
    ∀ set ∈ (after.ofKind ManagedKind.vmSet.name).values,
      ∃ set' ∈ (before.ofKind ManagedKind.vmSet.name).values,
        MachineSet.members set' = MachineSet.members set
  /-- Nobody else powers a machine off. -/
  running : ∀ pair ∈ before.machines.entries, Machine.isKeptRunning pair.2 = true →
    (after.machines.find? pair.1).any Machine.isKeptRunning = true
  markers : ∀ marker ∈ Imaging.listed settings (owner first) (order first before).task before,
    ∃ marker' ∈ Imaging.listed settings (owner first) (order first before).task after,
      marker'.anyName = marker.anyName ∧ marker'.fields.find? "spec" = marker.fields.find? "spec"
  source : source? first after = source? first before
  /-- Nobody else creates a managed object, a config map or a secret. -/
  managed : ∀ kind ∈ ManagedKind.all, ∀ name ∈ (after.ofKind kind.name).keys,
    (before.ofKind kind.name).contains name = true
  configMaps : ∀ name ∈ (after.configMaps.filter
      (Selector.selects settings.managedSelector ·.metadata)).keys,
    (before.configMaps.filter (Selector.selects settings.managedSelector ·.metadata)).contains
      name = true
  secrets : ∀ name ∈ (after.secrets.filter
      (Selector.selects settings.managedSelector ·.metadata)).keys,
    (before.secrets.filter (Selector.selects settings.managedSelector ·.metadata)).contains
      name = true
  /-- Nobody else deletes what was restored. -/
  restored : request.state = .reconciling → ∀ kind ∈ ManagedKind.all,
    ∀ name ∈ (before.ofKind kind.name).keys, (after.ofKind kind.name).contains name = true

instance (settings : Settings) (first request : Request) (before after : Space) :
    Decidable (Respects settings first request before after) :=
  decidable_of_iff (_ ∧ _ ∧ _ ∧ _ ∧ _ ∧ _ ∧ _ ∧ _)
    ⟨fun ⟨h₁, h₂, h₃, h₄, h₅, h₆, h₇, h₈⟩ => ⟨h₁, h₂, h₃, h₄, h₅, h₆, h₇, h₈⟩, fun h =>
      ⟨h.members, h.running, h.markers, h.source, h.managed, h.configMaps, h.secrets, h.restored⟩⟩

/-- The surroundings of a request while the cluster cooperates: calls and commands succeed, every pass
is given the request as it is stored, and between two passes nobody writes it or undoes what was
done. -/
def cooperating (settings : Settings) (size : Nat) (first : Request) : Surroundings Cluster where
  answers := Cluster.Obliges
  gives cluster request := cluster.stored first = some request
  between before after := ∃ request, before.stored first = some request ∧
    after.stored first = some request ∧
    Respects settings first request (before.space (home first)) (after.space (home first)) ∧
    Favourable settings size first request (after.space (home first))

variable {settings : Settings} {size passes most : Nat} {first request : Request}
  {cluster : Cluster} {before after : Space} {bundle : Bundle}

theorem Steady.resembles (h : Steady settings size first before)
    (hresembles : Resembles before after) : Steady settings size first after := by
  have horder : order first after = order first before :=
    order_congr (hresembles.agree (by simp)) (hresembles.agree (by simp))
  have hbundles : Agree .bundles after before := hresembles.agree (by simp)
  constructor
  · exact h.smooth.congr horder (hresembles.agree (by simp)) (hresembles.agree (by simp))
  · rw [horder]
    exact h.sizes
  · exact hresembles.named h.named
  · rw [OwnBundles, show after.bundles = before.bundles from hbundles]
    exact h.bundles
  · rw [source?_congr hbundles]
    exact h.source

theorem Finished.resembles (h : Finished before) (hresembles : Resembles before after) :
    Finished after := by
  intro kind hkind
  have hcontent : Agree .content after before := hresembles.agree (by simp)
  rw [hcontent.ofKind_eq]
  exact h kind hkind

/-- Three stages at most are left to each machine of a set. -/
theorem Steady.leftAtMost (h : Steady settings size first before) (recorded : Dict String) :
    LeftAtMost settings first (3 * size) recorded before := fun set hset =>
  (Imaging.left_le_three ..).trans (Nat.mul_le_mul_left 3 (h.sizes set hset))

theorem Feasible.markers (h : Feasible settings first) : Imaging.Labels settings (owner first) := by
  obtain ⟨marker, hmarker⟩ : ∃ marker, first.marker? = some marker := by
    obtain ⟨name, hname⟩ := Option.isSome_iff_exists.1 h.whole.name
    obtain ⟨created, hcreated⟩ := Option.isSome_iff_exists.1 h.whole.created
    exact ⟨_, by simp [Request.marker?, hname, hcreated]; rfl⟩
  have howner : (owner first).marker = marker := by rw [owner, hmarker, Option.getD_some]
  intro task machine name
  rw [howner]
  refine (Settings.selects_markerSelector h.selectable.comma h.selectable.equals
    (Request.comma_notMem_marker h.selectable.name hmarker)).2 ?_
  simp [Imaging.buildMarker, Metadata.label?, Dict.ofList, h.labels.symm, howner]

/-! ## What is left to do -/

/-- So many passes at most are left to a request in a namespace. -/
inductive PassesLeft (settings : Settings) (size : Nat) (first request : Request) (space : Space) :
    Nat → Prop
  | ended {passes : Nat} (hstate : request.state = first.spec.mode.goal) :
    PassesLeft settings size first request space passes
  | beginning {passes : Nat} (hstate : request.state = .empty)
    (hpasses : first.spec.mode.passes size ≤ passes) :
    PassesLeft settings size first request space passes
  | saving {passes most : Nat} (hmode : first.spec.mode.isRestore = false)
    (hstate : request.state = .saving)
    (hleft : LeftAtMost settings first most request.currentStatus.snapshotNames space)
    (hpasses : max 1 most ≤ passes) : PassesLeft settings size first request space passes
  | cleaning {passes : Nat} (hmode : first.spec.mode = .cleanRestore)
    (hstate : request.state = .cleaning)
    (hclean : (space.inventory settings.managedSelector).isEmpty = true)
    (hpasses : 2 + max 1 (3 * size) ≤ passes) : PassesLeft settings size first request space passes
  | loading {passes most : Nat} (hmode : first.spec.mode.isRestore = true)
    (hstate : request.state = .loading)
    (hleft : LeftAtMost settings first most request.currentStatus.snapshotNames space)
    (hpasses : 1 + max 1 most ≤ passes) : PassesLeft settings size first request space passes
  | reconciling {passes : Nat} (hmode : first.spec.mode.isRestore = true)
    (hstate : request.state = .reconciling) (hloaded : Loaded first space) (hpasses : 1 ≤ passes) :
    PassesLeft settings size first request space passes

namespace Respects

/-- Nothing between two passes takes a machine back. -/
theorem phase_le (h : Respects settings first request before after) (machine : String) :
    Imaging.phase settings (owner first) (order first before).task before machine ≤
      Imaging.phase settings (owner first) (order first before).task after machine := by
  refine Imaging.phase_mono (fun marker hmarker => ?_) fun hkept => ?_
  · obtain ⟨marker', hmarker', hname, hspec⟩ := h.markers marker hmarker
    refine ⟨marker', hmarker', fun name hfor => ?_⟩
    rw [← hfor]
    cases (order first before).task with
    | save => simp [Imaging.Task.markerKind, MarkerKind.isFor, hname]
    | restore =>
      have hat : marker'.at? ["spec", "virtualMachineSnapshotName"] =
          marker.at? ["spec", "virtualMachineSnapshotName"] := by
        rw [Resource.at?_cons, Resource.at?_cons, hspec]
      simp only [Imaging.Task.markerKind, MarkerKind.isFor, hat]
  · rw [Option.any_eq_true] at hkept
    obtain ⟨object, hobject, hrunning⟩ := hkept
    exact h.running (machine, object) (Dict.mem_entries_iff.2 hobject) hrunning

theorem order_task (h : Respects settings first request before after) :
    (order first after).task = (order first before).task := by
  rw [order, order, h.source]
  split <;> rfl

theorem leftAtMost (h : Respects settings first request before after) {recorded : Dict String}
    (hleft : LeftAtMost settings first most recorded before) :
    LeftAtMost settings first most recorded after := by
  intro set hset
  obtain ⟨set', hset', hmembers⟩ : ∃ set' ∈ (order first before).sets,
      MachineSet.members set' = MachineSet.members set := by
    cases hmode : first.spec.mode.isRestore with
    | false =>
      rw [order_eq_saveOrder hmode] at hset ⊢
      exact h.members hmode set hset
    | true =>
      refine ⟨set, ?_, rfl⟩
      rw [order, if_pos hmode, h.source] at hset
      rwa [order, if_pos hmode]
  rw [h.order_task, ← hmembers]
  refine (Imaging.left_le_left fun machine _ => ?_).trans (hleft set' hset')
  exact Imaging.stage_mono rfl (h.phase_le machine)

/-- A clean namespace stays clean. -/
theorem isEmpty (h : Respects settings first request before after)
    (hclean : (before.inventory settings.managedSelector).isEmpty = true) :
    (after.inventory settings.managedSelector).isEmpty = true := by
  obtain ⟨hmanaged, hconfigMaps, hsecrets⟩ := Space.isEmpty_inventory_iff.1 hclean
  refine Space.isEmpty_inventory_iff.2 ⟨fun kind => ?_, ?_, ?_⟩
  · exact Dict.values_eq_nil (h.managed kind (ManagedKind.mem_all kind)) (hmanaged kind)
  · exact Dict.values_eq_nil h.configMaps hconfigMaps
  · exact Dict.values_eq_nil h.secrets hsecrets

/-- What was loaded is there as long as the controllers are waited for. -/
theorem loaded (h : Respects settings first request before after)
    (hstate : request.state = .reconciling) (hloaded : Loaded first before) : Loaded first after := by
  intro bundle hbundle kind saved hsaved
  rw [h.source] at hbundle
  have hthere := hloaded bundle hbundle kind saved hsaved
  exact h.restored hstate kind (ManagedKind.mem_all kind) saved.anyName (Dict.mem_keys_iff.2 hthere)

end Respects

/-- Nothing between two passes takes a request back. -/
theorem PassesLeft.between (h : PassesLeft settings size first request before passes)
    (hrespects : Respects settings first request before after) :
    PassesLeft settings size first request after passes := by
  cases h with
  | ended hstate => exact .ended hstate
  | beginning hstate hpasses => exact .beginning hstate hpasses
  | saving hmode hstate hleft hpasses =>
    exact .saving hmode hstate (hrespects.leftAtMost hleft) hpasses
  | cleaning hmode hstate hclean hpasses =>
    exact .cleaning hmode hstate (hrespects.isEmpty hclean) hpasses
  | loading hmode hstate hleft hpasses =>
    exact .loading hmode hstate (hrespects.leftAtMost hleft) hpasses
  | reconciling hmode hstate hloaded hpasses =>
    exact .reconciling hmode hstate (hrespects.loaded hstate hloaded) hpasses

/-! ## What a pass does -/

/-- The work of a pass succeeds and leaves so many passes at most. -/
def Comes (settings : Settings) (size : Nat) (first : Request) (passes : Nat)
    (outcome : Except Failure Unit) (request : Request) (after : Cluster) : Prop :=
  outcome = .ok () ∧ Fresh first request after ∧
    PassesLeft settings size first request (after.space (home first)) passes

/-- A save that begins goes on to its machines. -/
theorem savePass_beginning (hfeasible : Feasible settings first)
    (hmode : first.spec.mode.isRestore = false) (hfresh : Fresh first request cluster)
    (hstate : request.state = .empty)
    (hsteady : Steady settings size first (cluster.space (home first)))
    (hfinished : Finished (cluster.space (home first))) (hpasses : max 1 (3 * size) ≤ passes) :
    Ensures obliging (savePass settings) request cluster (Comes settings size first passes) := by
  rw [ensures_savePass, if_pos hstate]
  refine Ensures.bind (transition_obliging hfresh) ?_ ?_
  · rintro _ request waiting ⟨-, hfresh, hstate, -, hwaiting⟩
    refine ensures_savePhase (fun _ => ?_) (by simp [hstate]) (by simp [hstate])
    refine (quiesce_obliging hfeasible.whole hfresh fun kind =>
      hfinished.resembles hwaiting kind (ManagedKind.mem_all kind)).mono ?_
    rintro outcome request' after ⟨houtcome, hfresh', hstate', hafter⟩
    have hleft := (hsteady.resembles (hwaiting.trans hafter)).leftAtMost
    exact ⟨houtcome, hfresh', .saving hmode hstate' (hleft _) hpasses⟩
  · rintro failure _ _ ⟨⟨⟩, -⟩

/-- A save with machines that are left comes further with them or is saved. -/
theorem savePass_saving (hfeasible : Feasible settings first)
    (hmode : first.spec.mode.isRestore = false) (hfresh : Fresh first request cluster)
    (hstate : request.state = .saving)
    (hsteady : Steady settings size first (cluster.space (home first)))
    (hleft : LeftAtMost settings first most request.currentStatus.snapshotNames
      (cluster.space (home first))) (hpasses : max 1 most ≤ passes + 1) :
    Ensures obliging (savePass settings) request cluster (Comes settings size first passes) := by
  rw [ensures_savePass, if_neg (by simp [hstate])]
  refine ensures_savePhase (by simp [hstate]) (fun _ => ?_) (by simp [hstate])
  refine (save_obliging hfeasible.whole hfeasible.markers hmode hfeasible.images hfresh hstate
    hsteady.smooth (hsteady.bundles hmode) hleft).mono ?_
  rintro outcome request' after ⟨houtcome, hfresh', hsaved | ⟨hstate', hmore, hleft'⟩⟩
  · refine ⟨houtcome, hfresh', .ended ?_⟩
    rw [hsaved]
    cases hkind : first.spec.mode with
    | save => rfl
    | restore | cleanRestore => simp [hkind, Mode.isRestore] at hmode
  · exact ⟨houtcome, hfresh', .saving hmode hstate' hleft' (by omega)⟩

section Restore

variable (hfeasible : Feasible settings first) (hmode : first.spec.mode.isRestore = true)
  (hfresh : Fresh first request cluster)
  (hsteady : Steady settings size first (cluster.space (home first)))
  (hsource : source? first (cluster.space (home first)) = some bundle)

include hfeasible hmode hfresh hsteady hsource

/-- A restore with machines that are left comes further with them or has its bundle loaded. -/
theorem restorePhase_loading (hstate : request.state = .loading)
    (hleft : LeftAtMost settings first most request.currentStatus.snapshotNames
      (cluster.space (home first))) (hpasses : max 1 most ≤ passes) :
    Ensures obliging (restorePhase settings (home first) bundle) request cluster
      (Comes settings size first passes) := by
  obtain ⟨_, hfound, hnamed⟩ := hsteady.source hmode
  obtain rfl := Option.some.inj (hsource.symm.trans hfound)
  refine ensures_restorePhase (by simp [hstate]) (fun _ => ?_) (by simp [hstate]) (by simp [hstate])
  refine (load_obliging hfeasible.whole hfeasible.markers hmode hfeasible.images hfresh hstate hsource
    hnamed hsteady.smooth hleft).mono ?_
  rintro outcome request' after ⟨houtcome, hfresh', ⟨hstate', hloaded⟩ | ⟨hstate', hmore, hleft'⟩⟩
  · exact ⟨houtcome, hfresh', .reconciling hmode hstate' hloaded (by omega)⟩
  · exact ⟨houtcome, hfresh', .loading hmode hstate' hleft' (by omega)⟩

omit hfeasible in
/-- A clean restore finds the namespace clean or cleans it. -/
theorem restorePhase_cleaning (hclean : first.spec.mode = .cleanRestore)
    (hstate : request.state = .cleaning) (hpasses : 1 + max 1 (3 * size) ≤ passes)
    (hmore : ¬ ((cluster.space (home first)).inventory settings.managedSelector).isEmpty = true →
      2 + max 1 (3 * size) ≤ passes) :
    Ensures obliging (restorePhase settings (home first) bundle) request cluster
      (Comes settings size first passes) := by
  refine ensures_restorePhase (fun _ => ?_) (by simp [hstate]) (by simp [hstate]) (by simp [hstate])
  refine (clean_obliging hfresh hsteady.named).mono ?_
  rintro outcome request' after ⟨houtcome, hfresh', hparts, hstate' | ⟨hfull, hstate', hcleaned⟩⟩
  · refine ⟨houtcome, hfresh', .loading hmode hstate' ?_ hpasses⟩
    have hfound : source? first (after.space (home first)) = some bundle :=
      (source?_congr (hparts .bundles (by simp) (by simp))).trans hsource
    exact (hsteady.leftAtMost _).congr
      ((order_eq_restoreOrder hmode hfound).trans (order_eq_restoreOrder hmode hsource).symm)
      (hparts .machines (by simp) (by simp)) (hparts .markers (by simp) (by simp))
  · exact ⟨houtcome, hfresh', .cleaning hclean hstate' hcleaned (hmore hfull)⟩

omit hfeasible in
/-- A restore whose controllers have finished is restored. -/
theorem restorePhase_reconciling (hstate : request.state = .reconciling)
    (hloaded : Loaded first (cluster.space (home first)))
    (hfinished : Finished (cluster.space (home first))) :
    Ensures obliging (restorePhase settings (home first) bundle) request cluster
      (Comes settings size first passes) := by
  refine ensures_restorePhase (by simp [hstate]) (by simp [hstate]) (fun _ => ?_) (by simp [hstate])
  refine (awaitRestored_obliging hfresh hsource hsteady.named hloaded fun kind =>
    hfinished kind (ManagedKind.mem_all kind)).mono ?_
  rintro outcome request' after ⟨houtcome, hfresh', hrestored⟩
  refine ⟨houtcome, hfresh', .ended ?_⟩
  rw [hrestored]
  cases hkind : first.spec.mode with
  | save => simp [hkind, Mode.isRestore] at hmode
  | restore | cleanRestore => rfl

/-- A restore that begins goes on to load its bundle, or to clean the namespace first. -/
theorem restoreFrom_beginning (hstate : request.state = .empty)
    (hpasses : first.spec.mode.passes size ≤ passes + 1) :
    Ensures obliging (restoreFrom settings (home first) bundle) request cluster
      (Comes settings size first passes) := by
  have hfound (beginning : Cluster)
      (hbeginning : Resembles (cluster.space (home first)) (beginning.space (home first))) :
      source? first (beginning.space (home first)) = some bundle :=
    (source?_congr (hbeginning.agree (by simp))).trans hsource
  rw [ensures_restoreFrom, if_pos hstate, ← hfresh.same.spec]
  cases hkind : first.spec.mode with
  | save => simp [hkind, Mode.isRestore] at hmode
  | restore =>
    rw [if_neg (by simp)]
    refine Ensures.bind (transition_obliging hfresh) ?_ ?_
    · rintro _ request beginning ⟨-, hfresh, hstate, -, hbeginning⟩
      have hsteady := hsteady.resembles hbeginning
      rw [hkind, Mode.passes] at hpasses
      exact restorePhase_loading hfeasible hmode hfresh hsteady (hfound _ hbeginning) hstate
        (hsteady.leftAtMost _) (by omega)
    · rintro failure _ _ ⟨⟨⟩, -⟩
  | cleanRestore =>
    rw [if_pos rfl]
    refine Ensures.bind (transition_obliging hfresh) ?_ ?_
    · rintro _ request beginning ⟨-, hfresh, hstate, -, hbeginning⟩
      rw [hkind, Mode.passes] at hpasses
      exact restorePhase_cleaning hmode hfresh (hsteady.resembles hbeginning) (hfound _ hbeginning)
        hkind hstate (by omega) fun _ => by omega
    · rintro failure _ _ ⟨⟨⟩, -⟩

omit hmode hsteady in
/-- A restore finds its bundle before anything else. -/
theorem restorePass_obliging {post : Except Failure Unit → Request → Cluster → Prop}
    (h : Ensures obliging (restoreFrom settings (home first) bundle) request cluster post) :
    Ensures obliging (restorePass settings) request cluster post := by
  rw [ensures_restorePass, hfeasible.whole.requestNamespace_eq hfresh.same]
  refine Activity.ensures_bind.2 (Activity.ensures_ofExcept.2 (Activity.then_ok.2 ?_))
  rw [Activity.ensures_bind, sourceBundle, Activity.ensures_bind, Activity.ensures_get,
    Activity.then_ok]
  dsimp only
  rw [← hfresh.same.spec, hfeasible.faultless]
  refine Cluster.ensures_call_bind_obliging (by simp) ?_
  have hperform : cluster.perform (.getBundle (home first) (first.spec.restoreSource.getD "")) =
      (.ok (some bundle), cluster) := by
    rw [Cluster.perform]
    exact congrArg (fun found => (Except.ok found, cluster)) hsource
  rw [hperform]
  exact h

end Restore

/-- A pass whose work succeeds leaves what its work leaves. -/
theorem reconcile_of_comes (hfresh : Fresh first request cluster)
    (hopen : request.state.isTerminal = false)
    (hsave : first.spec.mode.isRestore = false →
      Ensures obliging (savePass settings) request cluster (Comes settings size first passes))
    (hrestore : first.spec.mode.isRestore = true →
      Ensures obliging (restorePass settings) request cluster (Comes settings size first passes)) :
    Ensures obliging (reconcile settings) request cluster fun _ request' after =>
      Fresh first request' after ∧
        PassesLeft settings size first request' (after.space (home first)) passes := by
  refine ensures_reconcile (fun hend => absurd hend (by simp [hopen])) fun _ => ?_
  have hwork : Ensures obliging (pass settings request.spec.mode) request cluster
      (Comes settings size first passes) := by
    rw [← hfresh.same.spec]
    cases hkind : first.spec.mode with
    | save => exact hsave (by rw [hkind]; rfl)
    | restore | cleanRestore => exact hrestore (by rw [hkind]; rfl)
  refine hwork.mono ?_
  rintro _ request' after ⟨rfl, hafter⟩
  exact hafter

/-- Every pass takes a request further that is worked on while the cluster cooperates. -/
theorem PassesLeft.reconcile
    (h : PassesLeft settings size first request (cluster.space (home first)) passes)
    (hfeasible : Feasible settings first) (hfresh : Fresh first request cluster)
    (hfavourable : Favourable settings size first request (cluster.space (home first))) :
    Ensures obliging (reconcile settings) request cluster fun _ request' after =>
      Fresh first request' after ∧
        PassesLeft settings size first request' (after.space (home first)) (passes - 1) := by
  have hsteady := hfavourable.toSteady
  cases h with
  | ended hstate =>
    -- The goal is an end of the track, so the pass does nothing.
    refine ensures_reconcile (fun _ => ⟨hfresh, .ended hstate⟩) fun hopen => ?_
    rw [hstate] at hopen
    cases hkind : first.spec.mode <;> simp [hkind, Mode.goal, State.isTerminal] at hopen
  | beginning hstate hpasses =>
    refine reconcile_of_comes hfresh (by rw [hstate]; rfl) (fun hmode => ?_) fun hmode => ?_
    · refine savePass_beginning hfeasible hmode hfresh hstate hsteady
        (hfavourable.quiet hmode hstate) ?_
      cases hkind : first.spec.mode <;> simp only [hkind, Mode.passes] at hpasses <;> omega
    · obtain ⟨bundle, hsource, -⟩ := hsteady.source hmode
      refine restorePass_obliging hfeasible hfresh hsource ?_
      exact restoreFrom_beginning hfeasible hmode hfresh hsteady hsource hstate (by omega)
  | saving hmode hstate hleft hpasses =>
    refine reconcile_of_comes hfresh (by rw [hstate]; rfl) (fun _ => ?_) fun hrestore => ?_
    · exact savePass_saving hfeasible hmode hfresh hstate hsteady hleft (by omega)
    · exact absurd hrestore (by simp [hmode])
  | cleaning hmode hstate hclean hpasses =>
    have hrestore : first.spec.mode.isRestore = true := by rw [hmode]; rfl
    refine reconcile_of_comes hfresh (by rw [hstate]; rfl) (fun hsave => ?_) fun _ => ?_
    · exact absurd hsave (by simp [hrestore])
    · obtain ⟨bundle, hsource, -⟩ := hsteady.source hrestore
      refine restorePass_obliging hfeasible hfresh hsource ?_
      rw [ensures_restoreFrom, if_neg (by simp [hstate])]
      -- The namespace was cleaned and is still clean, so nothing has to be deleted again.
      exact restorePhase_cleaning hrestore hfresh hsteady hsource hmode hstate (by omega)
        fun hfull => absurd hclean hfull
  | loading hmode hstate hleft hpasses =>
    refine reconcile_of_comes hfresh (by rw [hstate]; rfl) (fun hsave => ?_) fun _ => ?_
    · exact absurd hsave (by simp [hmode])
    · obtain ⟨bundle, hsource, -⟩ := hsteady.source hmode
      refine restorePass_obliging hfeasible hfresh hsource ?_
      rw [ensures_restoreFrom, if_neg (by simp [hstate])]
      exact restorePhase_loading hfeasible hmode hfresh hsteady hsource hstate hleft (by omega)
  | reconciling hmode hstate hloaded hpasses =>
    refine reconcile_of_comes hfresh (by rw [hstate]; rfl) (fun hsave => ?_) fun _ => ?_
    · exact absurd hsave (by simp [hmode])
    · obtain ⟨bundle, hsource, -⟩ := hsteady.source hmode
      refine restorePass_obliging hfeasible hfresh hsource ?_
      rw [ensures_restoreFrom, if_neg (by simp [hstate])]
      exact restorePhase_reconciling hmode hfresh hsteady hsource hstate hloaded
        (hfavourable.settled hstate)

/-- After every run, as many passes are left at most as the mode takes and were not made yet. -/
theorem passesLeft_of_runs {start final : Cluster} {transcripts : List (List Exchange)}
    (hruns : Runs (cooperating settings size first) settings start transcripts final)
    (hfeasible : Feasible settings first) (hstored : start.stored first = some first)
    (hnew : first.state = .empty) :
    ∃ request, Fresh first request final ∧ PassesLeft settings size first request
      (final.space (home first)) (first.spec.mode.passes size - transcripts.length) := by
  induction hruns with
  | start => exact ⟨first, ⟨⟨rfl, rfl⟩, hstored⟩, .beginning hnew le_rfl⟩
  | @pass _ _ _ transcripts _ _ _ _ hbetween hgives hyields hpath ih =>
    obtain ⟨request, hfresh, hrest⟩ := ih
    obtain ⟨_, hbefore, hafter, hrespects, hfavourable⟩ := hbetween
    -- The pass is given the request as the last one has left it.
    obtain rfl := Option.some.inj (hfresh.stored.symm.trans hbefore)
    obtain rfl := Option.some.inj (hafter.symm.trans hgives)
    have hpass := (hrest.between hrespects).reconcile hfeasible ⟨hfresh.same, hafter⟩ hfavourable
    obtain ⟨hfresh', hrest'⟩ := hpass.ends hyields hpath
    refine ⟨_, hfresh', ?_⟩
    rwa [List.length_append, List.length_singleton, ← Nat.sub_sub]

/-- A request with images is stored in its goal after as many passes as its mode takes while the
cluster cooperates, if no set has more machines than a number. -/
theorem goal_of_runs {start final : Cluster} {transcripts : List (List Exchange)}
    (hfeasible : Feasible settings first) (hstored : start.stored first = some first)
    (hnew : first.state = .empty)
    (hruns : Runs (cooperating settings size first) settings start transcripts final)
    (hpasses : first.spec.mode.passes size ≤ transcripts.length) :
    ∃ request, final.stored first = some request ∧ SameCall first request ∧
      request.state = first.spec.mode.goal := by
  obtain ⟨request, hfresh, hrest⟩ := passesLeft_of_runs hruns hfeasible hstored hnew
  rw [Nat.sub_eq_zero_of_le hpasses] at hrest
  refine ⟨request, hfresh.stored, hfresh.same, ?_⟩
  -- Only a request in its goal has no pass left.
  generalize hnone : 0 = passes at hrest
  cases hrest with
  | ended hstate => exact hstate
  | beginning _ hleft => cases hkind : first.spec.mode <;> simp [hkind, Mode.passes] at hleft <;> omega
  | saving | cleaning | loading | reconciling => omega

/-! ## Requests over one machine -/

/-- The next version, for small versions without reading them. -/
def countedVersion (version : Option String) : String :=
  match (List.range 9).find? fun number => version = some (toString number) with
  | some number => toString (number + 1)
  | none => Cluster.nextVersion version

theorem countedVersion_eq (version : Option String) :
    countedVersion version = Cluster.nextVersion version := by
  rw [countedVersion]
  split
  case h_1 number hfind =>
    have hversion : version = some (toString number) := by simpa using List.find?_some hfind
    rw [hversion, Cluster.nextVersion, Option.bind_some, Text.toNat?_toString]
    rfl
  case h_2 => rfl

/-- Clock and cluster, with versions that are counted. -/
def counting : (question : Query) → Cluster → question.Answer × Cluster
  | .call (.updateStatus written), cluster =>
    match cluster.stored written with
    | none => (.error (.notFound written.anyName), cluster)
    | some old =>
      if old.metadata.resourceVersion ≠ written.metadata.resourceVersion then
        (.error (.conflict "stale resourceVersion"), cluster)
      else
        let metadata :=
          { old.metadata with
            resourceVersion := some (countedVersion old.metadata.resourceVersion) }
        let new : Request := { old with metadata, status := written.status }
        (.ok new, cluster.update (home written) fun space =>
          { space with requests := space.requests.insert written.anyName new })
  | question, cluster => Cluster.respond ⟨0, 0⟩ question cluster

theorem counting_eq (question : Query) (cluster : Cluster) :
    counting question cluster = Cluster.respond ⟨0, 0⟩ question cluster := by
  unfold counting
  split
  case h_1 written cluster =>
    simp only [Cluster.respond, Cluster.perform, Cluster.writeStatus, countedVersion_eq]
    rfl
  case h_2 => rfl

/-- A set with one machine. -/
def soleSet : Resource where
  metadata := { name := some "compute" }
  fields := .ofList [("spec", .object [("vmCount", .int 1)]),
    ("status", .object [("provisioningStatus", .object [("state", .str "Provisioned")]),
      ("vmHosts", .object [("vm-0", .object [])])])]

/-- A bundle with the set, and the image of its machine. -/
def soleBundle : Bundle where
  metadata := { name := some "weekly" }
  content := {
    resources := .ofList [(ManagedKind.vmSet.name, [soleSet])]
    snapshotNames := .ofList [("vm-0", "vm-0-weekly-0")] }

/-- A request with images, which restores from the bundle if it is a restore. -/
def soleRequest (mode : Mode) : Request where
  metadata := { name := some "nightly", ns := some "cloud", creationTimestamp := some ⟨0, false⟩ }
  spec := {
    mode
    restoreSource := if mode.isRestore then some "weekly" else none
    includeImages := true }

/-- A cluster with one machine, which is powered on, and with the request. -/
def soleCluster (mode : Mode) : Cluster :=
  ⟨.ofList [("cloud",
    { managed := .ofList [(ManagedKind.vmSet.name, .ofList [("compute", soleSet)])]
      bundles := if mode.isRestore then .ofList [("weekly", soleBundle)] else .empty
      machines := .ofList [("vm-0", ({} : Resource).patched Machine.powerOn)]
      requests := .ofList [("nightly", soleRequest mode)] })]⟩

/-- The platform is done with all that it is asked for, it starts all machines that are powered on,
and the controllers are done with all sets. -/
def served (space : Space) : Space :=
  { space with
    managed := space.managed.map (·.map (·.withField "status"
      (.object [("provisioningStatus", .object [("state", .str "Provisioned")]),
        ("vmHosts", .object [("vm-0", .object [])])])))
    machines := space.machines.map fun machine =>
      machine.withField "status" (.object [("ready", .bool (Machine.isKeptRunning machine))])
    snapshots := space.snapshots.map
      (·.withField "status" (.object [("readyToUse", .bool true)]))
    restores := space.restores.map
      (·.withField "status" (.object [("complete", .bool true)])) }

/-- The cluster once the platform was at work. -/
def servedCluster (cluster : Cluster) : Cluster := cluster.update "cloud" served

/-- The request as it is stored. -/
def soleCopy (mode : Mode) (cluster : Cluster) : Request :=
  (cluster.stored (soleRequest mode)).getD {}

/-- The cluster after some passes, with the platform at work between two passes. -/
def afterPasses (mode : Mode) : Nat → Cluster
  | 0 => soleCluster mode
  | passes + 1 =>
    ((reconcile {} (soleCopy mode (servedCluster (afterPasses mode passes)))).run counting
      (servedCluster (afterPasses mode passes))).2

theorem obliges_counting (question : Query) (cluster : Cluster) :
    cluster.Obliges ⟨question, (counting question cluster).1⟩ (counting question cluster).2 := by
  rw [counting_eq]
  cases question with
  | clock => exact .clock _
  | call c =>
    cases c with
    | runCommand ns text => exact .commanded ns text rfl
    | _ => exact .performed (by simp)

/-- What can be computed of a pass over the request while the cluster cooperates. -/
structure Ready (mode : Mode) (before after : Cluster) : Prop where
  stored : before.stored (soleRequest mode) = some (soleCopy mode after) ∧
    after.stored (soleRequest mode) = some (soleCopy mode after)
  respects : Respects {} (soleRequest mode) (soleCopy mode after) (before.space "cloud")
    (after.space "cloud")
  smooth : Smooth {} (soleRequest mode) (after.space "cloud")
  sizes : ∀ set ∈ (order (soleRequest mode) (after.space "cloud")).sets,
    (MachineSet.members set).length ≤ 1
  named : (after.space "cloud").Named
  bundles : (after.space "cloud").bundles =
    if mode.isRestore then .ofList [("weekly", soleBundle)] else .empty
  finished : Finished (after.space "cloud")

instance (mode : Mode) (before after : Cluster) : Decidable (Ready mode before after) :=
  decidable_of_iff (_ ∧ _ ∧ _ ∧ _ ∧ _ ∧ _ ∧ _)
    ⟨fun ⟨h₁, h₂, h₃, h₄, h₅, h₆, h₇⟩ => ⟨h₁, h₂, h₃, h₄, h₅, h₆, h₇⟩,
      fun h => ⟨h.stored, h.respects, h.smooth, h.sizes, h.named, h.bundles, h.finished⟩⟩

theorem ready_afterPasses {mode : Mode} {passes : Nat} (h : passes ∈ List.range (mode.passes 1)) :
    Ready mode (afterPasses mode passes) (servedCluster (afterPasses mode passes)) := by
  have hready : ∀ passes ∈ List.range (mode.passes 1),
      Ready mode (afterPasses mode passes) (servedCluster (afterPasses mode passes)) := by
    cases mode <;> decide +kernel
  exact hready passes h

/-- Who finds a pass ready finds that the cluster cooperates. -/
theorem Ready.between {mode : Mode} {before after : Cluster} (h : Ready mode before after) :
    (cooperating {} 1 (soleRequest mode)).between before after := by
  refine ⟨_, h.stored.1, h.stored.2, h.respects, {
    smooth := h.smooth
    sizes := h.sizes
    named := h.named
    bundles := fun hmode seconds bundle hbundle => ?_
    source := fun hmode => ⟨soleBundle, ?_, fun kind => ?_⟩
    quiet := fun _ _ => h.finished
    settled := fun _ => h.finished }⟩
  · have hnone : (after.space (home (soleRequest mode))).bundles = .empty :=
      h.bundles.trans (if_neg (by simpa [soleRequest] using hmode))
    rw [hnone] at hbundle
    cases hbundle
  · have hmode : mode.isRestore = true := hmode
    have hweekly : (after.space (home (soleRequest mode))).bundles =
        .ofList [("weekly", soleBundle)] := h.bundles.trans (if_pos hmode)
    rw [source?, hweekly]
    cases mode with
    | save => cases hmode
    | restore | cleanRestore => decide
  · cases kind <;> decide

/-- A request over one machine is stored in its goal after as many passes as its mode takes. -/
def Completes (mode : Mode) : Prop :=
  ∃ transcripts final request,
    Runs (cooperating {} 1 (soleRequest mode)) {} (soleCluster mode) transcripts final ∧
      transcripts.length = mode.passes 1 ∧
      Cluster.stored final (soleRequest mode) = some request ∧ request.state = mode.goal

theorem soleRequest_completes :
    Completes .save ∧ Completes .restore ∧ Completes .cleanRestore := by
  have hruns : ∀ mode, ∀ passes ≤ Mode.passes mode 1,
      ∃ transcripts, transcripts.length = passes ∧ Runs (cooperating {} 1 (soleRequest mode)) {}
        (soleCluster mode) transcripts (afterPasses mode passes) := by
    intro mode passes hpasses
    induction passes with
    | zero => exact ⟨[], rfl, .start⟩
    | succ passes ih =>
      obtain ⟨transcripts, hlength, hruns⟩ := ih (by omega)
      have hready := ready_afterPasses (List.mem_range.2 hpasses)
      exact ⟨_, by simp [hlength],
        hruns.pass_transcript obliges_counting hready.between hready.stored.2⟩
  have hfeasible : ∀ mode, Feasible {} (soleRequest mode) := fun mode =>
    { whole := ⟨rfl, rfl, rfl⟩
      images := rfl
      faultless := by cases mode <;> rfl
      selectable := by cases mode <;> exact ⟨by decide, by decide, by decide⟩
      labels := by decide }
  have hcompletes : ∀ mode, Completes mode := by
    intro mode
    obtain ⟨transcripts, hlength, hruns⟩ := hruns mode _ le_rfl
    obtain ⟨request, hstored, -, hstate⟩ := goal_of_runs (hfeasible mode)
      (by cases mode <;> decide) rfl hruns hlength.ge
    exact ⟨transcripts, _, request, hruns, hlength, hstored, hstate⟩
  exact ⟨hcompletes _, hcompletes _, hcompletes _⟩

/-- No request over one machine is stored in its goal before. -/
example (mode : Mode) :
    (soleCopy mode (afterPasses mode (mode.passes 1 - 1))).state ≠ mode.goal := by
  cases mode <;> decide +kernel

end Saga

end NamespaceBackup
