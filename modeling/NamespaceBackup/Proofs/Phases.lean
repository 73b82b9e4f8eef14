import NamespaceBackup.Proofs.Gates
import NamespaceBackup.Proofs.Stages

/-!
# Phases without trouble

Without trouble every phase of a request does its work: a save finds its controllers finished, visits
its machines and makes its bundle; a restore finds nothing to delete or deletes it, loads its bundle,
visits its machines and finds everything back.

## Main definitions

* `Imaging.Order`, `Saga.order`: what a request visits machines for
* `Saga.LeftAtMost`: the stages that are left to each set of machines

## Main results

* `Saga.quiesce_obliging`, `Saga.save_obliging`: the phases of a save
* `Saga.clean_obliging`, `Saga.load_obliging`, `Saga.awaitRestored_obliging`: the phases of a restore
-/

namespace NamespaceBackup

open Activity (Ensures)
open Cluster (home obliging)
open Space (Part Agree)

/-- What machines are visited for: what is done, to which sets, and whether they leave their clusters
for it. -/
structure Imaging.Order where
  task : Imaging.Task
  sets : List Resource
  fencing : Bool

/-- A bundle under a free name is made. -/
theorem Cluster.perform_createBundle {cluster : Cluster} {ns : String} {bundle : Bundle}
    (h : (cluster.space ns).bundles.find? bundle.anyName = none) :
    cluster.perform (.createBundle ns bundle) =
      (.ok (), cluster.withSpace ns { cluster.space ns with
        bundles := (cluster.space ns).bundles.insert bundle.anyName bundle }) := by
  simp only [perform, addOrFail, commit, Dict.contains, h, Option.isSome_none, Bool.false_eq_true,
    if_false]
  rfl

theorem Dict.contains_modify {α : Type} (dict : Dict α) (name key : String) (change : α → α) :
    (dict.modify name change).contains key = dict.contains key := by
  rw [modify]
  split
  case h_1 value hfind =>
    rw [contains_insert]
    by_cases heq : name = key
    · subst heq
      simp [contains, hfind]
    · simp [heq]
  case h_2 => rfl

/-- Loading an object keeps what is there, and puts the object there under its name. -/
theorem Saga.contains_loadInto {ns reason : String} {kind : ManagedKind} (objects : Dict Resource)
    (saved : Resource) (key : String) :
    (loadInto ns reason kind objects saved).contains key =
      (decide ((saved.reloaded ns).anyName = key) || objects.contains key) := by
  rw [loadInto]
  split
  · rw [Dict.contains_modify, Space.applied, Dict.contains_insert]
  · rw [Space.applied, Dict.contains_insert]

/-- Every object of a bundle that has a name is in the loaded namespace. -/
theorem Space.contains_loaded {ns reason : String} {content : Bundle.Content} {kind : ManagedKind}
    {space : Space} {saved : Resource} (hsaved : saved ∈ content.objects kind.name)
    (hnamed : saved.metadata.name.isSome = true) :
    ((space.loaded ns reason content).ofKind kind.name).contains saved.anyName = true := by
  rw [ofKind_loaded]
  refine foldl_of_mem (P := fun objects : Dict Resource => objects.contains saved.anyName = true)
    hsaved (fun objects => ?_) (fun objects other hobjects => ?_) _
  · simp [Saga.contains_loadInto, saved.anyName_reloaded hnamed]
  · simp [Saga.contains_loadInto, hobjects]

namespace Saga

/-- The request that machines are visited for. -/
def owner (request : Request) : Imaging.Request where
  ns := home request
  name := request.anyName
  marker := request.marker?.getD ""

/-- A request has all that its work needs. -/
structure Whole (request : Request) : Prop where
  ns : request.metadata.ns.isSome = true
  name : request.metadata.name.isSome = true
  created : request.metadata.creationTimestamp.isSome = true

/-- The bundle that a request restores from. -/
def source? (request : Request) (space : Space) : Option Bundle :=
  space.bundles.find? (request.spec.restoreSource.getD "")

/-- What a save visits the machines of a namespace for. -/
def saveOrder (space : Space) : Imaging.Order where
  task := .save
  sets := (space.ofKind ManagedKind.vmSet.name).values
  fencing := isFencing (space.ofKind ManagedKind.controlPlane.name).values.head?

/-- What a restore visits machines for. -/
def restoreOrder (bundle : Bundle) : Imaging.Order where
  task := .restore bundle.anyName bundle.content.snapshotNames
  sets := bundle.content.objects ManagedKind.vmSet.name
  fencing := isFencing (bundle.content.objects ManagedKind.controlPlane.name).head?

/-- What a request visits machines for. -/
def order (request : Request) (space : Space) : Imaging.Order :=
  if request.spec.mode.isRestore then restoreOrder ((source? request space).getD {})
  else saveOrder space

/-- At most so many stages are left to each set of machines of a request. -/
def LeftAtMost (settings : Settings) (request : Request) (most : Nat) (recorded : Dict String)
    (space : Space) : Prop :=
  ∀ set ∈ (order request space).sets, Imaging.left settings (owner request)
    (order request space).task recorded space (MachineSet.members set) ≤ most

/-- A visit to the machines of a request finds no trouble. -/
def Smooth (settings : Settings) (request : Request) (space : Space) : Prop :=
  Imaging.Smooth settings (owner request) (order request space).task (order request space).sets
    (order request space).fencing space

instance (settings : Settings) (request : Request) (space : Space) :
    Decidable (Smooth settings request space) :=
  inferInstanceAs (Decidable (Imaging.Smooth settings (owner request) (order request space).task
    (order request space).sets (order request space).fencing space))

variable {settings : Settings} {first request : Request} {cluster after : Cluster}
  {before later : Space} {bundle : Bundle} {recorded : Dict String} {most : Nat} {part : Part}

/-! ## Orders -/

theorem order_eq_saveOrder (hmode : first.spec.mode.isRestore = false) (space : Space) :
    order first space = saveOrder space := by
  simp [order, hmode]

theorem order_eq_restoreOrder (hmode : first.spec.mode.isRestore = true)
    (hsource : source? first before = some bundle) : order first before = restoreOrder bundle := by
  simp [order, hmode, hsource]

theorem Resembles.agree (h : Resembles before later) (hpart : part ≠ .requests) :
    Agree part later before := by
  obtain ⟨_, rfl⟩ := h
  cases part <;> first | exact absurd rfl hpart | simp [Agree]

theorem source?_congr (hbundles : Agree .bundles later before) :
    source? first later = source? first before := by
  rw [source?, source?, show later.bundles = before.bundles from hbundles]

/-- What a request visits machines for depends on content and bundles alone. -/
theorem order_congr (hcontent : Agree .content later before) (hbundles : Agree .bundles later before) :
    order first later = order first before := by
  rw [order, order, saveOrder, saveOrder, source?_congr hbundles, hcontent.ofKind_eq,
    hcontent.ofKind_eq]

/-- It matters to a visit only what it is for, and which machines and which markers there are. -/
theorem Smooth.congr (h : Smooth settings first before)
    (horder : order first later = order first before) (hmachines : Agree .machines later before)
    (hmarkers : Agree .markers later before) : Smooth settings first later := by
  rw [Smooth, horder]
  exact Imaging.Smooth.congr h hmachines hmarkers

theorem LeftAtMost.congr (h : LeftAtMost settings first most recorded before)
    (horder : order first later = order first before) (hmachines : Agree .machines later before)
    (hmarkers : Agree .markers later before) : LeftAtMost settings first most recorded later := by
  rw [LeftAtMost, horder]
  intro set hset
  rw [Imaging.left_congr hmachines hmarkers]
  exact h set hset

theorem LeftAtMost.resembles (h : LeftAtMost settings first most recorded before)
    (hresembles : Resembles before later) : LeftAtMost settings first most recorded later :=
  h.congr (order_congr (hresembles.agree (by simp)) (hresembles.agree (by simp)))
    (hresembles.agree (by simp)) (hresembles.agree (by simp))

/-! ## Requests that have all they need -/

theorem Whole.requestNamespace_eq (h : Whole first) (hsame : SameCall first request) :
    requestNamespace request = .ok (home first) := by
  obtain ⟨ns, hns⟩ := Option.isSome_iff_exists.1 h.ns
  rw [requestNamespace, ← hsame.ns_eq, hns, home, hns, Option.getD_some]

theorem Whole.requestMarker_eq (h : Whole first) (hsame : SameCall first request) :
    requestMarker request = .ok (owner first).marker := by
  obtain ⟨name, hname⟩ := Option.isSome_iff_exists.1 h.name
  obtain ⟨created, hcreated⟩ := Option.isSome_iff_exists.1 h.created
  have hmarker : first.marker? = some (name ++ "-" ++ toString created.seconds) := by
    simp [Request.marker?, hname, hcreated]
  rw [requestMarker, ← hsame.marker?_eq.1, owner, hmarker]
  rfl

theorem owner_eq (hsame : SameCall first request) :
    { ns := home first, name := request.anyName, marker := (owner first).marker } = owner first := by
  rw [← hsame.marker?_eq.2]
  rfl

/-! ## What all phases do -/

section Parts

variable {α : Type} {post : Except Failure α → Request → Cluster → Prop}

/-- What is collected before the rest of a pass is what the namespace holds. -/
theorem collect_bind_obliging {ns : String} {f : Inventory → Pass α}
    (hf : Ensures obliging (f ((cluster.space ns).inventory settings.managedSelector)) request
      cluster post) : Ensures obliging (collect settings ns >>= f) request cluster post := by
  have hcollect := Cluster.ensures_obliging (Inventory.collect_asks ns settings.managedSelector)
    (fun _ _ hlisting => nomatch hlisting)
    (Inventory.collect_performs ns settings.managedSelector request cluster)
  refine Ensures.bind hcollect ?_ ?_
  · rintro inventory _ _ ⟨hinventory, rfl, rfl⟩
    obtain rfl := Except.ok.inj hinventory
    exact hf
  · rintro failure _ _ ⟨⟨⟩, -⟩

/-- A visit to the machines of a request succeeds and takes them further. -/
theorem runPass_obliging (request : Request) (hlabels : Imaging.Labels settings (owner first))
    (hsmooth : Smooth settings first (cluster.space (home first)))
    (hleft : LeftAtMost settings first most recorded (cluster.space (home first))) :
    Ensures obliging (Activity.within recorded (Imaging.runPass settings (owner first)
      (order first (cluster.space (home first))).task (order first (cluster.space (home first))).sets
      (order first (cluster.space (home first))).fencing)) request cluster
      fun outcome request' after => ∃ pending recorded', outcome = .ok (pending, recorded') ∧
        request' = request ∧
        (∀ part ≠ .machines, part ≠ .markers →
          Agree part (after.space (home first)) (cluster.space (home first))) ∧
        LeftAtMost settings first (most - 1) recorded' (after.space (home first)) ∧
        (pending ≠ [] → 1 < most) := by
  refine Activity.ensures_within.2 (Ensures.mono (Imaging.runPass_advances hlabels hsmooth) ?_)
  rintro _ recorded' after ⟨pending, rfl, hvisited⟩
  have hparts : ∀ part ≠ .machines, part ≠ .markers →
      Agree part (after.space (home first)) (cluster.space (home first)) := hvisited.handled.parts
  obtain ⟨hfewer, hmore⟩ := hvisited.left_le hleft
  refine ⟨pending, recorded', rfl, rfl, hparts, ?_, hmore⟩
  rw [LeftAtMost, order_congr (hparts .content (by simp) (by simp))
    (hparts .bundles (by simp) (by simp))]
  exact hfewer

/-- A visit that leaves machines pending writes down who is recorded, and keeps the state. -/
theorem writeStatus_visited_obliging {message : String} (hfresh : Fresh first request cluster)
    (hleft : LeftAtMost settings first most recorded (cluster.space (home first))) :
    Ensures obliging
      (writeStatus { request.currentStatus with snapshotNames := recorded } message) request cluster
      fun outcome request' after => outcome = .ok () ∧ Fresh first request' after ∧
        request'.state = request.state ∧ LeftAtMost settings first most
          request'.currentStatus.snapshotNames (after.space (home first)) := by
  refine (writeStatus_obliging hfresh).mono ?_
  rintro outcome request' after ⟨houtcome, hfresh', hstate, hnames, hresembles⟩
  refine ⟨houtcome, hfresh', hstate, ?_⟩
  rw [hnames]
  exact hleft.resembles hresembles

end Parts

/-! ## The phases of a save -/

/-- A save whose controllers have finished goes on to its machines. -/
theorem quiesce_obliging (hwhole : Whole first) (hfresh : Fresh first request cluster)
    (hfinished : ∀ kind : ManagedKind,
      ∀ object ∈ ((cluster.space (home first)).ofKind kind.name).values,
        kind.isFinished object = true) :
    Ensures obliging (quiesce settings) request cluster fun outcome request' after =>
      outcome = .ok () ∧ Fresh first request' after ∧ request'.state = .saving ∧
        Resembles (cluster.space (home first)) (after.space (home first)) := by
  rw [quiesce, Activity.ensures_bind, Activity.ensures_get, Activity.then_ok,
    hwhole.requestNamespace_eq hfresh.same]
  refine collect_bind_obliging ?_
  have hquiesced : (Quiescence.evaluate ((cluster.space (home first)).inventory
      settings.managedSelector)).quiesced = true := by
    refine Quiescence.quiesced_evaluate.2 fun kind object hobject => hfinished kind object ?_
    rwa [← objects_inventory]
  rw [if_pos hquiesced]
  refine (transition_obliging hfresh).mono ?_
  rintro outcome request' after ⟨houtcome, hfresh', hstate, -, hresembles⟩
  exact ⟨houtcome, hfresh', hstate, hresembles⟩

/-- No bundle but the request's own has a name that the request's bundle may get. -/
def OwnBundles (settings : Settings) (request : Request) (space : Space) : Prop :=
  ∀ (seconds : Int) bundle,
    space.bundles.find? (request.anyName ++ "-" ++ toString seconds) = some bundle →
      Selector.selects (settings.markerSelector (owner request).marker) bundle.metadata = true

/-- There is a bundle for the request, or one can be made. -/
theorem ensureBundle_obliging {name : String} {inventory : Inventory}
    (hname : name = first.anyName)
    (hown : OwnBundles settings first (cluster.space (home first))) :
    Ensures obliging (ensureBundle settings (home first) name (owner first).marker inventory recorded)
      request cluster fun outcome request' after => (∃ bundleName, outcome = .ok bundleName) ∧
        request' = request ∧
        Agree .requests (after.space (home first)) (cluster.space (home first)) := by
  subst hname
  refine Cluster.ensures_call_bind_obliging (by simp) ?_
  have hperform : cluster.perform (.findBundle (home first)
      (settings.markerSelector (owner first).marker)) = (.ok (List.find?
        (Selector.selects (settings.markerSelector (owner first).marker) ·.metadata)
        (cluster.space (home first)).bundles.values), cluster) := rfl
  rw [hperform]
  cases hfind : List.find? (Selector.selects (settings.markerSelector (owner first).marker) ·.metadata)
    (cluster.space (home first)).bundles.values with
  | some bundle => exact ⟨⟨_, rfl⟩, rfl, .refl _ _⟩
  | none =>
    refine Activity.then_ok.2 ?_
    refine Activity.ensures_bind.2 (Activity.ensures_now.2 ⟨trivial, ?_⟩)
    rintro now _ ⟨⟩
    have hfree : (cluster.space (home first)).bundles.find?
        (newBundle settings (home first) first.anyName (owner first).marker
          (first.anyName ++ "-" ++ toString now.seconds) inventory recorded).anyName = none := by
      -- A bundle of that name would have been found.
      refine Option.eq_none_iff_forall_ne_some.2 fun bundle hbundle => ?_
      have hmem := Dict.mem_values_iff.2 ⟨_, hbundle⟩
      exact List.find?_eq_none.1 hfind bundle hmem (hown now.seconds bundle hbundle)
    refine Activity.then_ok.2 (Cluster.ensures_call_bind_obliging (by simp) ?_)
    rw [Cluster.perform_createBundle hfree]
    refine ⟨⟨_, rfl⟩, rfl, ?_⟩
    rw [Cluster.space_withSpace]
    rfl

/-- A save without pending machines is saved. -/
theorem finishSave_obliging {inventory : Inventory} {status : Request.Status}
    (hfresh : Fresh first request cluster)
    (hown : OwnBundles settings first (cluster.space (home first))) :
    Ensures obliging (finishSave settings (home first) request.anyName (owner first).marker inventory
      status) request cluster fun outcome request' after =>
        outcome = .ok () ∧ Fresh first request' after ∧ request'.state = .saved := by
  refine Ensures.bind (ensureBundle_obliging hfresh.same.marker?_eq.2.symm hown) ?_ ?_
  · rintro bundleName _ made ⟨-, rfl, hrequests⟩
    have hfresh := hfresh.congr hrequests
    refine Activity.ensures_bind.2 (Activity.ensures_now.2 ⟨trivial, ?_⟩)
    rintro now _ ⟨⟩
    refine Activity.then_ok.2 ((writeStatus_obliging hfresh).mono ?_)
    rintro outcome request' after ⟨houtcome, hfresh', hstate, -⟩
    exact ⟨houtcome, hfresh', hstate⟩
  · rintro failure _ _ ⟨⟨_, ⟨⟩⟩, -⟩

/-- A save comes a step further with its machines, or is saved. -/
theorem save_obliging (hwhole : Whole first) (hlabels : Imaging.Labels settings (owner first))
    (hmode : first.spec.mode.isRestore = false) (himages : first.spec.includeImages = true)
    (hfresh : Fresh first request cluster) (hstate : request.state = .saving)
    (hsmooth : Smooth settings first (cluster.space (home first)))
    (hown : OwnBundles settings first (cluster.space (home first)))
    (hleft : LeftAtMost settings first most request.currentStatus.snapshotNames
      (cluster.space (home first))) :
    Ensures obliging (save settings) request cluster fun outcome request' after =>
      outcome = .ok () ∧ Fresh first request' after ∧ (request'.state = .saved ∨
        request'.state = .saving ∧ 1 < most ∧ LeftAtMost settings first (most - 1)
          request'.currentStatus.snapshotNames (after.space (home first))) := by
  rw [save, Activity.ensures_bind, Activity.ensures_get, Activity.then_ok]
  dsimp only
  rw [hwhole.requestNamespace_eq hfresh.same, hwhole.requestMarker_eq hfresh.same]
  refine collect_bind_obliging ?_
  rw [if_pos (hfresh.same.spec ▸ himages), takeImages, owner_eq hfresh.same]
  have hsets : ((cluster.space (home first)).inventory settings.managedSelector).vmSets =
      (saveOrder (cluster.space (home first))).sets := objects_inventory _ _ .vmSet
  have hfencing :
      isFencing ((cluster.space (home first)).inventory settings.managedSelector).controlPlane =
        (saveOrder (cluster.space (home first))).fencing := by
    rw [Inventory.controlPlane, objects_inventory]
    rfl
  have hvisit := runPass_obliging request hlabels hsmooth hleft
  rw [order_eq_saveOrder hmode, ← hsets, ← hfencing] at hvisit
  refine Ensures.bind hvisit ?_ ?_
  · rintro _ _ visited ⟨pending, recorded, ⟨⟩, rfl, hparts, hleft, hmore⟩
    have hfresh := hfresh.congr (hparts .requests (by simp) (by simp))
    dsimp only
    by_cases hpending : pending = []
    · -- Nobody is pending, so the bundle is made.
      rw [if_pos (by simp [hpending])]
      have hbundles : Agree .bundles (visited.space (home first)) (cluster.space (home first)) :=
        hparts .bundles (by simp) (by simp)
      have hown : OwnBundles settings first (visited.space (home first)) := by
        rw [OwnBundles, show (visited.space (home first)).bundles = _ from hbundles]
        exact hown
      refine (finishSave_obliging hfresh hown).mono ?_
      rintro outcome request' after ⟨houtcome, hfresh', hsaved⟩
      exact ⟨houtcome, hfresh', .inl hsaved⟩
    · rw [if_neg (by simp [hpending])]
      refine (writeStatus_visited_obliging hfresh hleft).mono ?_
      rintro outcome request' after ⟨houtcome, hfresh', hstate', hleft'⟩
      exact ⟨houtcome, hfresh', .inr ⟨hstate'.trans hstate, hmore hpending, hleft'⟩⟩
  · rintro failure _ _ ⟨_, _, ⟨⟩, -⟩

/-! ## The phases of a restore -/

/-- A clean restore goes on to load its bundle, or deletes what is left. -/
theorem clean_obliging (hfresh : Fresh first request cluster)
    (hnamed : (cluster.space (home first)).Named) :
    Ensures obliging (clean settings (home first)) request cluster fun outcome request' after =>
      outcome = .ok () ∧ Fresh first request' after ∧
        (∀ part ≠ .content, part ≠ .requests →
          Agree part (after.space (home first)) (cluster.space (home first))) ∧
        (request'.state = .loading ∨
          ¬ ((cluster.space (home first)).inventory settings.managedSelector).isEmpty = true ∧
          request'.state = .cleaning ∧
          ((after.space (home first)).inventory settings.managedSelector).isEmpty = true) := by
  refine collect_bind_obliging ?_
  by_cases hempty :
      ((cluster.space (home first)).inventory settings.managedSelector).isEmpty = true
  · -- Only a pass that finds nothing to delete goes on.
    rw [Inventory.clear, if_pos hempty, pure_bind, if_pos rfl]
    refine (transition_obliging hfresh).mono ?_
    rintro outcome request' after ⟨houtcome, hfresh', hstate, -, hresembles⟩
    exact ⟨houtcome, hfresh', fun part _ hpart => hresembles.agree hpart, .inl hstate⟩
  · have hclear := Cluster.ensures_obliging (Inventory.clear_asks (home first) _)
      (by rintro _ _ ⟨⟩) (Inventory.clear_alone hempty
        Inventory.knowsKinds_gather request cluster)
    refine Ensures.bind hclear ?_ ?_
    · rintro _ _ cleared ⟨⟨⟩, rfl, hcleared⟩
      have hparts : ∀ part ≠ .content,
          Agree part (cleared.space (home first)) (cluster.space (home first)) := by
        intro part hpart
        rw [hcleared]
        cases part <;> first | exact absurd rfl hpart | simp [Agree, Space.cleared]
      refine (transition_obliging (hfresh.congr (hparts .requests (by simp)))).mono ?_
      rintro outcome request' after ⟨houtcome, hfresh', hstate, -, hresembles⟩
      refine ⟨houtcome, hfresh', fun part hcontent hrequests => ?_, .inr ⟨hempty, hstate, ?_⟩⟩
      · exact (hresembles.agree hrequests).trans (hparts part hcontent)
      · rw [hresembles.inventory_eq, hcleared]
        exact Space.isEmpty_inventory_cleared hnamed _
    · rintro failure _ _ ⟨⟨⟩, -⟩

/-- Everything that a request restores is in a namespace. -/
def Loaded (request : Request) (space : Space) : Prop :=
  ∀ bundle, source? request space = some bundle → ∀ kind : ManagedKind,
    ∀ saved ∈ bundle.content.objects kind.name,
      (space.ofKind kind.name).contains saved.anyName = true

/-- A restore loads its bundle, and comes a step further with its machines or has nothing left to
load. -/
theorem load_obliging (hwhole : Whole first) (hlabels : Imaging.Labels settings (owner first))
    (hmode : first.spec.mode.isRestore = true) (himages : first.spec.includeImages = true)
    (hfresh : Fresh first request cluster) (hstate : request.state = .loading)
    (hsource : source? first (cluster.space (home first)) = some bundle)
    (hnamed : ∀ kind : ManagedKind, ∀ saved ∈ bundle.content.objects kind.name,
      saved.metadata.name.isSome = true)
    (hsmooth : Smooth settings first (cluster.space (home first)))
    (hleft : LeftAtMost settings first most request.currentStatus.snapshotNames
      (cluster.space (home first))) :
    Ensures obliging (load settings (home first) bundle) request cluster fun outcome request' after =>
      outcome = .ok () ∧ Fresh first request' after ∧
        (request'.state = .reconciling ∧ Loaded first (after.space (home first)) ∨
          request'.state = .loading ∧ 1 < most ∧ LeftAtMost settings first (most - 1)
            request'.currentStatus.snapshotNames (after.space (home first))) := by
  rw [load, Activity.ensures_bind, Activity.ensures_get, Activity.then_ok]
  dsimp only
  have hload := Cluster.ensures_obliging (loadObjects_asks (home first)
      ("Restored by BackupRequest " ++ request.anyName) bundle.content)
    (by rintro _ _ ⟨⟩) (loadObjects_changes request cluster)
  refine Ensures.bind hload ?_ ?_
  · rintro _ request loaded ⟨-, rfl, hloaded⟩
    have hparts : ∀ part ≠ .content,
        Agree part (loaded.space (home first)) (cluster.space (home first)) := by
      intro part hpart
      rw [hloaded]
      cases part <;> first | exact absurd rfl hpart | simp [Agree, Space.loaded]
    have hfresh := hfresh.congr (hparts .requests (by simp))
    -- Loading touches no machine, so the visit finds what the pass has found.
    have hfound : source? first (loaded.space (home first)) = some bundle :=
      (source?_congr (hparts .bundles (by simp))).trans hsource
    have horder : order first (loaded.space (home first)) = order first (cluster.space (home first)) :=
      (order_eq_restoreOrder hmode hfound).trans (order_eq_restoreOrder hmode hsource).symm
    have hsmooth := hsmooth.congr horder (hparts .machines (by simp)) (hparts .markers (by simp))
    have hleft := hleft.congr horder (hparts .machines (by simp)) (hparts .markers (by simp))
    rw [if_pos (hfresh.same.spec ▸ himages), hwhole.requestMarker_eq hfresh.same]
    refine Activity.ensures_bind.2 (Activity.ensures_ofExcept.2 (Activity.then_ok.2 ?_))
    have hvisit := runPass_obliging request hlabels hsmooth hleft
    rw [order_eq_restoreOrder hmode hfound, ← owner_eq hfresh.same] at hvisit
    refine Ensures.bind hvisit ?_ ?_
    · rintro _ _ visited ⟨pending, recorded, ⟨⟩, rfl, hvisited, hleft, hmore⟩
      have hfresh := hfresh.congr (hvisited .requests (by simp) (by simp))
      dsimp only
      by_cases hpending : pending = []
      · -- Nobody is pending, so everything is loaded.
        rw [if_pos (by simp [hpending])]
        refine (writeStatus_obliging hfresh).mono ?_
        rintro outcome request' after ⟨houtcome, hfresh', hstate', -, hresembles⟩
        refine ⟨houtcome, hfresh', .inl ⟨hstate', ?_⟩⟩
        have hcontent : Agree .content (after.space (home first)) (loaded.space (home first)) :=
          (hresembles.agree (by simp)).trans (hvisited .content (by simp) (by simp))
        have hbundles : Agree .bundles (after.space (home first)) (loaded.space (home first)) :=
          (hresembles.agree (by simp)).trans (hvisited .bundles (by simp) (by simp))
        intro bundle' hbundle' kind saved hsaved
        rw [source?_congr hbundles, hfound] at hbundle'
        obtain rfl := Option.some.inj hbundle'
        rw [hcontent.ofKind_eq, hloaded]
        exact Space.contains_loaded hsaved (hnamed kind saved hsaved)
      · rw [if_neg (by simp [hpending])]
        refine (writeStatus_visited_obliging hfresh hleft).mono ?_
        rintro outcome request' after ⟨houtcome, hfresh', hstate', hleft'⟩
        exact ⟨houtcome, hfresh', .inr ⟨hstate'.trans hstate, hmore hpending, hleft'⟩⟩
    · rintro failure _ _ ⟨_, _, ⟨⟩, -⟩
  · rintro failure _ _ ⟨⟨⟩, -⟩

/-- A restore finds everything back once its controllers have finished. -/
theorem awaitRestored_obliging (hfresh : Fresh first request cluster)
    (hsource : source? first (cluster.space (home first)) = some bundle)
    (hnamed : (cluster.space (home first)).Named) (hloaded : Loaded first (cluster.space (home first)))
    (hfinished : ∀ kind : ManagedKind,
      ∀ object ∈ ((cluster.space (home first)).ofKind kind.name).values,
        kind.isFinished object = true) :
    Ensures obliging (awaitRestored settings (home first) bundle) request cluster
      fun outcome request' after =>
        outcome = .ok () ∧ Fresh first request' after ∧ request'.state = .restored := by
  refine collect_bind_obliging ?_
  have hquiesced : (Quiescence.evaluateRestored bundle.content
      ((cluster.space (home first)).inventory settings.managedSelector)).quiesced = true := by
    refine Quiescence.quiesced_evaluateRestored.2 fun kind saved hsaved => ?_
    obtain ⟨object, hobject⟩ :=
      Option.isSome_iff_exists.1 (hloaded bundle hsource kind saved hsaved)
    have hname : object.anyName = saved.anyName :=
      (hnamed.managed kind (ManagedKind.mem_all kind)).anyName (Dict.mem_entries_iff.2 hobject)
    rw [objects_inventory]
    -- The object is listed under its own name, and whatever has that name has finished.
    refine Quiescence.isBack_of_forall ?_ (hfinished kind)
    exact ⟨object, Dict.mem_values_iff.2 ⟨_, hobject⟩, hname⟩
  rw [if_pos hquiesced, Activity.ensures_bind, Activity.ensures_get, Activity.then_ok,
    Activity.ensures_bind, Activity.ensures_now]
  refine ⟨trivial, ?_⟩
  rintro now _ ⟨⟩
  refine Activity.then_ok.2 ((writeStatus_obliging hfresh).mono ?_)
  rintro outcome request' after ⟨houtcome, hfresh', hstate, -⟩
  exact ⟨houtcome, hfresh', hstate⟩

end Saga

end NamespaceBackup
