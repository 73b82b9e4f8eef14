import NamespaceBackup.Proofs.Labels
import NamespaceBackup.Proofs.Quiesced
import NamespaceBackup.Proofs.SoleBundle
import NamespaceBackup.Proofs.Trouble

/-!
# Gates

No state is announced before its gate is passed: a namespace is saved only once its controllers have
finished, it counts as saved only with a bundle and the images of all machines, it is loaded only
once it is clean, and so on. Each gate is a fact about the namespace at the moment when the state is
stored, whatever the pass was answered on its way there.

## Main definitions

* `ManagedKind.Reports`: an object reports a finished state
* `Saga.LoadsBundle`: all of a bundle was loaded
* `Saga.Gate`: what must be the case when a state is stored over another

## Main results

* `Saga.gate_of_stored`: whatever a pass stores that was given what is stored, the gate was passed
-/

namespace NamespaceBackup

open Activity (Asks Ensures Gives hearing)
open Space (Part Agree)

/-- An object reports one of the finished states of its kind, if the kind has states. -/
def ManagedKind.Reports (kind : ManagedKind) (object : Resource) : Prop :=
  kind.hasState = true → ∃ state ∈ kind.finishedStates, kind.currentState object = some state

namespace Saga

open Cluster (home troubled)

/-- An object was loaded: it was applied and, if its kind has a state, told to wait for its
controller. -/
def LoadsObject (ns reason : String) (journal : List Exchange) (kind : ManagedKind)
    (saved : Resource) : Prop :=
  ⟨.call (.applyManaged ns kind (saved.reloaded ns)), (.ok () : Except Failure Unit)⟩ ∈ journal ∧
  ∀ patch, kind.waitingStatus reason = some patch →
    ⟨.call (.patchManagedStatus ns kind (saved.reloaded ns).anyName patch),
      (.ok () : Except Failure Unit)⟩ ∈ journal

/-- All of a bundle was loaded. -/
structure LoadsBundle (ns reason : String) (content : Bundle.Content) (journal : List Exchange) :
    Prop where
  objects : ∀ kind : ManagedKind, ∀ saved ∈ content.objects kind.name,
    LoadsObject ns reason journal kind saved
  configMaps : ∀ saved ∈ content.configMaps,
    ⟨.call (.applyConfigMap ns (saved.reloaded ns)), (.ok () : Except Failure Unit)⟩ ∈ journal
  secrets : ∀ saved ∈ content.secrets,
    ⟨.call (.applySecret ns (saved.reloaded ns)), (.ok () : Except Failure Unit)⟩ ∈ journal

theorem LoadsBundle.mono {ns reason : String} {content : Bundle.Content}
    {journal journal' : List Exchange} (h : LoadsBundle ns reason content journal)
    (hsub : journal ⊆ journal') : LoadsBundle ns reason content journal' where
  objects kind saved hsaved :=
    (h.objects kind saved hsaved).imp (hsub ·) fun hwaits patch hpatch => hsub (hwaits patch hpatch)
  configMaps saved hsaved := hsub (h.configMaps saved hsaved)
  secrets saved hsaved := hsub (h.secrets saved hsaved)

/-- All members of sets of machines are recorded. -/
def Records (sets : List Resource) (status : Request.Status) : Prop :=
  ∀ set ∈ sets, ∀ machine ∈ MachineSet.members set, status.snapshotNames.contains machine = true

/-- The marker of a request can be selected by its label. Names and label keys of a cluster have
neither commas nor equality signs. -/
structure Selectable (settings : Settings) (request : Request) : Prop where
  comma : ',' ∉ settings.markerLabel.toList
  equals : '=' ∉ settings.markerLabel.toList
  name : ∀ name ∈ request.metadata.name, ',' ∉ name.toList

/-- What must be the case when a request is stored over an older version of it, by what was exchanged
before in the same pass and by what the namespace holds. -/
structure Gate (settings : Settings) (old new : Request) (before : List Exchange) (space : Space) :
    Prop where
  /-- Every controller has finished. -/
  saving : old.state = .quiescing → new.state = .saving →
    ∀ kind : ManagedKind, ∀ object ∈ (space.ofKind kind.name).values, kind.Reports object
  /-- There is a bundle, and every machine is recorded if images are included. -/
  saved : new.state = .saved →
    (Selectable settings new → ∃ marker, new.marker? = some marker ∧
      ∃ bundle ∈ space.bundles.values,
        bundle.metadata.label? settings.markerLabel = some marker) ∧
    (new.spec.includeImages = true →
      Records (space.ofKind ManagedKind.vmSet.name).values new.currentStatus)
  /-- The namespace is clean. -/
  loading : old.state = .cleaning → new.state = .loading →
    (∀ kind : ManagedKind, (space.ofKind kind.name).values = []) ∧
    (∀ configMap ∈ space.configMaps.values,
      ¬ Selector.selects settings.managedSelector configMap.metadata = true) ∧
    ∀ secret ∈ space.secrets.values,
      ¬ Selector.selects settings.managedSelector secret.metadata = true
  /-- The bundle is loaded, and every machine in it is recorded if images are included. -/
  reconciling : old.state = .loading → new.state = .reconciling →
    ∃ bundle, space.bundles.find? (new.spec.restoreSource.getD "") = some bundle ∧
      LoadsBundle (home new) ("Restored by BackupRequest " ++ new.anyName) bundle.content before ∧
      (new.spec.includeImages = true →
        Records (bundle.content.objects ManagedKind.vmSet.name) new.currentStatus)
  /-- Every object of the bundle is there, and its controller has finished. -/
  restored : new.state = .restored →
    ∃ bundle, space.bundles.find? (new.spec.restoreSource.getD "") = some bundle ∧
      ∀ kind : ManagedKind, ∀ saved ∈ bundle.content.objects kind.name,
        ∃ object ∈ (space.ofKind kind.name).values, object.anyName = saved.anyName ∧
          kind.Reports object

variable {σ α : Type} {settings : Settings} {given copy old new : Request} {ns marker name : String}
  {status : Request.Status} {w u v v' : Cluster} {exchange : Exchange}
  {start before after trace journal : List Exchange} {part : Part} {content : Bundle.Content}

/-! ## What was loaded -/

/-- If an activity succeeds with all that it heard in a journal, something is known. -/
def Attests (journal : List Exchange) (x : Activity σ Unit) (known : Prop) : Prop :=
  ∀ s, Ensures (hearing (· ∈ journal)) x s () fun outcome _ _ => outcome = .ok () → known

namespace Attests

variable {x : Activity σ Unit} {known known' : Prop}

theorem mono (hx : Attests journal x known) (h : known → known') : Attests journal x known' :=
  fun s => (hx s).mono fun _ _ _ hknown hok => h (hknown hok)

theorem bind {f : Unit → Activity σ Unit} (hx : Attests journal x known)
    (hf : Attests journal (f ()) known') : Attests journal (x >>= f) (known ∧ known') := by
  intro s
  refine (hx s).bind (fun _ s _ hknown => ?_) fun _ _ _ _ => nofun
  exact (hf s).mono fun _ _ _ hknown' hok => ⟨hknown rfl, hknown' hok⟩

theorem forM {xs : List α} {f : α → Activity σ Unit} {known : α → Prop}
    (h : ∀ x ∈ xs, Attests journal (f x) (known x)) :
    Attests journal (xs.forM f) (∀ x ∈ xs, known x) := by
  induction xs with
  | nil => exact fun _ _ _ hmem => nomatch hmem
  | cons x xs ih =>
    have hrest : Attests journal (xs.forM f) (∀ y ∈ xs, known y) :=
      ih fun y hy => h y (List.mem_cons_of_mem x hy)
    exact ((h x List.mem_cons_self).bind (f := fun _ => xs.forM f) hrest).mono
      List.forall_mem_cons.2

end Attests

theorem loadObject_attests {kind : ManagedKind} {reason : String} (saved : Resource) :
    Attests journal (loadObject ns reason kind saved : Activity σ Unit)
      (LoadsObject ns reason journal kind saved) := by
  intro s
  refine Activity.ensures_call_bind.2 ⟨trivial, fun answer _ happlied => ?_⟩
  cases answer with
  | error failure => exact nofun
  | ok =>
    refine Activity.then_ok.2 ?_
    rw [LoadsObject]
    cases kind.waitingStatus reason with
    | none => exact fun _ => ⟨happlied, nofun⟩
    | some patch =>
      refine ⟨trivial, ?_⟩
      rintro answer _ hpatched rfl
      refine ⟨happlied, ?_⟩
      rintro _ ⟨⟩
      exact hpatched

theorem applyConfigMap_attests (configMap : ConfigMap) :
    Attests journal (Activity.call (.applyConfigMap ns configMap) : Activity σ Unit)
      (⟨.call (.applyConfigMap ns configMap), (.ok () : Except Failure Unit)⟩ ∈ journal) := by
  refine fun _ => ⟨trivial, ?_⟩
  rintro _ _ happlied rfl
  exact happlied

theorem applySecret_attests (secret : Secret) :
    Attests journal (Activity.call (.applySecret ns secret) : Activity σ Unit)
      (⟨.call (.applySecret ns secret), (.ok () : Except Failure Unit)⟩ ∈ journal) := by
  refine fun _ => ⟨trivial, ?_⟩
  rintro _ _ happlied rfl
  exact happlied

/-- Loading a bundle succeeds only if all of it was loaded. -/
theorem loadsBundle_of_gives {reason : String}
    (h : Gives (loadObjects ns reason content) copy journal ()) :
    LoadsBundle ns reason content journal := by
  have hloads : Attests journal (loadObjects ns reason content : Pass Unit) _ :=
    .bind (.forM fun kind _ => .forM fun saved _ => loadObject_attests saved) <|
      .bind (.forM fun saved _ => applyConfigMap_attests (saved.reloaded ns))
        (.forM fun saved _ => applySecret_attests (saved.reloaded ns))
  obtain ⟨hobjects, hconfigMaps, hsecrets⟩ :=
    h.ends (hloads copy) (Activity.path_hearing fun _ hmem => hmem) rfl
  exact ⟨fun kind => hobjects kind (ManagedKind.mem_all kind), hconfigMaps, hsecrets⟩

/-! ## The reasons for a state -/

namespace Grounds

/-- Failing ends in an error state. -/
theorem errorState_ne {state : State} (mode : Mode) (hsave : .saveError ≠ state)
    (hrestore : .restoreError ≠ state) : mode.errorState ≠ state := by
  cases mode with
  | save => exact hsave
  | restore | cleanRestore => exact hrestore

/-- Beginning leads to the first state of a save or a restore. -/
theorem beginning_ne {state : State} (mode : Mode) (hsave : .quiescing ≠ state)
    (hrestore : .loading ≠ state) (hclean : .cleaning ≠ state) : mode.beginning ≠ state := by
  cases mode with
  | save => exact hsave
  | restore => exact hrestore
  | cleanRestore => exact hclean

theorem of_saving (h : Grounds settings given copy journal status) (hcopy : copy.state = .quiescing)
    (hstate : status.state = .saving) :
    ∃ ns start listing inventory, requestNamespace copy = .ok ns ∧ journal = start ++ listing ∧
      Gives (collect settings ns) copy listing inventory ∧
      (Quiescence.evaluate inventory).quiesced = true := by
  cases h with
  | @quiesce ns start listing inventory _ _ hns hcollect =>
    refine ⟨ns, start, listing, inventory, hns, rfl, hcollect, ?_⟩
    -- With a hold-up the request would stay where it is.
    by_contra hbusy
    simp [hbusy] at hstate
  | fail => exact absurd hstate (errorState_ne _ (by decide) (by decide))
  | _ => simp_all

theorem of_saved (h : Grounds settings given copy journal status) (hstate : status.state = .saved) :
    ∃ ns marker bundleName start listing images bundling inventory now,
      requestNamespace copy = .ok ns ∧ requestMarker copy = .ok marker ∧
      journal = start ++ listing ++ (images ++ bundling ++ [⟨.clock, now⟩]) ∧
      Gives (collect settings ns) copy listing inventory ∧
      Visited copy (fun marker => takeImages settings ns copy.anyName marker inventory
        copy.currentStatus.snapshotNames) images [] status.snapshotNames ∧
      Gives (ensureBundle settings ns copy.anyName marker inventory status.snapshotNames) copy
        bundling bundleName := by
  cases h with
  | @save ns marker bundleName start listing images bundling inventory recorded now _ _ hns hmarker
      hcollect himages hbundle =>
    exact ⟨ns, marker, bundleName, start, listing, images, bundling, inventory, now, hns, hmarker,
      by simp, hcollect, himages, hbundle⟩
  | begin => exact absurd hstate (beginning_ne _ (by decide) (by decide) (by decide))
  | fail => exact absurd hstate (errorState_ne _ (by decide) (by decide))
  | quiesce | load => dsimp only at hstate; split at hstate <;> cases hstate
  | clean => dsimp only at hstate; split at hstate <;> cases hstate
  | wait _ hcopy => exact absurd (hcopy.symm.trans hstate) (by decide)
  | restore | await => cases hstate

theorem of_loading (h : Grounds settings given copy journal status) (hcopy : copy.state = .cleaning)
    (hstate : status.state = .loading) :
    ∃ ns start listing clearing inventory, requestNamespace given = .ok ns ∧
      journal = start ++ listing ++ clearing ∧
      Gives (collect settings ns) copy listing inventory ∧
      Gives (inventory.clear ns) copy clearing true := by
  cases h with
  | @clean ns start listing clearing inventory cleared _ _ hns hcollect hclear =>
    obtain rfl : cleared = true := by
      by_contra hleft
      simp [hleft] at hstate
    exact ⟨ns, start, listing, clearing, inventory, hns, rfl, hcollect, hclear⟩
  | fail => exact absurd hstate (errorState_ne _ (by decide) (by decide))
  | _ => simp_all

theorem of_reconciling (h : Grounds settings given copy journal status)
    (hcopy : copy.state = .loading) (hstate : status.state = .reconciling) :
    ∃ ns bundle start loading images, Found given ns bundle start ∧
      journal = start ++ loading ++ images ∧
      Gives (loadObjects ns ("Restored by BackupRequest " ++ copy.anyName) bundle.content) copy
        loading () ∧
      Visited copy (fun marker => restoreImages settings ns copy.anyName marker bundle
        copy.currentStatus.snapshotNames) images [] status.snapshotNames := by
  cases h with
  | @load ns bundle start loading images pending recorded _ hfound hload himages =>
    obtain rfl : pending = [] := by
      by_contra hpending
      simp [hpending] at hstate
    exact ⟨ns, bundle, start, loading, images, hfound, rfl, hload, himages⟩
  | fail => exact absurd hstate (errorState_ne _ (by decide) (by decide))
  | _ => simp_all

theorem of_restored (h : Grounds settings given copy journal status)
    (hstate : status.state = .restored) :
    ∃ ns bundle start listing inventory now, Found given ns bundle start ∧
      journal = start ++ listing ++ [⟨.clock, now⟩] ∧
      Gives (collect settings ns) copy listing inventory ∧
      (Quiescence.evaluateRestored bundle.content inventory).quiesced = true := by
  cases h with
  | @restore ns bundle start listing inventory now _ hfound hcollect hback =>
    exact ⟨ns, bundle, start, listing, inventory, now, hfound, rfl, hcollect, hback⟩
  | begin => exact absurd hstate (beginning_ne _ (by decide) (by decide) (by decide))
  | fail => exact absurd hstate (errorState_ne _ (by decide) (by decide))
  | quiesce | load => dsimp only at hstate; split at hstate <;> cases hstate
  | clean => dsimp only at hstate; split at hstate <;> cases hstate
  | wait _ hcopy => exact absurd (hcopy.symm.trans hstate) (by decide)
  | save | await => cases hstate

end Grounds

/-! ## What the namespace holds by then -/

/-- What was collected is what the namespace holds as long as its content is left alone. -/
theorem collected_since {inventory : Inventory} {listing rest : List Exchange}
    (hcollect : Gives (collect settings ns) copy listing inventory)
    (hpath : (troubled ns).Path w (start ++ listing ++ rest) v)
    (hrest : ∀ exchange ∈ rest, exchange.1.part? ≠ some .content) :
    inventory = (v.space ns).inventory settings.managedSelector := by
  obtain ⟨u, hlisted, hlater⟩ := Respondent.path_append.1 hpath
  obtain ⟨t, -, hlisting⟩ := Respondent.path_append.1 hlisted
  obtain ⟨rfl, hagree⟩ := Cluster.collected hcollect hlisting
  exact ((Cluster.agree_path hlater hrest).trans hagree).inventory_eq _ |>.symm

/-- Whatever is answered, an activity ends. -/
theorem ensures_end (x : Activity σ α) (s : σ) :
    Ensures (Terms.only fun _ => True) x s () fun _ _ _ => True := by
  suffices hend : ∀ d : Dialogue Query Query.Answer (Except Failure α × σ),
      d.Ensures (Terms.only fun _ => True) () fun _ _ => True from hend (x s)
  intro d
  induction d with
  | finish => exact trivial
  | ask question next ih => exact ⟨trivial, fun answer _ _ => ih answer⟩

/-- Deleting tells that nothing is left only if there was nothing to delete. -/
theorem isEmpty_of_clear {inventory : Inventory} {clearing : List Exchange}
    (h : Gives (inventory.clear ns) copy clearing true) :
    inventory.isEmpty = true ∧ clearing = [] := by
  by_cases hempty : inventory.isEmpty = true
  · rw [Gives, Inventory.clear, if_pos hempty] at h
    cases h
    exact ⟨hempty, rfl⟩
  · have hleft : Ensures (Terms.only fun _ => True) (inventory.clear ns : Pass Bool) copy ()
        fun outcome _ _ => outcome ≠ .ok true := by
      rw [Inventory.clear, if_neg hempty]
      -- Whatever the three deletions come to, a later pass has to look again.
      refine (ensures_end _ _).bind (fun _ s _ _ => ?_) (by simp)
      refine (ensures_end _ s).bind (fun _ s _ _ => ?_) (by simp)
      exact (ensures_end _ s).bind (fun _ _ _ _ => by rintro ⟨⟩) (by simp)
    exact absurd rfl (h.ends hleft (Activity.path_only _ _))

theorem part?_of_isImaging {imaging : Imaging.Request} {task : Imaging.Task}
    {machines : List String} {question : Query}
    (h : Imaging.IsImaging settings imaging task machines question) :
    question.part? = none ∨ question.part? = some .machines ∨ question.part? = some .markers := by
  rcases h with _ | h
  · exact .inl rfl
  · cases h <;> simp [Query.part?, Call.part?]

/-- A visit to the machines changes machines and markers only. -/
theorem Visited.part? {imaging : String → Imaging.Request} {task : Imaging.Task}
    {sets : List Resource} {fencing : Bool} {images : List Exchange} {pending : List String}
    {recorded : Dict String}
    (h : Visited copy (fun marker => Activity.within copy.currentStatus.snapshotNames
      (Imaging.runPass settings (imaging marker) task sets fencing)) images pending recorded)
    {exchange : Exchange} (hexchange : exchange ∈ images) :
    exchange.1.part? = none ∨ exchange.1.part? = some .machines ∨
      exchange.1.part? = some .markers := by
  cases h with
  | unneeded => cases hexchange
  | @images marker _ _ _ _ _ hvisit =>
    exact part?_of_isImaging ((Imaging.within_runPass_asks settings (imaging marker) task sets fencing
      _).of_gives hvisit exchange hexchange)

/-- A bundle that was made is there. -/
theorem find?_bundles_createBundle {bundle : Bundle}
    (h : u.perform (.createBundle ns bundle) = ((.ok () : Except Failure Unit), v)) :
    (v.space ns).bundles.find? bundle.anyName = some bundle := by
  rw [Cluster.perform, Cluster.addOrFail] at h
  split at h
  · cases h
  · obtain ⟨-, rfl⟩ := Prod.mk.inj h
    rw [Cluster.space_withSpace, Dict.find?_insert, if_pos rfl]

/-- The bundle of a request is there once it was found or made. -/
theorem exists_bundle {inventory : Inventory} {recorded : Dict String} {bundleName : String}
    (hselects : ∀ metadata, Selector.selects (settings.markerSelector marker) metadata = true →
      metadata.label? settings.markerLabel = some marker)
    (h : Gives (ensureBundle settings ns name marker inventory recorded) copy trace bundleName)
    (hpath : (troubled ns).Path w trace v) :
    ∃ bundle ∈ (v.space ns).bundles.values,
      bundle.metadata.label? settings.markerLabel = some marker := by
  suffices hmade : Ensures ⟨fun _ _ => True, troubled ns⟩
      (ensureBundle settings ns name marker inventory recorded) copy w fun outcome _ v =>
        ∀ name, outcome = .ok name → ∃ bundle ∈ (v.space ns).bundles.values,
          bundle.metadata.label? settings.markerLabel = some marker from
    h.ends hmade hpath _ rfl
  refine ensures_ensureBundle trivial fun answer u hanswer => ?_
  rcases answer with failure | (_ | bundle)
  · exact nofun
  · -- None was found, so one is made. It carries the label from the start.
    refine ensures_makeBundle trivial fun now u' _ bundle hbundle => ⟨trivial, ?_⟩
    rintro (failure | ⟨⟩) v' ⟨before, -, hserves⟩
    · exact nofun
    · have hcreated := find?_bundles_createBundle (hserves.performed_of_ok (by simp))
      refine fun _ _ => ⟨bundle, List.mem_map_of_mem (Dict.mem_entries_iff.2 hcreated), ?_⟩
      rw [hbundle]
      exact SoleBundle.label?_newBundle ..
  · -- One was found, by its label.
    obtain ⟨before, -, hserves⟩ := hanswer
    obtain ⟨hanswer, rfl⟩ := Prod.mk.inj (hserves.performed_of_ok (by simp))
    have hfound : (before.space ns).bundles.values.find?
        (Selector.selects (settings.markerSelector marker) ·.metadata) = some bundle :=
      Except.ok.inj hanswer
    refine fun _ _ => ⟨bundle, List.mem_of_find?_eq_some hfound, hselects _ ?_⟩
    simpa using List.find?_some hfound

/-! ## The gates -/

theorem home_of_requestNamespace (h : requestNamespace copy = .ok ns) : home copy = ns := by
  rw [home, requestNamespace_eq_ok.1 h, Option.getD_some]

/-- What a pass does last, once it knows what to store: it reads the clock and stores it. -/
def Closing (rest : List Exchange) : Prop :=
  ∀ exchange ∈ rest, exchange.1.part? = none ∨ exchange.1.part? = some .requests

variable {rest : List Exchange}

theorem Closing.clock (h : Closing rest) {now : Instant} : Closing (⟨.clock, now⟩ :: rest) :=
  List.forall_mem_cons.2 ⟨.inl rfl, h⟩

theorem Closing.agree (h : Closing rest) (hpath : (troubled ns).Path w rest v) {part : Part}
    (hpart : part ≠ .requests) : Agree part (v.space ns) (w.space ns) := by
  refine Cluster.agree_path hpath fun exchange hexchange heq => ?_
  rcases h exchange hexchange with hnone | hrequests
  · rw [hnone] at heq
    cases heq
  · rw [hrequests] at heq
    exact hpart (Option.some.inj heq).symm

theorem Closing.ne_content (h : Closing rest) :
    ∀ exchange ∈ rest, exchange.1.part? ≠ some .content := by
  intro exchange hexchange heq
  rcases h exchange hexchange with hnone | hrequests
  · rw [hnone] at heq
    cases heq
  · rw [hrequests] at heq
    cases heq

theorem objects_inventory (space : Space) (selector : String) (kind : ManagedKind) :
    (space.inventory selector).objects kind.name = (space.ofKind kind.name).values :=
  Inventory.objects_gather kind

theorem configMaps_inventory (space : Space) (selector : String) :
    (space.inventory selector).configMaps =
      space.configMaps.values.filter (Selector.selects selector ·.metadata) :=
  Dict.values_filter ..

theorem secrets_inventory (space : Space) (selector : String) :
    (space.inventory selector).secrets =
      space.secrets.values.filter (Selector.selects selector ·.metadata) :=
  Dict.values_filter ..

/-- Everything in a namespace has finished when it is about to be saved. -/
theorem saving_gate (h : Grounds settings given copy journal status) (hcopy : copy.state = .quiescing)
    (hstate : status.state = .saving) (hclosing : Closing rest)
    (hpath : (troubled (home copy)).Path w (journal ++ rest) v) (kind : ManagedKind) :
    ∀ object ∈ ((v.space (home copy)).ofKind kind.name).values, kind.Reports object := by
  obtain ⟨ns, start, listing, inventory, hns, rfl, hcollect, hquiesced⟩ := h.of_saving hcopy hstate
  rw [home_of_requestNamespace hns] at hpath ⊢
  have hinventory := collected_since hcollect hpath hclosing.ne_content
  intro object hobject
  refine ManagedKind.isFinished_iff.1 (Quiescence.quiesced_evaluate.1 hquiesced kind object ?_)
  rwa [hinventory, objects_inventory]

/-- There is a bundle, and every machine in the namespace is recorded, when it counts as saved. -/
theorem saved_gate (h : Grounds settings given copy journal status) (hstate : status.state = .saved)
    (hclosing : Closing rest) (hpath : (troubled (home copy)).Path w (journal ++ rest) v) :
    (Selectable settings copy → ∃ marker, copy.marker? = some marker ∧
      ∃ bundle ∈ (v.space (home copy)).bundles.values,
        bundle.metadata.label? settings.markerLabel = some marker) ∧
    (copy.spec.includeImages = true →
      Records ((v.space (home copy)).ofKind ManagedKind.vmSet.name).values status) := by
  obtain ⟨ns, marker, bundleName, start, listing, images, bundling, inventory, now, hns, hmarker, rfl,
    hcollect, himages, hbundle⟩ := h.of_saved hstate
  rw [home_of_requestNamespace hns] at hpath ⊢
  have hmarker := marker?_of_requestMarker hmarker
  constructor
  · -- The bundle was found or made just before the clock was read.
    intro hselectable
    refine ⟨marker, hmarker, ?_⟩
    have hselects (metadata : Metadata)
        (h : Selector.selects (settings.markerSelector marker) metadata = true) :
        metadata.label? settings.markerLabel = some marker :=
      (Settings.selects_markerSelector hselectable.comma hselectable.equals
        (Request.comma_notMem_marker hselectable.name hmarker)).1 h
    have hsplit : start ++ listing ++ (images ++ bundling ++ [⟨.clock, now⟩]) ++ rest =
        (start ++ listing ++ images) ++ (bundling ++ ⟨.clock, now⟩ :: rest) := by simp
    rw [hsplit] at hpath
    obtain ⟨u, -, hlater⟩ := Respondent.path_append.1 hpath
    obtain ⟨t, hbundling, hends⟩ := Respondent.path_append.1 hlater
    have hbundles : Agree .bundles (v.space ns) (t.space ns) :=
      hclosing.clock.agree hends (by simp)
    rw [show (v.space ns).bundles = (t.space ns).bundles from hbundles]
    exact exists_bundle hselects hbundle hbundling
  · -- Neither the images nor the bundle touch what was collected, so no set is missing.
    intro hincluded set hset machine hmachine
    have hinventory : inventory = (v.space ns).inventory settings.managedSelector := by
      rw [List.append_assoc] at hpath
      refine collected_since hcollect hpath ?_
      simp only [List.mem_append, List.append_assoc]
      rintro exchange (hexchange | hexchange | hexchange | hexchange) heq
      · rcases himages.part? hexchange with hpart | hpart | hpart <;> simp [hpart] at heq
      · have hasked := (ensureBundle_asks settings ns copy.anyName marker inventory
          status.snapshotNames).of_gives hbundle exchange hexchange
        revert heq
        generalize exchange.1 = question at hasked
        cases hasked <;> simp [Query.part?, Call.part?]
      · obtain rfl := List.mem_singleton.1 hexchange
        cases heq
      · exact hclosing.ne_content exchange hexchange heq
    have hmember : machine ∈ inventory.vmSets.flatMap MachineSet.members := by
      refine List.mem_flatMap.2 ⟨set, ?_, hmachine⟩
      rwa [Inventory.vmSets, hinventory, objects_inventory]
    exact (himages.accounts.2 hincluded machine hmember).resolve_left (by simp)

/-- The namespace is clean when it is about to be loaded. -/
theorem loading_gate (h : Grounds settings given copy journal status) (hcopy : copy.state = .cleaning)
    (hstate : status.state = .loading) (hclosing : Closing rest)
    (hpath : (troubled (home given)).Path w (journal ++ rest) v) :
    (∀ kind : ManagedKind, ((v.space (home given)).ofKind kind.name).values = []) ∧
    (∀ configMap ∈ (v.space (home given)).configMaps.values,
      ¬ Selector.selects settings.managedSelector configMap.metadata = true) ∧
    ∀ secret ∈ (v.space (home given)).secrets.values,
      ¬ Selector.selects settings.managedSelector secret.metadata = true := by
  obtain ⟨ns, start, listing, clearing, inventory, hns, rfl, hcollect, hclear⟩ :=
    h.of_loading hcopy hstate
  rw [home_of_requestNamespace hns] at hpath ⊢
  -- A pass goes on to load only if it found nothing to delete, so it has deleted nothing itself.
  obtain ⟨hempty, rfl⟩ := isEmpty_of_clear hclear
  rw [List.append_nil] at hpath
  obtain rfl := collected_since hcollect hpath hclosing.ne_content
  obtain ⟨-, hconfigMaps, hsecrets⟩ := Inventory.isEmpty_iff.1 hempty
  refine ⟨fun kind => ?_, fun configMap hmem hselected => ?_, fun secret hmem hselected => ?_⟩
  · rw [← objects_inventory, Inventory.objects_of_isEmpty hempty]
  · rw [configMaps_inventory, List.filter_eq_nil_iff] at hconfigMaps
    exact hconfigMaps configMap hmem hselected
  · rw [secrets_inventory, List.filter_eq_nil_iff] at hsecrets
    exact hsecrets secret hmem hselected

/-- The bundle that a pass has found is still there when it stores something. -/
theorem found_at_end {bundle : Bundle} (hfound : Found given ns bundle start)
    (hpath : (troubled ns).Path w (start ++ trace) v) :
    (v.space ns).bundles.find? (given.spec.restoreSource.getD "") = some bundle :=
  Cluster.found_of_path hpath (List.mem_append_left _ hfound.mem)

/-- The bundle is loaded, and every machine in it is recorded, when its controllers are waited
for. -/
theorem reconciling_gate (h : Grounds settings given copy journal status)
    (hcopy : copy.state = .loading) (hstate : status.state = .reconciling)
    (hpath : (troubled (home given)).Path w (journal ++ rest) v) :
    ∃ bundle, (v.space (home given)).bundles.find? (given.spec.restoreSource.getD "") = some bundle ∧
      LoadsBundle (home given) ("Restored by BackupRequest " ++ copy.anyName) bundle.content journal ∧
      (copy.spec.includeImages = true →
        Records (bundle.content.objects ManagedKind.vmSet.name) status) := by
  obtain ⟨ns, bundle, start, loading, images, hfound, rfl, hload, himages⟩ :=
    h.of_reconciling hcopy hstate
  rw [home_of_requestNamespace hfound.ns_eq] at hpath ⊢
  rw [List.append_assoc, List.append_assoc] at hpath
  refine ⟨bundle, found_at_end hfound hpath, ?_, fun hincluded set hset machine hmachine => ?_⟩
  · exact (loadsBundle_of_gives hload).mono (by simp)
  · have hmember := List.mem_flatMap.2 ⟨set, hset, hmachine⟩
    exact (himages.accounts.2 hincluded machine hmember).resolve_left (by simp)

/-- Every object of the bundle is there and has finished when the namespace counts as restored. -/
theorem restored_gate (h : Grounds settings given copy journal status)
    (hstate : status.state = .restored) (hclosing : Closing rest)
    (hpath : (troubled (home given)).Path w (journal ++ rest) v) :
    ∃ bundle, (v.space (home given)).bundles.find? (given.spec.restoreSource.getD "") = some bundle ∧
      ∀ kind : ManagedKind, ∀ saved ∈ bundle.content.objects kind.name,
        ∃ object ∈ ((v.space (home given)).ofKind kind.name).values,
          object.anyName = saved.anyName ∧ kind.Reports object := by
  obtain ⟨ns, bundle, start, listing, inventory, now, hfound, rfl, hcollect, hback⟩ :=
    h.of_restored hstate
  rw [home_of_requestNamespace hfound.ns_eq] at hpath ⊢
  rw [List.append_assoc, List.singleton_append] at hpath
  refine ⟨bundle, found_at_end hfound (by rwa [List.append_assoc] at hpath), ?_⟩
  intro kind saved hsaved
  have hisBack := Quiescence.quiesced_evaluateRestored.1 hback kind saved hsaved
  obtain ⟨object, hobject, hname, hfinished⟩ := Quiescence.exists_of_isBack hisBack
  rw [collected_since hcollect hpath hclosing.clock.ne_content, objects_inventory] at hobject
  exact ⟨object, hobject, hname, ManagedKind.isFinished_iff.1 hfinished⟩

/-- Whatever a pass stores that was given what is stored, the gate was passed, whatever the pass was
answered and as long as nobody else writes the namespace. -/
theorem gate_of_stored {outcome : Except Failure Action × Request}
    (hgiven : w.stored given = some given)
    (hpass : Dialogue.Yields (reconcile settings given) (before ++ exchange :: after) outcome)
    (hbefore : (troubled (home given)).Path w before v)
    (hexchange : troubled (home given) v exchange v')
    (hold : v.stored given = some old) (hnew : v'.stored given = some new) (hchange : new ≠ old) :
    Gate settings old new before (v'.space (home given)) := by
  obtain ⟨hsame, hpart, start, now, status, message, rfl, hgrounds, rfl⟩ :=
    grounds_of_stored hgiven hpass hbefore hexchange hold hnew hchange
  -- What was known when the status was made is still so once it is stored: only the clock is read
  -- in between.
  have hclosing : Closing [⟨.clock, now⟩, exchange] :=
    List.forall_mem_cons.2 ⟨.inl rfl, List.forall_mem_singleton.2 (.inr hpart)⟩
  have hpath : (troubled (home given)).Path w (start ++ [⟨.clock, now⟩, exchange]) v' := by
    have hall := Respondent.path_append.2 ⟨v, hbefore, .cons hexchange (.nil v')⟩
    rwa [List.append_assoc] at hall
  have hhome := hsame.home_eq
  constructor
  · intro hcopy hstate
    rw [hhome] at hpath ⊢
    exact saving_gate hgrounds hcopy hstate hclosing hpath
  · intro hstate
    rw [hhome] at hpath ⊢
    obtain ⟨hbundle, hrecords⟩ := saved_gate hgrounds hstate hclosing hpath
    exact ⟨fun hselectable => hbundle ⟨hselectable.1, hselectable.2, hselectable.3⟩, hrecords⟩
  · intro hcopy hstate
    exact loading_gate hgrounds hcopy hstate hclosing hpath
  · intro hcopy hstate
    obtain ⟨bundle, hfound, hloads, hrecords⟩ := reconciling_gate hgrounds hcopy hstate hpath
    rw [hsame.spec] at hfound
    refine ⟨bundle, hfound, ?_, hrecords⟩
    rw [hhome] at hloads
    exact hloads.mono (by simp)
  · intro hstate
    obtain ⟨bundle, hfound, hback⟩ := restored_gate hgrounds hstate hclosing hpath
    rw [hsame.spec] at hfound
    exact ⟨bundle, hfound, hback⟩

/-! ## A namespace that comes to rest -/

/-- A network that is configured. -/
def restingNetwork : Resource where
  metadata := { name := some "ctlplane" }
  fields := .ofList [("status", .object [("currentState", .str "Configured")])]

/-- A save that waits for the controllers. -/
def restingRequest : Request where
  metadata := { name := some "nightly", ns := some "cloud", creationTimestamp := some ⟨0, false⟩ }
  status := some { state := .quiescing }

/-- A cluster in which nothing is left to wait for. -/
def restingCluster : Cluster :=
  ⟨.ofList [("cloud",
    { managed := .ofList [(ManagedKind.network.name, .ofList [("ctlplane", restingNetwork)])]
      requests := .ofList [("nightly", restingRequest)] })]⟩

theorem troubled_respond (instant : Instant) (question : Query) (cluster : Cluster) :
    troubled ns cluster ⟨question, (Cluster.respond instant question cluster).1⟩
      (Cluster.respond instant question cluster).2 := by
  refine ⟨cluster, rfl, ?_⟩
  cases question with
  | clock => exact .clock instant
  | call c => exact .performed rfl

/-- The network has come to rest when its namespace is about to be saved. -/
theorem restingCluster_gate :
    ∃ old new before cluster, old.state = .quiescing ∧ new.state = .saving ∧
      Gate {} old new before (Cluster.space cluster "cloud") ∧
      ManagedKind.network.Reports restingNetwork := by
  let respond := Cluster.respond ⟨0, 0⟩
  let journal := (reconcile {} restingRequest).transcript respond restingCluster
  let final := ((reconcile {} restingRequest).run respond restingCluster).2
  have hgiven : restingCluster.stored restingRequest = some restingRequest := by decide +kernel
  have hne : journal ≠ [] := by
    rw [← List.isEmpty_eq_false_iff]
    decide +kernel
  have hquiet : journal.dropLast.all (·.1.part? = none) = true := by decide +kernel
  have hfinal : (final.stored restingRequest).map Request.state = some .saving := by decide +kernel
  have hthere : restingNetwork ∈
      ((final.space "cloud").ofKind ManagedKind.network.name).values := by decide +kernel
  have hpass := Dialogue.yields_transcript respond (reconcile {} restingRequest) restingCluster
  have hpath : (troubled "cloud").Path restingCluster journal final :=
    Dialogue.path_transcript respond (troubled_respond _) _ _
  rw [← List.dropLast_append_getLast hne] at hpath
  rw [show (reconcile {} restingRequest).transcript respond restingCluster = _ from
    (List.dropLast_append_getLast hne).symm] at hpass
  obtain ⟨v, hbefore, hexchange⟩ := Respondent.path_concat.1 hpath
  -- Nothing is written before the last exchange, so the request is stored as it was given.
  have hold : Agree .requests (v.space "cloud") (restingCluster.space "cloud") := by
    refine Cluster.agree_path hbefore fun exchange hmem => ?_
    have hpart := of_decide_eq_true (List.all_eq_true.1 hquiet exchange hmem)
    rw [hpart]
    exact nofun
  have hstored : v.stored restingRequest = some restingRequest :=
    (congrArg (Dict.find? · "nightly") hold).trans hgiven
  obtain ⟨new, hnew, hsaving⟩ := Option.map_eq_some_iff.1 hfinal
  have hchange : new ≠ restingRequest := by
    rintro rfl
    cases hsaving
  have hgate := gate_of_stored hgiven hpass hbefore hexchange hstored hnew hchange
  exact ⟨restingRequest, new, _, _, rfl, hsaving, hgate, hgate.saving rfl hsaving .network _ hthere⟩

end Saga

end NamespaceBackup
