import NamespaceBackup.Proofs.Clearing
import NamespaceBackup.Proofs.Gates
import NamespaceBackup.Proofs.Reload
import NamespaceBackup.Proofs.Reports

/-!
# A fresh load

An object that is applied keeps the status of the one that it takes the place of, so a bundle may be
loaded over objects that report to be finished. A load therefore tells every object whose kind has
a state to wait for its controller. Until somebody else writes, all of these are missing from the
restore, and nothing else is.

## Main definitions

* `Dict.KeyedBy`: everything is stored under a name of its own
* `HoldUp.timesAmong`, `Bundle.Content.timesAwaited`: how often a bundle lists an object that has
  to reach a state
* `Cluster.undisturbed`: clock and cluster, while nobody else writes the content of a namespace

## Main results

* `ManagedKind.currentState_patched`: a waiting status is what an object reports then, whatever it
  reported before
* `Space.isBack_loaded`: after a load, only objects of kinds without state are back
* `Quiescence.count_evaluateRestored`: so the report lists the others, as often as the bundle does
* `Saga.awaits_after_load`: whatever else comes of the load, that is what a collection finds
-/

namespace NamespaceBackup

open Activity (Asks Ensures Safe)
open Space (Agree)

/-! ## A status that is overridden -/

/-- Below a field that a merge patch names, an object has what the patch makes of that field. -/
theorem Resource.at?_patched_object {fields : List (String × Json)} {name : String} {value : Json}
    {path : List String} (h : (Dict.ofList fields).find? name = some value) (r : Resource) :
    (r.patched (.object fields)).at? (name :: path) =
      (Json.mergedField (r.fields.find? name) value).bind (·.at? path) := by
  have hnamed : Assoc.find? name (Dict.ofList fields).entries = some value := h
  rw [at?_cons, Json.object, find?_patched r (Dict.ofList fields).ascending, hnamed]

namespace ManagedKind

variable {kind : ManagedKind} {reason : String} {patch : Json}

/-- An object that was told to wait reports that it waits, whatever was at the place of its state,
or on the way there. -/
theorem currentState_patched (h : kind.waitingStatus reason = some patch) (object : Resource) :
    kind.currentState (object.patched patch) = some waitingState := by
  have honly : ∀ (name : String) (value : Json),
      (Dict.ofList [(name, value)]).find? name = some value := by simp [Dict.ofList]
  rw [waitingStatus] at h
  split at h
  case h_1 hlocation =>
    cases h
    have hcurrent : ∀ conditions : Json, (Dict.ofList [("currentState", .str waitingState),
        ("conditions", conditions)]).find? "currentState" = some (.str waitingState) := by
      simp [Dict.ofList]
    rw [currentState, hlocation, StateLocation.path?, Option.bind_some,
      Resource.at?_patched_object (honly ..), Json.mergedField_object, Option.bind_some,
      Json.at?_merge_object (hcurrent _), Json.mergedField_str]
    rfl
  case h_2 hlocation =>
    cases h
    have hcurrent : ∀ text : Json, (Dict.ofList [("state", .str waitingState),
        ("reason", text)]).find? "state" = some (.str waitingState) := by
      simp [Dict.ofList]
    rw [currentState, hlocation, StateLocation.path?, Option.bind_some,
      Resource.at?_patched_object (honly ..), Json.mergedField_object, Option.bind_some,
      Json.at?_merge_object (honly ..), Json.mergedField_object, Option.bind_some,
      Json.at?_merge_object (hcurrent _), Json.mergedField_str]
    rfl
  case h_3 => cases h

/-- No controller leaves off while its object waits. -/
theorem waitingState_notMem (kind : ManagedKind) : waitingState ∉ kind.finishedStates := by
  cases kind <;> decide

/-- The kinds that have a state are those whose objects are told to wait. -/
theorem hasState_eq (kind : ManagedKind) (reason : String) :
    kind.hasState = (kind.waitingStatus reason).isSome := by
  cases kind <;> rfl

theorem isFinished_patched (h : kind.waitingStatus reason = some patch) (object : Resource) :
    kind.isFinished (object.patched patch) = false := by
  have hstate : kind.hasState = true := by rw [kind.hasState_eq reason, h]; rfl
  rw [← Bool.not_eq_true, isFinished_iff]
  intro hfinished
  obtain ⟨state, hmem, hreports⟩ := hfinished hstate
  obtain rfl := Option.some.inj (hreports.symm.trans (currentState_patched h object))
  exact waitingState_notMem kind hmem

end ManagedKind

/-! ## Objects that are found by name -/

namespace Dict

variable {α : Type} {key : α → String} {dict : Dict α} {name : String} {value : α}

/-- Everything is stored under a name of its own. -/
def KeyedBy (key : α → String) (dict : Dict α) : Prop := ∀ pair ∈ dict.entries, key pair.2 = pair.1

theorem Named.keyedBy {metadata : α → Metadata} (h : dict.Named metadata) :
    dict.KeyedBy fun value => (metadata value).anyName := fun _ => h.anyName

theorem KeyedBy.insert (h : dict.KeyedBy key) (hvalue : key value = name) :
    (dict.insert name value).KeyedBy key := by
  intro pair hpair
  rcases Assoc.mem_insert hpair with rfl | hpair
  · exact hvalue
  · exact h pair hpair

/-- To search the values by name is to look the name up. -/
theorem KeyedBy.find?_values (h : dict.KeyedBy key) (name : String) :
    dict.values.find? (key · = name) = dict.find? name := by
  rw [values, Dict.find?]
  have hkeyed : ∀ pair ∈ dict.entries, key pair.2 = pair.1 := h
  generalize dict.entries = pairs at hkeyed
  induction pairs with
  | nil => rfl
  | cons pair pairs ih =>
    rw [List.map_cons, List.find?_cons, Assoc.find?, hkeyed pair (by simp),
      ih fun pair hpair => hkeyed pair (by simp [hpair])]
    by_cases hname : pair.1 = name <;> simp [hname]

end Dict

/-! ## What is back after a load -/

namespace Saga

section Load

variable (ns reason : String) (kind : ManagedKind)

/-- Loading an object stores one under its name that is not finished, unless its kind has no
state. -/
theorem exists_loadInto (objects : Dict Resource) (saved : Resource) :
    ∃ fresh : Resource, fresh.anyName = (saved.reloaded ns).anyName ∧
      kind.isFinished fresh = !kind.hasState ∧
      loadInto ns reason kind objects saved =
        objects.insert (saved.reloaded ns).anyName fresh := by
  obtain ⟨applied, hname, happlied⟩ : ∃ applied : Resource,
      applied.anyName = (saved.reloaded ns).anyName ∧
        Space.applied objects (saved.reloaded ns) =
          objects.insert (saved.reloaded ns).anyName applied := by
    refine ⟨_, ?_, rfl⟩
    split <;> rfl
  rw [loadInto, happlied]
  cases hstatus : kind.waitingStatus reason with
  | none =>
    have hstate : kind.hasState = false := by rw [kind.hasState_eq reason, hstatus]; rfl
    exact ⟨applied, hname, by rw [ManagedKind.isFinished_of_not_hasState hstate, hstate]; rfl, rfl⟩
  | some patch =>
    have hstate : kind.hasState = true := by rw [kind.hasState_eq reason, hstatus]; rfl
    refine ⟨applied.patched patch, hname, ?_, ?_⟩
    · rw [ManagedKind.isFinished_patched hstatus, hstate]
      rfl
    · simp [Dict.modify]

/-- Objects that are loaded are stored under their own names. -/
theorem keyedBy_foldl_loadInto {objects : Dict Resource} (h : objects.KeyedBy Resource.anyName)
    (loaded : List Resource) :
    (loaded.foldl (loadInto ns reason kind) objects).KeyedBy Resource.anyName := by
  refine foldl_keeps (fun objects saved h => ?_) h
  obtain ⟨fresh, hname, -, heq⟩ := exists_loadInto ns reason kind objects saved
  rw [heq]
  exact h.insert hname

/-- Under the name of an object that is loaded there is one that is not finished, unless its kind
has no state, however often that name is loaded. -/
theorem exists_foldl_loadInto {loaded : List Resource} {saved : Resource} (hsaved : saved ∈ loaded)
    (hname : saved.metadata.name.isSome = true) (objects : Dict Resource) :
    ∃ object, (loaded.foldl (loadInto ns reason kind) objects).find? saved.anyName = some object ∧
      kind.isFinished object = !kind.hasState := by
  refine foldl_of_mem (P := fun objects : Dict Resource => ∃ object,
    objects.find? saved.anyName = some object ∧ kind.isFinished object = !kind.hasState) hsaved
    (fun objects => ?_) (fun objects other h => ?_) objects
  · obtain ⟨fresh, -, hfinished, heq⟩ := exists_loadInto ns reason kind objects saved
    rw [heq, saved.anyName_reloaded hname, Dict.find?_insert, if_pos rfl]
    exact ⟨fresh, rfl, hfinished⟩
  · obtain ⟨fresh, -, hfinished, heq⟩ := exists_loadInto ns reason kind objects other
    rw [heq, Dict.find?_insert]
    split
    · exact ⟨fresh, rfl, hfinished⟩
    · exact h

end Load

end Saga

/-- After a load, an object of the bundle is back if its kind has no state, and not otherwise. -/
theorem Space.isBack_loaded {ns reason : String} {content : Bundle.Content} {space : Space}
    {kind : ManagedKind} {saved : Resource}
    (hnamed : (space.ofKind kind.name).Named Resource.metadata)
    (hsaved : saved ∈ content.objects kind.name) (hname : saved.metadata.name.isSome = true) :
    Quiescence.isBack kind ((space.loaded ns reason content).ofKind kind.name).values
        saved.anyName = !kind.hasState := by
  obtain ⟨object, hfound, hfinished⟩ :=
    Saga.exists_foldl_loadInto ns reason kind hsaved hname (space.ofKind kind.name)
  have hkeyed := Saga.keyedBy_foldl_loadInto ns reason kind hnamed.keyedBy
    (content.objects kind.name)
  rw [Quiescence.isBack, ofKind_loaded, hkeyed.find?_values, hfound, Option.any_some, hfinished]

/-! ## The report -/

/-- How often an object is among those saved of its kind, if that is a managed kind with a state. -/
def HoldUp.timesAmong (holdUp : HoldUp) (saved : List Resource) : Nat :=
  if (ManagedKind.ofName? holdUp.kind).any ManagedKind.hasState then
    saved.countP (·.anyName = holdUp.name)
  else 0

/-- How often a bundle lists an object that has to reach a state before a restore is finished. -/
def Bundle.Content.timesAwaited (content : Bundle.Content) (holdUp : HoldUp) : Nat :=
  holdUp.timesAmong (content.objects holdUp.kind)

namespace Quiescence

variable {content : Bundle.Content} {inventory : Inventory}

/-- If the objects of a bundle are back exactly if their kinds have no state, the report lists those
whose kinds have one, each as often as the bundle does, and nothing else. -/
theorem count_evaluateRestored
    (h : ∀ kind : ManagedKind, ∀ saved ∈ content.objects kind.name,
      isBack kind (inventory.objects kind.name) saved.anyName = !kind.hasState)
    (holdUp : HoldUp) :
    (evaluateRestored content inventory).holdUps.count holdUp = content.timesAwaited holdUp := by
  rw [evaluateRestored_eq_picked, Report.ofList, (List.mergeSort_perm _ _).count_eq, count_picked,
    Bundle.Content.timesAwaited, HoldUp.timesAmong]
  cases hkind : ManagedKind.ofName? holdUp.kind with
  | none => simp
  | some kind =>
    rw [← ManagedKind.name_of_ofName? hkind]
    have hback : ∀ saved ∈ content.objects kind.name,
        (!isBack kind (inventory.objects kind.name) saved.anyName &&
          decide (saved.anyName = holdUp.name)) =
        (kind.hasState && decide (saved.anyName = holdUp.name)) := fun saved hsaved => by
      rw [h kind saved hsaved, Bool.not_not]
    refine (List.countP_congr fun saved hsaved => by
      rw [Option.any_some, hback saved hsaved]).trans ?_
    rw [Bundle.Content.objects, Option.any_some]
    by_cases hstate : kind.hasState = true <;> simp [hstate]

end Quiescence

/-! ## The content of a namespace, undisturbed -/

namespace Cluster

/-- A question lists or changes the content of a namespace. -/
def OnContent (question : Query) : Prop :=
  question.part? = some .content ∨ ∃ ns selector, Inventory.IsListing ns selector question

/-- How clock and cluster answer while nobody else writes the content of a namespace: what is asked
of content is performed. Anything else may fail or come to anything, and others may write what they
like, as long as that content stays as it is. -/
inductive Undisturbed (ns : String) (cluster : Cluster) : Exchange → Cluster → Prop
  | performed {exchange : Exchange} {after : Cluster} (h : cluster.Performs exchange after) :
    Undisturbed ns cluster exchange after
  | elsewhere {exchange : Exchange} {after : Cluster} (hquestion : ¬ OnContent exchange.1)
    (hcontent : Agree .content (after.space ns) (cluster.space ns)) :
    Undisturbed ns cluster exchange after

/-- The terms of a conversation while nobody else writes the content of a namespace. -/
abbrev undisturbed (ns : String) : Terms Query Query.Answer Cluster where
  answers := Undisturbed ns

variable {σ α : Type} {s : σ} {ns : String} {cluster after : Cluster}

/-- Work on content does what it does with nobody else around. -/
theorem ensures_undisturbed {x : Activity σ α} {post : Except Failure α → σ → Cluster → Prop}
    (hx : Asks OnContent x) (h : Ensures alone x s cluster post) :
    Ensures (undisturbed ns) x s cluster post := by
  refine hx.ensures_of_answers (fun _ _ _ => trivial) ?_ h
  intro cluster exchange after hasked hanswer
  cases hanswer with
  | performed hperforms => exact hperforms
  | elsewhere hquestion => exact absurd hasked hquestion

/-- What does not change content leaves it as it is. -/
theorem agree_undisturbed {exchange : Exchange} (h : Undisturbed ns cluster exchange after)
    (hpart : exchange.1.part? ≠ some .content) :
    Agree .content (after.space ns) (cluster.space ns) := by
  cases h with
  | elsewhere _ hcontent => exact hcontent
  | performed hperforms =>
    obtain ⟨question, answer⟩ := exchange
    cases question with
    | clock =>
      obtain rfl : after = cluster := hperforms
      rfl
    | call c =>
      have hafter : (answer, after) = cluster.perform c := hperforms
      have hagree := agree_perform hpart cluster ns
      rwa [← hafter] at hagree

end Cluster

namespace Saga

open Cluster (OnContent undisturbed)

variable {settings : Settings} {ns : String} {bundle : Bundle} {request : Request}
  {cluster : Cluster}

/-- What a load does once all objects are loaded: it sees to the images and writes the status. -/
def concludeLoad (settings : Settings) (ns : String) (bundle : Bundle) (request : Request) :
    Pass Unit := do
  let status := request.currentStatus
  if request.spec.includeImages then
    let marker ← ofExcept (requestMarker request)
    let (pending, recorded) ←
      restoreImages settings ns request.anyName marker bundle status.snapshotNames
    let status := { status with snapshotNames := recorded }
    if pending.isEmpty then finishLoad bundle status
    else writeStatus status ("Waiting for VM restores: " ++ ", ".intercalate pending)
  else finishLoad bundle status

theorem load_eq (settings : Settings) (ns : String) (bundle : Bundle) :
    load settings ns bundle = get >>= fun request =>
      loadObjects ns ("Restored by BackupRequest " ++ request.anyName) bundle.content >>= fun _ =>
        concludeLoad settings ns bundle request := rfl

/-- The rest of a load changes no content. -/
theorem concludeLoad_safe :
    Safe (Terms.only (·.part? ≠ some .content)) (concludeLoad settings ns bundle request) := by
  have hwrite : ∀ status message,
      Safe (Terms.only (·.part? ≠ some .content)) (writeStatus status message) :=
    writeStatus_safe (fun _ => by simp [Terms.only, Query.part?]) fun _ _ => by
      simp [Terms.only, Query.part?, Call.part?]
  rw [concludeLoad]
  split
  · refine Safe.ofExcept_bind fun marker _ => ?_
    refine (Safe.of_asks (Imaging.within_runPass_asks _ _ _ _ _ _) fun _ question h => ?_).bind
      fun visited => ?_
    · rcases part?_of_isImaging h with hpart | hpart | hpart <;> simp [Terms.only, hpart]
    · obtain ⟨pending, recorded⟩ := visited
      dsimp only
      split <;> exact hwrite _ _
  · exact hwrite _ _

/-- Once the objects of a bundle are loaded, the rest of the load leaves them alone, whatever
becomes of the machines and of the request. -/
theorem load_undisturbed :
    Ensures (undisturbed ns) (load settings ns bundle) request cluster fun _ _ after =>
      Agree .content (after.space ns) ((cluster.space ns).loaded ns
        ("Restored by BackupRequest " ++ request.anyName) bundle.content) := by
  rw [load_eq, Activity.ensures_bind, Activity.ensures_get, Activity.then_ok]
  have hloading : Asks OnContent (loadObjects ns ("Restored by BackupRequest " ++ request.anyName)
      bundle.content : Pass Unit) :=
    (loadObjects_asks ns _ bundle.content).mono fun _ h => .inl (by cases h <;> rfl)
  refine (Cluster.ensures_undisturbed hloading (loadObjects_changes request cluster)).bind ?_ ?_
  · rintro _ copy loaded ⟨-, rfl, hloaded⟩
    have hagree : Agree .content (loaded.space ns) ((cluster.space ns).loaded ns
        ("Restored by BackupRequest " ++ copy.anyName) bundle.content) := by rw [hloaded]
    exact concludeLoad_safe.preserves (fun after : Cluster => Agree .content (after.space ns) _)
      (fun _ _ _ _ => trivial) (fun _ _ _ hkept hpart hanswer =>
        (Cluster.agree_undisturbed hanswer hpart).trans hkept) hagree
  · rintro failure _ _ ⟨⟨⟩, -⟩

/-- Loads a bundle and, whatever becomes of that, reports which of its objects are still awaited. -/
def loadAndReport (settings : Settings) (ns : String) (bundle : Bundle) :
    Pass Quiescence.Report := do
  let _ ← (load settings ns bundle).outcome
  let inventory ← collect settings ns
  return Quiescence.evaluateRestored bundle.content inventory

/-- A fresh load is never taken for a finished restore. Whatever statuses the objects of a namespace
have before a bundle is loaded, and whatever becomes of machines and requests in the meantime: until
somebody else writes to the content of the namespace, the report lists by kind and name the objects
of the bundle whose kinds are managed and have states, each as often as the bundle does, and nothing
else. -/
theorem awaits_after_load (settings : Settings) (ns : String) (bundle : Bundle) (request : Request)
    (cluster : Cluster)
    (hnamed : ∀ kind : ManagedKind,
      ((cluster.space ns).ofKind kind.name).Named Resource.metadata)
    (hbundle : ∀ kind : ManagedKind, ∀ saved ∈ bundle.content.objects kind.name,
      saved.metadata.name.isSome = true) :
    Ensures (undisturbed ns) (loadAndReport settings ns bundle) request cluster fun outcome _ _ =>
      ∃ report, outcome = .ok report ∧
        report.holdUps.Pairwise (fun first second => first.le second = true) ∧
        ∀ holdUp, report.holdUps.count holdUp = bundle.content.timesAwaited holdUp := by
  have hlisting : Asks OnContent (collect settings ns) :=
    (Inventory.collect_asks ns _).mono fun _ h => .inr ⟨_, _, h⟩
  refine Activity.ensures_bind.2 (Activity.ensures_outcome.2 (load_undisturbed.mono ?_))
  intro _ copy loaded hloaded
  refine Activity.then_ok.2 ((Cluster.ensures_undisturbed hlisting
    (Inventory.collect_performs ns settings.managedSelector copy loaded)).bind ?_ ?_)
  · rintro inventory _ _ ⟨⟨⟩, rfl, rfl⟩
    refine ⟨_, rfl, Quiescence.pairwise_ofList _, Quiescence.count_evaluateRestored ?_⟩
    intro kind saved hsaved
    rw [hloaded.inventory_eq, objects_inventory]
    exact Space.isBack_loaded (hnamed kind) hsaved (hbundle kind saved hsaved)
  · rintro failure _ _ ⟨⟨⟩, -⟩

/-- A bundle that lists a network twice, next to objects whose kinds have no state or are not
managed. -/
def doubledBundle : Bundle where
  metadata := { name := some "nightly-0" }
  content :=
    { resources := .ofList [
        (ManagedKind.ipSet.name, [{ metadata := { name := some "pool" } }]),
        (ManagedKind.network.name, [restingNetwork, restingNetwork]),
        ("Volume", [{ metadata := { name := some "disk" } }])] }

/-- The network is configured before it is loaded, and awaited afterwards, once for each time it is
listed; the other objects are not awaited. -/
theorem doubledBundle_awaits :
    ManagedKind.network.isFinished restingNetwork = true ∧
    ∃ report, ((loadAndReport {} "cloud" doubledBundle restingRequest).run
        (Cluster.respond default) restingCluster).1.1 = .ok report ∧
      report.holdUps.count ⟨"Network", "ctlplane"⟩ = 2 ∧
      report.holdUps.count ⟨"IpSet", "pool"⟩ = 0 ∧ report.holdUps.count ⟨"Volume", "disk"⟩ = 0 := by
  have hnamed : ∀ kind : ManagedKind,
      ((restingCluster.space "cloud").ofKind kind.name).Named Resource.metadata := by
    intro kind
    cases kind <;> decide +kernel
  have hbundle : ∀ kind : ManagedKind, ∀ saved ∈ doubledBundle.content.objects kind.name,
      saved.metadata.name.isSome = true := by
    intro kind
    cases kind <;> decide +kernel
  have hawaits := awaits_after_load {} "cloud" doubledBundle restingRequest restingCluster hnamed
    hbundle
  obtain ⟨report, houtcome, -, hcount⟩ := Dialogue.Ensures.ends hawaits
    (Dialogue.yields_transcript (Cluster.respond default) _ restingCluster)
    (Dialogue.path_transcript _ (fun question cluster =>
      .performed (Cluster.performs_respond default question cluster)) _ _)
  refine ⟨by decide +kernel, report, houtcome, ?_, ?_, ?_⟩ <;> rw [hcount] <;> decide +kernel

end Saga

end NamespaceBackup
