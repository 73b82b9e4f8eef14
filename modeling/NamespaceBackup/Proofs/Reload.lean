import NamespaceBackup.Proofs.Contents
import NamespaceBackup.Saga.Restore

/-!
# Loading a bundle

Loading a bundle into a cluster with nobody else around always succeeds, and what it makes of the
namespace is a function of what was there. Into a namespace where nothing is managed it brings back
what the bundle has, and nothing else.

## Main definitions

* `ManagedKind.waiting`, `Resource.restored`, `Inventory.restored`: what is loaded
* `Space.loaded`: a namespace after a bundle was loaded into it

## Main results

* `Saga.loadObjects_changes`: loading succeeds and gives the loaded namespace
* `Space.inventory_loaded`: what a clean namespace holds once a bundle is loaded
-/

namespace NamespaceBackup

/-! ## What is loaded -/

/-- The status of an object of a kind that waits for its controller, if the kind has a state. -/
def ManagedKind.waiting (kind : ManagedKind) (reason : String) : Option Json :=
  match kind.stateLocation with
  | .currentState => some <| .object [("currentState", .str "Waiting"), ("conditions", .arr [])]
  | .provisioningStatus => some <| .object [("provisioningStatus", .object
      [("state", .str "Waiting"), ("reason", .str reason)])]
  | .nowhere => none

/-- What a restore makes of saved metadata: name, labels and annotations are kept, and the namespace
is that of the restore. -/
def Metadata.restored (ns : String) (saved : Metadata) : Metadata where
  name := saved.name
  ns := some ns
  labels := saved.labels
  annotations := saved.annotations

/-- A saved object that has a name is loaded under that name. -/
theorem Resource.anyName_reloaded {ns : String} (saved : Resource)
    (h : saved.metadata.name.isSome = true) : (saved.reloaded ns).anyName = saved.anyName := by
  obtain ⟨name, hname⟩ := Option.isSome_iff_exists.1 h
  simp [anyName, Metadata.anyName, reloaded, Metadata.reloaded, hname]

/-- What a restore makes of a saved object: type and fields are kept, and the status is that of an
object that waits for its controller. -/
def Resource.restored (ns reason : String) (kind : ManagedKind) (saved : Resource) : Resource where
  types := saved.types
  metadata := saved.metadata.restored ns
  fields :=
    match kind.waiting reason with
    | some status => (saved.fields.erase "status").insert "status" status
    | none => saved.fields.erase "status"

/-- What a restore makes of a saved config map. -/
def ConfigMap.restored (ns : String) (saved : ConfigMap) : ConfigMap :=
  { saved with metadata := saved.metadata.restored ns }

/-- What a restore makes of a saved secret. -/
def Secret.restored (ns : String) (saved : Secret) : Secret :=
  { saved with metadata := saved.metadata.restored ns }

/-- What a restore makes of a saved inventory. -/
def Inventory.restored (ns reason : String) (saved : Inventory) : Inventory :=
  .gather (fun kind => (saved.objects kind.name).map (Resource.restored ns reason kind))
    (saved.configMaps.map (ConfigMap.restored ns)) (saved.secrets.map (Secret.restored ns))

theorem ManagedKind.waitingStatus_eq (kind : ManagedKind) (reason : String) :
    kind.waitingStatus reason =
      (kind.waiting reason).map fun status => .object [("status", status)] := by
  cases kind <;> rfl

/-- A waiting status has nothing that a merge patch would drop. -/
theorem ManagedKind.mergedField_waiting {kind : ManagedKind} {reason : String} {status : Json}
    (h : kind.waiting reason = some status) : Json.mergedField none status = some status := by
  have hstr : ∀ text, Json.mergedField none (.str text) = some (.str text) := by
    simp [Json.mergedField, Json.merge]
  have harr : ∀ items, Json.mergedField none (.arr items) = some (.arr items) := by
    simp [Json.mergedField, Json.merge]
  rw [waiting] at h
  split at h
  case h_1 =>
    cases h
    exact Json.mergedField_none_object (by simp [hstr, harr])
  case h_2 =>
    cases h
    refine Json.mergedField_none_object ?_
    simpa using Json.mergedField_none_object (by simp [hstr])
  case h_3 => cases h

/-- The status that a loaded object is given is all the status it has. -/
theorem Resource.patched_reloaded {ns reason : String} {kind : ManagedKind} {status : Json}
    (h : kind.waiting reason = some status) (saved : Resource) :
    (saved.reloaded ns).patched (.object [("status", status)]) = saved.restored ns reason kind := by
  have hascending : Assoc.Ascending [("status", status)] := List.pairwise_singleton ..
  rw [Resource.restored, h, Json.object, Dict.ofList_eq hascending]
  refine congrArg (Resource.mk _ _) (Dict.ext_find? fun name => ?_)
  refine ((saved.reloaded ns).find?_patched hascending name).trans ?_
  -- A reloaded object has no status, so the patch makes all of it.
  by_cases hname : "status" = name
  · subst hname
    simp [Assoc.find?, reloaded, ManagedKind.mergedField_waiting h]
  · simp [Assoc.find?, reloaded, hname]

/-! ## How it is loaded -/

namespace Saga

/-- The objects of a kind once a saved one was applied and given its status. -/
def loadInto (ns reason : String) (kind : ManagedKind) (objects : Dict Resource)
    (saved : Resource) : Dict Resource :=
  let object := saved.reloaded ns
  match kind.waitingStatus reason with
  | some status => (Space.applied objects object).modify object.anyName (·.patched status)
  | none => Space.applied objects object

/-- Loading an object whose name is free stores what a restore makes of it. -/
theorem loadInto_of_find?_eq_none {ns reason name : String} {kind : ManagedKind}
    {objects : Dict Resource} {saved : Resource} (hname : saved.metadata.name = some name)
    (hfree : objects.find? name = none) :
    loadInto ns reason kind objects saved =
      objects.insert name (saved.restored ns reason kind) := by
  have hreloaded : (saved.reloaded ns).anyName = name := by
    simp [Resource.anyName, Metadata.anyName, Resource.reloaded, Metadata.reloaded, hname]
  have happlied : Space.applied objects (saved.reloaded ns) =
      objects.insert name (saved.reloaded ns) := by
    simp [Space.applied, hreloaded, hfree]
  rw [loadInto, hreloaded, happlied, ManagedKind.waitingStatus_eq]
  cases hwaiting : kind.waiting reason with
  | none =>
    simp [Resource.restored, Resource.reloaded, Metadata.restored, Metadata.reloaded, hwaiting]
  | some status => simp [Dict.modify, Resource.patched_reloaded hwaiting]

/-- Loading objects under free names stores what a restore makes of them. -/
theorem foldl_loadInto {ns reason : String} {kind : ManagedKind}
    {pairs : List (String × Resource)} (hpairs : Assoc.Ascending pairs)
    (hnames : ∀ pair ∈ pairs, pair.2.metadata.name = some pair.1) {objects : Dict Resource}
    (hfree : ∀ pair ∈ pairs, objects.find? pair.1 = none) :
    (pairs.map Prod.snd).foldl (loadInto ns reason kind) objects =
      pairs.foldl (fun objects pair =>
        objects.insert pair.1 (pair.2.restored ns reason kind)) objects := by
  induction pairs generalizing objects with
  | nil => rfl
  | cons pair pairs ih =>
    obtain ⟨hless, hrest⟩ := List.pairwise_cons.1 hpairs
    rw [List.map_cons, List.foldl_cons, List.foldl_cons,
      loadInto_of_find?_eq_none (hnames pair (by simp)) (hfree pair (by simp))]
    -- The pairs are in order, so none of the later names has been taken.
    refine ih hrest (fun other hother => hnames other (by simp [hother])) fun other hother => ?_
    have hne : pair.1 ≠ other.1 := fun heq => String.lt_irrefl _ (heq ▸ hless other hother)
    rw [Dict.find?_insert_of_ne hne]
    exact hfree other (by simp [hother])

/-- Loading the objects of a kind where there are none stores what a restore makes of them. -/
theorem foldl_loadInto_empty {ns reason : String} {kind : ManagedKind} {saved : Dict Resource}
    (h : saved.Named Resource.metadata) :
    saved.values.foldl (loadInto ns reason kind) .empty =
      saved.map (Resource.restored ns reason kind) := by
  rw [Dict.values, foldl_loadInto saved.ascending h fun _ _ => rfl]
  have hmap := Dict.ofList_eq (saved.map (Resource.restored ns reason kind)).ascending
  rw [Dict.ofList, Dict.map, List.foldl_map] at hmap
  exact hmap

end Saga

/-! ## The loaded namespace -/

/-- The objects of a kind among all managed ones. -/
def ManagedKind.among (kind : ManagedKind) (managed : Dict (Dict Resource)) : Dict Resource :=
  (managed.find? kind.name).getD .empty

namespace Space

/-- The managed objects once those of a kind were loaded. -/
def loadKind (ns reason : String) (content : Bundle.Content) (managed : Dict (Dict Resource))
    (kind : ManagedKind) : Dict (Dict Resource) :=
  (content.objects kind.name).foldl (fun managed saved =>
    managed.insert kind.name (Saga.loadInto ns reason kind (kind.among managed) saved)) managed

/-- A namespace after a bundle was loaded into it. -/
def loaded (ns reason : String) (content : Bundle.Content) (space : Space) : Space :=
  { space with
    managed := ManagedKind.all.foldl (loadKind ns reason content) space.managed
    configMaps := content.configMaps.foldl
      (fun configMaps m => configMaps.insert (m.reloaded ns).anyName (m.reloaded ns))
      space.configMaps
    secrets := content.secrets.foldl
      (fun secrets s => secrets.insert (s.reloaded ns).anyName (s.reloaded ns)) space.secrets }

end Space

section Among

variable {ns reason : String} {content : Bundle.Content} {managed : Dict (Dict Resource)}
  {kind other : ManagedKind} {kinds : List ManagedKind}

theorem ManagedKind.among_insert {objects : Dict Resource} :
    kind.among (managed.insert other.name objects) =
      if other = kind then objects else kind.among managed := by
  rw [among, Dict.find?_insert]
  by_cases heq : other = kind
  · simp [heq]
  · have hname : other.name ≠ kind.name := fun hname => heq (ManagedKind.name_injective hname)
    simp [heq, hname, among]

namespace Space

/-- Loading the objects of a kind changes no other kind. -/
theorem among_loadKind :
    kind.among (loadKind ns reason content managed other) =
      if other = kind then
        (content.objects kind.name).foldl (Saga.loadInto ns reason kind) (kind.among managed)
      else kind.among managed := by
  rw [loadKind]
  by_cases heq : other = kind
  · subst heq
    rw [if_pos rfl]
    generalize content.objects other.name = objects
    induction objects generalizing managed with
    | nil => rfl
    | cons saved objects ih => rw [List.foldl_cons, ih, ManagedKind.among_insert, if_pos rfl]; rfl
  · rw [if_neg heq]
    generalize content.objects other.name = objects
    induction objects generalizing managed with
    | nil => rfl
    | cons saved objects ih => rw [List.foldl_cons, ih, ManagedKind.among_insert, if_neg heq]

theorem among_foldl_loadKind_of_notMem (h : kind ∉ kinds) :
    kind.among (kinds.foldl (loadKind ns reason content) managed) = kind.among managed := by
  induction kinds generalizing managed with
  | nil => rfl
  | cons first kinds ih =>
    obtain ⟨hne, hrest⟩ := not_or.1 (mt List.mem_cons.2 h)
    rw [List.foldl_cons, ih hrest, among_loadKind, if_neg (Ne.symm hne)]

theorem among_foldl_loadKind (hmem : kind ∈ kinds) (hnodup : kinds.Nodup) :
    kind.among (kinds.foldl (loadKind ns reason content) managed) =
      (content.objects kind.name).foldl (Saga.loadInto ns reason kind) (kind.among managed) := by
  induction kinds generalizing managed with
  | nil => cases hmem
  | cons first kinds ih =>
    obtain ⟨hfirst, hnodup⟩ := List.nodup_cons.1 hnodup
    rw [List.foldl_cons]
    by_cases heq : first = kind
    · subst heq
      rw [among_foldl_loadKind_of_notMem hfirst, among_loadKind, if_pos rfl]
    · have hmem : kind ∈ kinds := by simpa [Ne.symm heq] using hmem
      rw [ih hmem hnodup, among_loadKind, if_neg heq]

/-- The objects of a kind in the loaded namespace. -/
theorem ofKind_loaded (space : Space) :
    (space.loaded ns reason content).ofKind kind.name =
      (content.objects kind.name).foldl (Saga.loadInto ns reason kind)
        (space.ofKind kind.name) :=
  among_foldl_loadKind (ManagedKind.mem_all kind) (by decide)

end Space

end Among

/-- What a clean namespace holds once a bundle is loaded that captured an inventory. -/
theorem Space.inventory_loaded {during : Cluster → Prop} {ns selector reason : String}
    {inventory : Inventory} {space : Space} {names : Dict String}
    (hcollected : inventory.CollectedWhile during ns selector)
    (hnamed : ∀ cluster, during cluster → (cluster.space ns).Named)
    (hclean : (space.inventory selector).isEmpty = true) :
    (space.loaded ns reason (inventory.toBundle names)).inventory selector =
      inventory.restored ns reason := by
  have hobjects : ∀ kind : ManagedKind,
      ((space.loaded ns reason (inventory.toBundle names)).ofKind kind.name).values =
        (inventory.objects kind.name).map (Resource.restored ns reason kind) := by
    intro kind
    obtain ⟨cluster, hduring, hsaved⟩ := hcollected.managed kind
    have hempty : space.ofKind kind.name = .empty := Dict.eq_empty_of_values <| by
      simpa [Space.inventory] using Inventory.objects_of_isEmpty hclean kind.name
    rw [ofKind_loaded, hempty, Inventory.objects_toBundle, hsaved, Saga.foldl_loadInto_empty
      ((hnamed cluster hduring).managed kind (ManagedKind.mem_all kind)), Dict.values_map]
  obtain ⟨-, hnoConfigMaps, hnoSecrets⟩ := Inventory.isEmpty_iff.1 hclean
  -- A restore keeps labels, so it brings back what was selected and makes nothing else selected.
  have hconfigMaps : ((space.loaded ns reason (inventory.toBundle names)).configMaps.filter
      (Selector.selects selector ·.metadata)).values =
        inventory.configMaps.map (ConfigMap.restored ns) := by
    obtain ⟨cluster, hduring, hsaved⟩ := hcollected.configMaps
    rw [hsaved, ← Dict.values_map, loaded, Inventory.toBundle, hsaved]
    refine congrArg Dict.values
      (Dict.filter_foldl_insert_values ConfigMap.metadata ?_ ?_ ?_)
    · exact (hnamed cluster hduring).configMaps
    · exact fun _ => rfl
    · exact hnoConfigMaps
  have hsecrets : ((space.loaded ns reason (inventory.toBundle names)).secrets.filter
      (Selector.selects selector ·.metadata)).values =
        inventory.secrets.map (Secret.restored ns) := by
    obtain ⟨cluster, hduring, hsaved⟩ := hcollected.secrets
    rw [hsaved, ← Dict.values_map, loaded, Inventory.toBundle, hsaved]
    refine congrArg Dict.values
      (Dict.filter_foldl_insert_values Secret.metadata ?_ ?_ ?_)
    · exact (hnamed cluster hduring).secrets
    · exact fun _ => rfl
    · exact hnoSecrets
  rw [Space.inventory, Inventory.restored, funext hobjects, hconfigMaps, hsecrets]

namespace Saga

open Cluster (Changes)

variable {σ : Type} {ns reason : String} {content : Bundle.Content} {kind : ManagedKind}

/-- Patching an object that is there succeeds. -/
theorem perform_patchManagedStatus {cluster : Cluster} {name : String} {patch : Json}
    {stored : Resource} (h : ((cluster.space ns).ofKind kind.name).find? name = some stored) :
    cluster.perform (.patchManagedStatus ns kind name patch) =
      (.ok (), cluster.withSpace ns ((cluster.space ns).withKind kind.name
        (((cluster.space ns).ofKind kind.name).modify name (·.patched patch)))) := by
  simp only [Cluster.perform, Cluster.modifyOrFail, Cluster.commit, Dict.modify, h]
  rfl

/-- Loading an object succeeds, because it is there by the time its status is written. -/
theorem loadObject_changes (saved : Resource) :
    Changes ns (loadObject ns reason kind saved : Activity σ Unit) fun space =>
      space.withKind kind.name (loadInto ns reason kind (space.ofKind kind.name) saved) := by
  intro s cluster
  rw [loadObject]
  refine Cluster.ensures_call_bind_alone.2 (Activity.then_ok.2 ?_)
  simp only [loadInto]
  cases kind.waitingStatus reason with
  | none => exact ⟨rfl, rfl, Cluster.space_update ..⟩
  | some status =>
    refine Cluster.ensures_call_alone.2 ?_
    have hspace : (cluster.perform (.applyManaged ns kind (saved.reloaded ns))).2.space ns =
        (cluster.space ns).withKind kind.name
          (Space.applied ((cluster.space ns).ofKind kind.name) (saved.reloaded ns)) :=
      Cluster.space_update ..
    obtain ⟨stored, hstored⟩ : ∃ stored, (((cluster.perform (.applyManaged ns kind
        (saved.reloaded ns))).2.space ns).ofKind kind.name).find? (saved.reloaded ns).anyName =
          some stored := by
      rw [hspace, Space.ofKind_withKind, if_pos rfl, Space.applied, Dict.find?_insert, if_pos rfl]
      exact ⟨_, rfl⟩
    rw [perform_patchManagedStatus hstored, hspace]
    refine ⟨rfl, rfl, ?_⟩
    rw [Cluster.space_withSpace, Space.ofKind_withKind, if_pos rfl, Space.withKind_withKind]

theorem loadKind_changes (kind : ManagedKind) :
    Changes ns (loadKind ns reason content kind : Activity σ Unit) fun space =>
      { space with managed := Space.loadKind ns reason content space.managed kind } :=
  (Changes.forM fun saved _ => loadObject_changes saved).congr fun space =>
    List.foldl_hom (fun managed => { space with managed }) fun _ _ => rfl

theorem applyConfigMap_changes (m : ConfigMap) :
    Changes ns (Activity.call (.applyConfigMap ns m) : Activity σ Unit) fun space =>
      { space with configMaps := space.configMaps.insert m.anyName m } := fun _ _ =>
  Cluster.ensures_call_alone.2 ⟨rfl, rfl, Cluster.space_update ..⟩

theorem applySecret_changes (secret : Secret) :
    Changes ns (Activity.call (.applySecret ns secret) : Activity σ Unit) fun space =>
      { space with secrets := space.secrets.insert secret.anyName secret } := fun _ _ =>
  Cluster.ensures_call_alone.2 ⟨rfl, rfl, Cluster.space_update ..⟩

/-- Loading succeeds and gives the loaded namespace. -/
theorem loadObjects_changes :
    Changes ns (loadObjects ns reason content : Activity σ Unit)
      (Space.loaded ns reason content) := by
  have hkinds : Changes ns
      (ManagedKind.all.forM (loadKind ns reason content) : Activity σ Unit) fun space =>
        { space with
          managed := ManagedKind.all.foldl (Space.loadKind ns reason content) space.managed } :=
    (Changes.forM fun kind _ => loadKind_changes kind).congr fun space =>
      List.foldl_hom (fun managed => { space with managed }) fun _ _ => rfl
  have hconfigMaps : Changes ns
      (content.configMaps.forM fun m => Activity.call (.applyConfigMap ns (m.reloaded ns)) :
        Activity σ Unit) fun space =>
        { space with
          configMaps := content.configMaps.foldl
            (fun configMaps m => configMaps.insert (m.reloaded ns).anyName (m.reloaded ns))
            space.configMaps } :=
    (Changes.forM fun m _ => applyConfigMap_changes (m.reloaded ns)).congr fun space =>
      List.foldl_hom (fun configMaps => { space with configMaps }) fun _ _ => rfl
  have hsecrets : Changes ns
      (content.secrets.forM fun s => Activity.call (.applySecret ns (s.reloaded ns)) :
        Activity σ Unit) fun space =>
        { space with
          secrets := content.secrets.foldl
            (fun secrets s => secrets.insert (s.reloaded ns).anyName (s.reloaded ns))
            space.secrets } :=
    (Changes.forM fun secret _ => applySecret_changes (secret.reloaded ns)).congr fun space =>
      List.foldl_hom (fun secrets => { space with secrets }) fun _ _ => rfl
  exact (hkinds.bind (hconfigMaps.bind hsecrets)).congr fun space => rfl

end Saga

end NamespaceBackup
