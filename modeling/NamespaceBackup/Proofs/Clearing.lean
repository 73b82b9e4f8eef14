import NamespaceBackup.Proofs.Contents
import NamespaceBackup.Saga.Restore

/-!
# Clearing a namespace

With nobody else around, everything that was listed of a named namespace is deleted in one pass, so
the next pass finds nothing.

## Main definitions

* `Space.cleared`: a namespace after an inventory was deleted from it

## Main results

* `Inventory.clear_alone`: deleting an inventory gives the cleared namespace
* `Space.isEmpty_inventory_cleared`: nothing is managed there any more
-/

namespace NamespaceBackup

section Folds

variable {α β : Type} {P : β → Prop} {f : β → α → β} {xs : List α}

/-- A fold keeps what each of its steps keeps. -/
theorem foldl_keeps (hkeeps : ∀ b a, P b → P (f b a)) {b : β} (hb : P b) : P (xs.foldl f b) := by
  induction xs generalizing b with
  | nil => exact hb
  | cons x xs ih => exact ih (hkeeps b x hb)

/-- A fold gets what one of its steps makes and all others keep. -/
theorem foldl_of_mem {x : α} (hx : x ∈ xs) (hmakes : ∀ b, P (f b x))
    (hkeeps : ∀ b a, P b → P (f b a)) (b : β) : P (xs.foldl f b) := by
  obtain ⟨before, after, rfl⟩ := List.append_of_mem hx
  rw [List.foldl_append, List.foldl_cons]
  exact foldl_keeps hkeeps (hmakes _)

end Folds

theorem Dict.erase_of_not_contains {α : Type} {dict : Dict α} {name : String}
    (h : ¬ dict.contains name = true) : dict.erase name = dict := by
  refine ext_find? fun key => ?_
  rw [find?_erase]
  split
  case isTrue hname =>
    subst hname
    rwa [contains, Bool.not_eq_true, Option.isSome_eq_false_iff, Option.isNone_iff_eq_none,
      eq_comm] at h
  case isFalse => rfl

/-- Erasing everything that is selected leaves nothing that is. -/
theorem Dict.Named.filter_foldl_erase {α : Type} {metadata : α → Metadata} {dict : Dict α}
    (h : dict.Named metadata) (p : α → Bool) :
    (((dict.filter p).values.foldl
      (fun dict value => dict.erase (metadata value).anyName) dict).filter p).values = [] := by
  have hempty : ((dict.filter p).values.foldl
      (fun dict value => dict.erase (metadata value).anyName) dict).filter p = .empty := by
    refine ext_find? fun name => ?_
    rw [find?_filter, find?_empty]
    -- Nothing is brought back, so a name is free from its turn on, or was free all the time.
    have hkeeps : ∀ (dict : Dict α) (value : α), (dict.find? name).filter p = none →
        ((dict.erase (metadata value).anyName).find? name).filter p = none := by
      intro dict value hnone
      rw [find?_erase]
      split
      · rfl
      · exact hnone
    cases hfind : (dict.filter p).find? name with
    | none =>
      rw [find?_filter] at hfind
      exact foldl_keeps (P := fun dict : Dict α => (dict.find? name).filter p = none) hkeeps hfind
    | some value =>
      have hmem := mem_entries_iff.2 hfind
      have hname := h.anyName (List.mem_of_mem_filter hmem)
      refine foldl_of_mem (P := fun dict : Dict α => (dict.find? name).filter p = none)
        (List.mem_map_of_mem hmem) (fun dict => ?_) hkeeps dict
      rw [find?_erase, if_pos hname]
      rfl
  rw [hempty]
  rfl

namespace Space

/-- The namespace without an object. -/
def without (kind : ManagedKind) (space : Space) (object : Resource) : Space :=
  if (space.ofKind kind.name).contains object.anyName then
    space.withKind kind.name ((space.ofKind kind.name).erase object.anyName)
  else space

/-- The namespace without the objects of an entry of an inventory. -/
def withoutEntry (space : Space) (entry : String × List Resource) : Space :=
  match ManagedKind.ofName? entry.1 with
  | some kind => entry.2.foldl (without kind) space
  | none => space

/-- A namespace after an inventory was deleted from it. -/
def cleared (inventory : Inventory) (space : Space) : Space :=
  { space with
    managed := (inventory.resources.entries.foldl withoutEntry space).managed
    configMaps := inventory.configMaps.foldl
      (fun configMaps m => configMaps.erase m.anyName) space.configMaps
    secrets := inventory.secrets.foldl (fun secrets s => secrets.erase s.anyName) space.secrets }

variable {space : Space} {kind : ManagedKind} {name : String}

theorem ofKind_without (space : Space) (kind other : ManagedKind) (object : Resource) :
    (space.without other object).ofKind kind.name =
      if other = kind then (space.ofKind kind.name).erase object.anyName
      else space.ofKind kind.name := by
  rw [without]
  by_cases heq : other = kind
  · subst heq
    rw [if_pos rfl]
    split
    case isTrue => rw [ofKind_withKind, if_pos rfl]
    case isFalse habsent => rw [Dict.erase_of_not_contains habsent]
  · have hname : other.name ≠ kind.name := fun hname => heq (ManagedKind.name_injective hname)
    rw [if_neg heq]
    split
    · rw [ofKind_withKind, if_neg hname]
    · rfl

/-- Only managed objects are deleted with an entry. -/
theorem foldl_withoutEntry (space : Space) (entries : List (String × List Resource)) :
    entries.foldl withoutEntry space =
      { space with managed := (entries.foldl withoutEntry space).managed } := by
  have hwithout : ∀ kind (after : Space) object, after = { space with managed := after.managed } →
      without kind after object =
        { space with managed := (without kind after object).managed } := by
    intro kind after object hafter
    rw [without]
    split
    · rw [hafter]
      rfl
    · exact hafter
  refine foldl_keeps (P := fun after : Space => after = { space with managed := after.managed })
    (fun after entry hafter => ?_) rfl
  rw [withoutEntry]
  split
  · exact foldl_keeps (P := fun after : Space => after = { space with managed := after.managed })
      (fun after object => hwithout _ after object) hafter
  · exact hafter

/-- No object of a kind goes by a name. -/
def Lacks (kind : ManagedKind) (name : String) (space : Space) : Prop :=
  (space.ofKind kind.name).find? name = none

theorem Lacks.without (h : space.Lacks kind name) (other : ManagedKind) (object : Resource) :
    (space.without other object).Lacks kind name := by
  rw [Lacks, ofKind_without]
  split
  · rw [Dict.find?_erase, h, ite_self]
  · exact h

theorem Lacks.withoutEntry (h : space.Lacks kind name) (entry : String × List Resource) :
    (space.withoutEntry entry).Lacks kind name := by
  rw [Space.withoutEntry]
  split
  · exact foldl_keeps (fun _ object hspace => hspace.without _ object) h
  · exact h

/-- Without an entry, a namespace lacks all objects of that entry. -/
theorem lacks_withoutEntry (space : Space) {objects : List Resource} {object : Resource}
    (hobject : object ∈ objects) :
    (space.withoutEntry (kind.name, objects)).Lacks kind object.anyName := by
  rw [withoutEntry]
  simp only [ManagedKind.ofName?_name]
  refine foldl_of_mem hobject (fun space => ?_) (fun _ other hspace => hspace.without _ other) space
  rw [Lacks, ofKind_without, if_pos rfl, Dict.find?_erase, if_pos rfl]

/-- Once everything that is managed was deleted, nothing is managed any more. -/
theorem ofKind_cleared (h : space.Named) (selector : String) (kind : ManagedKind) :
    ((space.cleared (space.inventory selector)).ofKind kind.name).values = [] := by
  suffices hlacks : ∀ name, (space.cleared (space.inventory selector)).Lacks kind name by
    rw [Dict.ext_find? (y := .empty) hlacks]
    rfl
  intro name
  have hkeeps := fun (space : Space) entry (hspace : space.Lacks kind name) =>
    hspace.withoutEntry entry
  cases hfind : (space.ofKind kind.name).find? name with
  | none => exact foldl_keeps (P := Lacks kind name) hkeeps hfind
  | some object =>
    have hmem := Dict.mem_entries_iff.2 hfind
    have hname : object.anyName = name := (h.managed kind (ManagedKind.mem_all kind)).anyName hmem
    have hobject : object ∈ (space.ofKind kind.name).values := List.mem_map_of_mem hmem
    have hentry : (kind.name, (space.ofKind kind.name).values) ∈
        (space.inventory selector).resources.entries := by
      rw [Dict.mem_entries_iff, inventory, Inventory.find?_gather,
        if_neg (List.ne_nil_of_mem hobject)]
    refine foldl_of_mem (P := Lacks kind name) hentry (fun space => ?_) hkeeps space
    rw [← hname]
    exact lacks_withoutEntry space hobject

/-- Once everything that is managed was deleted, there is nothing to collect. -/
theorem isEmpty_inventory_cleared (h : space.Named) (selector : String) :
    ((space.cleared (space.inventory selector)).inventory selector).isEmpty = true := by
  have hconfigMaps : ((space.cleared (space.inventory selector)).configMaps.filter
      (Selector.selects selector ·.metadata)).values = [] := h.configMaps.filter_foldl_erase _
  have hsecrets : ((space.cleared (space.inventory selector)).secrets.filter
      (Selector.selects selector ·.metadata)).values = [] := h.secrets.filter_foldl_erase _
  rw [inventory, hconfigMaps, hsecrets]
  exact Inventory.isEmpty_gather (ofKind_cleared h selector)

end Space

namespace Inventory

open Cluster (Changes)

variable {σ : Type} {ns : String}

/-- What is gone already counts as deleted. -/
theorem tolerate_changes {x : Activity σ Unit} {change : Space → Space}
    (h : ∀ s cluster, Activity.Ensures Cluster.alone x s cluster fun outcome s' after =>
      (∀ failure, outcome = .error failure → failure.isNotFound = true) ∧ s' = s ∧
        after.space ns = change (cluster.space ns)) : Changes ns (tolerate x) change := by
  intro s cluster
  rw [tolerate, Activity.ensures_bind, Activity.ensures_outcome]
  refine (h s cluster).mono fun outcome s' after ⟨hnotFound, hs, hafter⟩ => ?_
  cases outcome with
  | ok => exact ⟨rfl, hs, hafter⟩
  | error failure =>
    simp only [Activity.then_ok, hnotFound failure rfl, Bool.true_or]
    exact ⟨rfl, hs, hafter⟩

/-- A deletion fails only if there is nothing to delete. -/
theorem commit_eraseOrFail {α : Type} (cluster : Cluster) (ns : String) (dict : Dict α)
    (name : String) (store : Space → Dict α → Space) :
    (∀ failure, (cluster.commit ns (Cluster.eraseOrFail dict name) store).1 = .error failure →
      failure.isNotFound = true) ∧
    (cluster.commit ns (Cluster.eraseOrFail dict name) store).2.space ns =
      if dict.contains name then store (cluster.space ns) (dict.erase name)
      else cluster.space ns := by
  rw [Cluster.eraseOrFail]
  split
  · exact ⟨nofun, Cluster.space_withSpace ..⟩
  · exact ⟨by rintro _ ⟨⟩; rfl, rfl⟩

/-- To erase what is not there changes nothing. -/
theorem ite_store_erase {α : Type} {space : Space} {dict : Dict α}
    (store : Space → Dict α → Space) (h : store space dict = space) (name : String) :
    (if dict.contains name then store space (dict.erase name) else space) =
      store space (dict.erase name) := by
  split
  case isTrue => rfl
  case isFalse habsent => rw [Dict.erase_of_not_contains habsent, h]

theorem deleteManaged_changes (kind : ManagedKind) (object : Resource) :
    Changes ns
      (tolerate (Activity.call (.deleteManaged ns kind object.anyName)) : Activity σ Unit)
      (·.without kind object) :=
  tolerate_changes fun _ cluster => Cluster.ensures_call_alone.2 <| by
    obtain ⟨hnotFound, hspace⟩ := commit_eraseOrFail cluster ns
      ((cluster.space ns).ofKind kind.name) object.anyName (·.withKind kind.name ·)
    exact ⟨hnotFound, rfl, hspace⟩

theorem clearKind_changes {entry : String × List Resource}
    (h : ∃ kind, ManagedKind.ofName? entry.1 = some kind) :
    Changes ns (clearKind ns entry.1 entry.2 : Activity σ Unit) (·.withoutEntry entry) := by
  obtain ⟨kind, hkind⟩ := h
  rw [clearKind, hkind]
  refine (Changes.forM fun object _ => deleteManaged_changes kind object).congr fun space => ?_
  rw [Space.withoutEntry, hkind]

theorem deleteConfigMap_changes (name : String) :
    Changes ns (tolerate (Activity.call (.deleteConfigMap ns name)) : Activity σ Unit)
      fun space => { space with configMaps := space.configMaps.erase name } :=
  tolerate_changes fun _ cluster => Cluster.ensures_call_alone.2 <| by
    obtain ⟨hnotFound, hspace⟩ := commit_eraseOrFail cluster ns
      (cluster.space ns).configMaps name ({ · with configMaps := · })
    exact ⟨hnotFound, rfl,
      hspace.trans (ite_store_erase ({ · with configMaps := · }) rfl name)⟩

theorem deleteSecret_changes (name : String) :
    Changes ns (tolerate (Activity.call (.deleteSecret ns name)) : Activity σ Unit)
      fun space => { space with secrets := space.secrets.erase name } :=
  tolerate_changes fun _ cluster => Cluster.ensures_call_alone.2 <| by
    obtain ⟨hnotFound, hspace⟩ := commit_eraseOrFail cluster ns
      (cluster.space ns).secrets name ({ · with secrets := · })
    exact ⟨hnotFound, rfl, hspace.trans (ite_store_erase ({ · with secrets := · }) rfl name)⟩

/-- Deleting an inventory that is not empty gives the cleared namespace. -/
theorem clear_alone {inventory : Inventory} (hempty : ¬ inventory.isEmpty = true)
    (hkinds : inventory.KnowsKinds) (s : σ) (cluster : Cluster) :
    Activity.Ensures Cluster.alone (inventory.clear ns) s cluster fun outcome s' after =>
      outcome = .ok false ∧ s' = s ∧ after.space ns = (cluster.space ns).cleared inventory := by
  have hmanaged : Changes ns
      (inventory.resources.entries.forM fun entry => clearKind ns entry.1 entry.2 :
        Activity σ Unit) fun space => inventory.resources.entries.foldl Space.withoutEntry space :=
    .forM fun entry hentry => clearKind_changes (hkinds entry hentry)
  have hconfigMaps : Changes ns
      (inventory.configMaps.forM fun m =>
        tolerate (Activity.call (.deleteConfigMap ns m.anyName)) : Activity σ Unit) fun space =>
        { space with
          configMaps := inventory.configMaps.foldl
            (fun configMaps m => configMaps.erase m.anyName) space.configMaps } :=
    (Changes.forM fun m _ => deleteConfigMap_changes m.anyName).congr fun space =>
      List.foldl_hom (fun configMaps => { space with configMaps }) fun _ _ => rfl
  have hsecrets : Changes ns
      (inventory.secrets.forM fun secret =>
        tolerate (Activity.call (.deleteSecret ns secret.anyName)) : Activity σ Unit) fun space =>
        { space with
          secrets := inventory.secrets.foldl
            (fun secrets s => secrets.erase s.anyName) space.secrets } :=
    (Changes.forM fun secret _ => deleteSecret_changes secret.anyName).congr fun space =>
      List.foldl_hom (fun secrets => { space with secrets }) fun _ _ => rfl
  rw [clear, if_neg hempty]
  refine hmanaged.before fun managed hmanaged => ?_
  refine hconfigMaps.before fun configMaps hconfigMaps => ?_
  refine hsecrets.before fun secrets hsecrets => ⟨rfl, rfl, ?_⟩
  rw [hsecrets, hconfigMaps, hmanaged, Space.foldl_withoutEntry]
  rfl

end Inventory

end NamespaceBackup
