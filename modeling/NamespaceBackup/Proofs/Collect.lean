import Mathlib.Data.List.Basic
import NamespaceBackup.Proofs.Failures
import NamespaceBackup.Proofs.Questions

/-!
# What is collected

An inventory has what the lists of the cluster gave, kind by kind, and nothing else: a kind whose
list was empty has no entry.

## Main definitions

* `Inventory.gather`: the inventory of some lists

## Main results

* `Inventory.objects_gather`: the objects of a kind are those of its list
* `Inventory.collect_ensures`: what is collected is gathered from lists that were answered
* `Inventory.collect_spares`: a collection fails only as one of its calls does
-/

namespace NamespaceBackup.Inventory

open Activity (Asks Ensures)

/-- The list of a kind as an entry; an empty list has none. -/
def gatherKind (lists : ManagedKind → List Resource) (resources : Dict (List Resource))
    (kind : ManagedKind) : Dict (List Resource) :=
  if (lists kind).isEmpty then resources else resources.insert kind.name (lists kind)

/-- The inventory of lists of objects, config maps and secrets. -/
def gather (lists : ManagedKind → List Resource) (configMaps : List ConfigMap)
    (secrets : List Secret) : Inventory where
  resources := ManagedKind.all.foldl (gatherKind lists) .empty
  configMaps := configMaps
  secrets := secrets

/-- Every object is of a managed kind. -/
def KnowsKinds (inventory : Inventory) : Prop :=
  ∀ entry ∈ inventory.resources.entries, ∃ kind, ManagedKind.ofName? entry.1 = some kind

section Gather

variable {lists : ManagedKind → List Resource} {kinds : List ManagedKind}
  {resources : Dict (List Resource)} {configMaps : List ConfigMap} {secrets : List Secret}

theorem find?_gatherKind {kind : ManagedKind} (name : String) :
    (gatherKind lists resources kind).find? name =
      if kind.name = name ∧ lists kind ≠ [] then some (lists kind) else resources.find? name := by
  by_cases hempty : lists kind = []
  · simp [gatherKind, hempty]
  · simp [gatherKind, hempty]

theorem find?_foldl_gatherKind_of_notMem {name : String} (h : ∀ kind ∈ kinds, kind.name ≠ name) :
    (kinds.foldl (gatherKind lists) resources).find? name = resources.find? name := by
  induction kinds generalizing resources with
  | nil => rfl
  | cons kind kinds ih =>
    rw [List.foldl_cons, ih fun k hk => h k (by simp [hk]), find?_gatherKind, if_neg]
    exact fun hname => h kind (by simp) hname.1

theorem find?_foldl_gatherKind {kind : ManagedKind} (hmem : kind ∈ kinds) (hnodup : kinds.Nodup)
    (hnone : resources.find? kind.name = none) :
    (kinds.foldl (gatherKind lists) resources).find? kind.name =
      if lists kind = [] then none else some (lists kind) := by
  induction kinds generalizing resources with
  | nil => cases hmem
  | cons first kinds ih =>
    obtain ⟨hfirst, hnodup⟩ := List.nodup_cons.1 hnodup
    rw [List.foldl_cons]
    by_cases heq : kind = first
    · subst heq
      rw [find?_foldl_gatherKind_of_notMem, find?_gatherKind, hnone]
      · by_cases hempty : lists kind = [] <;> simp [hempty]
      · rintro other hother hname
        exact hfirst (ManagedKind.name_injective hname ▸ hother)
    · have hmem : kind ∈ kinds := by simpa [heq] using hmem
      refine ih hmem hnodup ?_
      rw [find?_gatherKind, if_neg, hnone]
      exact fun hname => heq (ManagedKind.name_injective hname.1).symm

theorem find?_gather (kind : ManagedKind) :
    (gather lists configMaps secrets).resources.find? kind.name =
      if lists kind = [] then none else some (lists kind) :=
  find?_foldl_gatherKind (ManagedKind.mem_all kind) (by decide) rfl

/-- The objects of a kind are those of its list. -/
@[simp] theorem objects_gather (kind : ManagedKind) :
    (gather lists configMaps secrets).objects kind.name = lists kind := by
  rw [objects, find?_gather]
  by_cases hempty : lists kind = [] <;> simp [hempty]

/-- An inventory of empty lists has no entry. -/
theorem isEmpty_gather (h : ∀ kind, lists kind = []) : (gather lists [] []).isEmpty = true := by
  have hentries : ∀ kinds : List ManagedKind, kinds.foldl (gatherKind lists) .empty = .empty := by
    intro kinds
    induction kinds with
    | nil => rfl
    | cons kind kinds ih => rw [List.foldl_cons, gatherKind, h kind]; exact ih
  rw [gather, hentries]
  rfl

/-- What is gathered is of managed kinds. -/
theorem knowsKinds_gather : (gather lists configMaps secrets).KnowsKinds := by
  intro entry h
  by_contra hnone
  have hname : ∀ kind ∈ ManagedKind.all, kind.name ≠ entry.1 := fun kind _ heq =>
    hnone ⟨kind, heq ▸ ManagedKind.ofName?_name kind⟩
  have hfind := Dict.mem_entries_iff.1 h
  rw [gather, find?_foldl_gatherKind_of_notMem hname] at hfind
  cases hfind

/-- The list of a kind that does not come later may be chosen freely. -/
theorem foldl_gatherKind_update {kind : ManagedKind} (h : kind ∉ kinds) (objects : List Resource) :
    (kind :: kinds).foldl (gatherKind (Function.update lists kind objects)) resources =
      kinds.foldl (gatherKind lists)
        (if objects.isEmpty then resources else resources.insert kind.name objects) := by
  rw [List.foldl_cons, gatherKind, Function.update_self]
  refine List.foldl_ext _ _ _ fun resources other hother => ?_
  have hne : other ≠ kind := by
    rintro rfl
    exact h hother
  rw [gatherKind, gatherKind, Function.update_of_ne hne]

end Gather

section Collect

variable {σ ω : Type} {T : Terms Query Query.Answer ω} {s : σ} {w : ω} {ns selector : String}

/-- What every listing keeps and what its answers are, if it is answered at all. -/
structure Listed (T : Terms Query Query.Answer ω) (ns selector : String) (inv : ω → Prop)
    (managed : ManagedKind → List Resource → Prop) (configMaps : List ConfigMap → Prop)
    (secrets : List Secret → Prop) : Prop where
  asks : ∀ w question, inv w → IsListing ns selector question → T.asks w question
  keeps : ∀ w exchange v, inv w → IsListing ns selector exchange.1 → T.answers w exchange v → inv v
  managed : ∀ w kind (objects : List Resource) v, inv w →
    T.answers w ⟨.call (.listManaged ns kind), (.ok objects : Except Failure (List Resource))⟩ v →
    managed kind objects
  configMaps : ∀ w (objects : List ConfigMap) v, inv w →
    T.answers w
      ⟨.call (.listConfigMaps ns selector), (.ok objects : Except Failure (List ConfigMap))⟩ v →
    configMaps objects
  secrets : ∀ w (objects : List Secret) v, inv w →
    T.answers w
      ⟨.call (.listSecrets ns selector), (.ok objects : Except Failure (List Secret))⟩ v →
    secrets objects

variable {inv : ω → Prop} {managed : ManagedKind → List Resource → Prop}
  {configMaps : List ConfigMap → Prop} {secrets : List Secret → Prop}

/-- What is left behind by a part of the collection. -/
def Gathers {α : Type} (inv : ω → Prop) (s : σ) (result : α → Prop) :
    Except Failure α → σ → ω → Prop
  | .ok value, s', v => s' = s ∧ inv v ∧ result value
  | .error _, s', v => s' = s ∧ inv v

theorem foldlM_collectKind_ensures (h : Listed T ns selector inv managed configMaps secrets)
    {kinds : List ManagedKind} (hnodup : kinds.Nodup) (resources : Dict (List Resource))
    (hw : inv w) :
    Ensures T (kinds.foldlM (collectKind ns) resources) s w <| Gathers inv s fun collected =>
      ∃ lists, (∀ kind ∈ kinds, managed kind (lists kind)) ∧
        collected = kinds.foldl (gatherKind lists) resources := by
  induction kinds generalizing resources w with
  | nil => exact ⟨rfl, hw, fun _ => [], by simp, rfl⟩
  | cons kind kinds ih =>
    obtain ⟨hkind, hnodup⟩ := List.nodup_cons.1 hnodup
    rw [List.foldlM_cons, collectKind]
    refine Activity.ensures_bind.2 (Activity.ensures_bind.2 ⟨h.asks w _ hw (.managed kind), ?_⟩)
    intro (answer : Except Failure (List Resource)) v hanswer
    have hv : inv v := h.keeps w _ v hw (.managed kind) hanswer
    rcases answer with failure | objects
    · exact ⟨rfl, hv⟩
    · refine (ih hnodup (if objects.isEmpty then resources else resources.insert kind.name objects)
        hv).mono fun outcome s' u hrest => ?_
      cases outcome with
      | error failure => exact hrest
      | ok collected =>
        obtain ⟨hs, hu, lists, hlists, rfl⟩ := hrest
        -- The kind does not come again, so its list may be set to what was answered.
        refine ⟨hs, hu, Function.update lists kind objects, fun other hother => ?_,
          (foldl_gatherKind_update hkind objects).symm⟩
        by_cases heq : other = kind
        · subst heq
          rw [Function.update_self]
          exact h.managed w other objects v hw hanswer
        · rw [Function.update_of_ne heq]
          exact hlists other (by simpa [heq] using hother)

/-- What is collected is gathered from lists that were answered. -/
theorem collect_ensures (h : Listed T ns selector inv managed configMaps secrets) (hw : inv w) :
    Ensures T (collect ns selector : Activity σ Inventory) s w <| Gathers inv s fun inventory =>
      ∃ lists cs ss, (∀ kind, managed kind (lists kind)) ∧ configMaps cs ∧ secrets ss ∧
        inventory = gather lists cs ss := by
  refine (foldlM_collectKind_ensures h (by decide) .empty hw).bind ?_ fun _ _ _ h => h
  rintro _ s w ⟨rfl, hw, lists, hlists, rfl⟩
  refine Activity.ensures_bind.2 ⟨h.asks w _ hw .configMaps, fun answer v hcs => ?_⟩
  have hv : inv v := h.keeps w _ v hw .configMaps hcs
  rcases answer with failure | cs
  · exact ⟨rfl, hv⟩
  · refine Activity.ensures_bind.2 ⟨h.asks v _ hv .secrets, fun answer u hss => ?_⟩
    have hu : inv u := h.keeps v _ u hv .secrets hss
    rcases answer with failure | ss
    · exact ⟨rfl, hu⟩
    · exact ⟨rfl, hu, lists, cs, ss, fun kind => hlists kind (ManagedKind.mem_all kind),
        h.configMaps w cs v hw hcs, h.secrets v ss u hv hss, rfl⟩

/-- Whatever is answered, what is collected is of managed kinds. -/
theorem collect_knowsKinds
    (hasks : ∀ w question, IsListing ns selector question → T.asks w question) :
    Ensures T (collect ns selector : Activity σ Inventory) s w fun outcome _ _ =>
      ∀ inventory, outcome = .ok inventory → inventory.KnowsKinds := by
  have hlisted : Listed T ns selector (fun _ => True) (fun _ _ => True) (fun _ => True)
      (fun _ => True) := by
    refine ⟨fun w question _ => hasks w question, ?_, ?_, ?_, ?_⟩ <;> intros <;> trivial
  refine (collect_ensures hlisted trivial).mono ?_
  rintro _ _ _ hgathers inventory rfl
  obtain ⟨-, -, lists, cs, ss, -, -, -, rfl⟩ := hgathers
  exact knowsKinds_gather

end Collect

/-- A collection fails only as one of its calls does. -/
theorem collect_spares {σ : Type} {hears : Exchange → Prop} {bad : Failure → Prop}
    (h : Activity.Spared hears bad) (ns selector : String) :
    Activity.Spares hears bad (collect ns selector : Activity σ Inventory) := by
  refine .bind (.foldlM fun resources kind _ => ?_) fun _ => ?_
  · exact .bind (.call h _) fun _ => .pure _
  · exact .bind (.call h _) fun _ => .bind (.call h _) fun _ => .pure _

end NamespaceBackup.Inventory
