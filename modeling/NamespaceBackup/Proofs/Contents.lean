import NamespaceBackup.Cluster.Basic
import NamespaceBackup.Proofs.Collect

/-!
# What a namespace holds

A cluster in memory answers every listing, so collecting a namespace gives what is in it. Whatever
is stored there goes by the name in its own metadata.

## Main definitions

* `Dict.filter`: the entries whose values satisfy a condition
* `Dict.Named`, `Space.Named`: everything is stored under the name in its metadata
* `Space.inventory`: what is managed in a namespace
* `Cluster.Performs`, `Cluster.respond`: clock and cluster, with nobody else around
* `Cluster.Changes`: an activity that succeeds and changes a namespace as a function says

## Main results

* `Dict.find?_foldl_insert_values`: named values that are stored one after the other
* `Inventory.collect_performs`, `Inventory.run_collect`: collecting gives what the namespace holds
-/

namespace NamespaceBackup

namespace Dict

variable {α β : Type}

/-- The entries whose values satisfy a condition. -/
def filter (p : α → Bool) (dict : Dict α) : Dict α :=
  ⟨dict.entries.filter (p ·.2), List.Pairwise.filter _ dict.ascending⟩

@[simp] theorem values_filter (p : α → Bool) (dict : Dict α) :
    (dict.filter p).values = dict.values.filter p := by
  rw [values, values, List.filter_map]
  rfl

@[simp] theorem values_map (f : α → β) (dict : Dict α) :
    (dict.map f).values = dict.values.map f := by
  simp [values, map]

@[simp] theorem find?_filter (p : α → Bool) (dict : Dict α) (name : String) :
    (dict.filter p).find? name = (dict.find? name).filter p := by
  ext value
  rw [← mem_entries_iff, filter, List.mem_filter, mem_entries_iff, Option.filter_eq_some_iff]

/-- A dictionary without values has no entry. -/
theorem eq_empty_of_values {dict : Dict α} (h : dict.values = []) : dict = .empty :=
  ext (List.map_eq_nil_iff.1 h)

/-- Everything is stored under the name in its metadata. -/
def Named (metadata : α → Metadata) (dict : Dict α) : Prop :=
  ∀ pair ∈ dict.entries, (metadata pair.2).name = some pair.1

instance (metadata : α → Metadata) (dict : Dict α) : Decidable (dict.Named metadata) :=
  inferInstanceAs (Decidable (∀ pair ∈ dict.entries, (metadata pair.2).name = some pair.1))

theorem Named.anyName {metadata : α → Metadata} {dict : Dict α} (h : dict.Named metadata)
    {pair : String × α} (hmem : pair ∈ dict.entries) : (metadata pair.2).anyName = pair.1 := by
  simp [Metadata.anyName, h pair hmem]

theorem Named.filter {metadata : α → Metadata} {dict : Dict α} (h : dict.Named metadata)
    (p : α → Bool) : (dict.filter p).Named metadata :=
  fun pair hpair => h pair (List.mem_of_mem_filter hpair)

/-- Named values that are stored one after the other come before what was there. -/
theorem find?_foldl_insert_values {metadata : α → Metadata} {dict : Dict α}
    (h : dict.Named metadata) (f : α → β) (old : Dict β) (name : String) :
    (dict.values.foldl (fun dict value => dict.insert (metadata value).anyName (f value)) old).find?
      name = ((dict.find? name).map f <|> old.find? name) := by
  -- Each value goes by its own name, so the entries are stored one by one.
  have hpairs : dict.values.foldl
      (fun dict value => dict.insert (metadata value).anyName (f value)) old =
        (dict.map f).entries.foldl (fun dict pair => dict.insert pair.1 pair.2) old := by
    rw [values, map, List.foldl_map, List.foldl_map]
    refine List.foldl_ext _ _ _ fun other pair hpair => ?_
    rw [h.anyName hpair]
  rw [hpairs, find?_foldl_insert (dict.map f).ascending, ← find?_map]
  rfl

/-- Storing named values that are selected brings them back, and nothing else, where nothing is
selected that was there. -/
theorem filter_foldl_insert_values (metadata : α → Metadata) {dict old : Dict α} {p : α → Bool}
    {f : α → α} (hnamed : dict.Named fun value => metadata (f value))
    (hf : ∀ value, p (f value) = p value) (hold : (old.filter p).values = []) :
    ((dict.filter p).values.foldl
      (fun dict value => dict.insert (metadata (f value)).anyName (f value)) old).filter p =
        (dict.filter p).map f := by
  have hnamed : (dict.filter p).Named fun value => metadata (f value) := hnamed.filter p
  -- What goes by a name afterwards was stored under it, or it was there and is not selected.
  refine ext_find? fun name => ?_
  rw [find?_filter, find?_foldl_insert_values hnamed, find?_map]
  cases hfind : (dict.filter p).find? name with
  | some value =>
    have hselected : p value = true := by
      rw [find?_filter, Option.filter_eq_some_iff] at hfind
      exact hfind.2
    simp [Option.filter, hf, hselected]
  | none =>
    have hnone : (old.filter p).find? name = none := by rw [eq_empty_of_values hold, find?_empty]
    rw [find?_filter] at hnone
    simpa using hnone

end Dict

namespace Space

theorem ofKind_withKind (space : Space) (kind other : String) (objects : Dict Resource) :
    (space.withKind kind objects).ofKind other =
      if kind = other then objects else space.ofKind other := by
  rw [ofKind, withKind, Dict.find?_insert]
  by_cases heq : kind = other <;> simp [heq, ofKind]

theorem withKind_withKind (space : Space) (kind : String) (old new : Dict Resource) :
    (space.withKind kind old).withKind kind new = space.withKind kind new := by
  simp [withKind]

/-- The managed objects, config maps and secrets are stored under the names in their metadata. -/
structure Named (space : Space) : Prop where
  managed : ∀ kind ∈ ManagedKind.all, (space.ofKind kind.name).Named Resource.metadata
  configMaps : space.configMaps.Named ConfigMap.metadata
  secrets : space.secrets.Named Secret.metadata

instance (space : Space) : Decidable space.Named :=
  decidable_of_iff ((∀ kind ∈ ManagedKind.all, (space.ofKind kind.name).Named Resource.metadata) ∧
      space.configMaps.Named ConfigMap.metadata ∧ space.secrets.Named Secret.metadata)
    ⟨fun h => ⟨h.1, h.2.1, h.2.2⟩, fun h => ⟨h.managed, h.configMaps, h.secrets⟩⟩

/-- What is managed in a namespace. -/
def inventory (selector : String) (space : Space) : Inventory :=
  .gather (fun kind => (space.ofKind kind.name).values)
    (space.configMaps.filter (Selector.selects selector ·.metadata)).values
    (space.secrets.filter (Selector.selects selector ·.metadata)).values

end Space

namespace Inventory

theorem objects_of_isEmpty {inventory : Inventory} (h : inventory.isEmpty = true) (kind : String) :
    inventory.objects kind = [] := by
  rw [objects]
  cases hfind : inventory.resources.find? kind with
  | none => rfl
  | some objects =>
    exact (isEmpty_iff.1 h).1 objects (List.mem_map_of_mem (Dict.mem_entries_iff.2 hfind))

/-- Each list of an inventory is what a namespace held at some moment, at which `during` was true of
the cluster. -/
structure CollectedWhile (during : Cluster → Prop) (ns selector : String) (inventory : Inventory) :
    Prop where
  managed : ∀ kind : ManagedKind, ∃ cluster, during cluster ∧
    inventory.objects kind.name = ((cluster.space ns).ofKind kind.name).values
  configMaps : ∃ cluster, during cluster ∧ inventory.configMaps =
    ((cluster.space ns).configMaps.filter (Selector.selects selector ·.metadata)).values
  secrets : ∃ cluster, during cluster ∧ inventory.secrets =
    ((cluster.space ns).secrets.filter (Selector.selects selector ·.metadata)).values
  gathered : inventory =
    gather (fun kind => inventory.objects kind.name) inventory.configMaps inventory.secrets

end Inventory

namespace Cluster

/-- The exchanges of clock and cluster, with nobody else around. -/
def Performs (cluster : Cluster) : Exchange → Cluster → Prop
  | ⟨.clock, _⟩, after => after = cluster
  | ⟨.call call, answer⟩, after => (answer, after) = cluster.perform call

/-- Clock and cluster, with nobody else around and a clock that stands still. -/
def respond (instant : Instant) : (question : Query) → Cluster → question.Answer × Cluster
  | .clock, cluster => (instant, cluster)
  | .call call, cluster => cluster.perform call

theorem performs_respond (instant : Instant) (question : Query) (cluster : Cluster) :
    cluster.Performs ⟨question, (respond instant question cluster).1⟩
      (respond instant question cluster).2 := by
  cases question <;> rfl

/-- The terms of a conversation with clock and cluster alone. -/
abbrev alone : Terms Query Query.Answer Cluster where
  answers := Performs

variable {σ α : Type} {s : σ} {cluster : Cluster} {call : Call}

/-- With nobody else around, a call answers and does what it performs. -/
theorem ensures_call_alone {post : Except Failure call.Answer → σ → Cluster → Prop} :
    Activity.Ensures alone (Activity.call call : Activity σ call.Answer) s cluster post ↔
      post (cluster.perform call).1 s (cluster.perform call).2 := by
  constructor
  · rintro ⟨-, h⟩
    exact h _ _ rfl
  · refine fun h => ⟨trivial, fun answer after hanswer => ?_⟩
    obtain ⟨rfl, rfl⟩ := Prod.mk.inj hanswer
    exact h

theorem ensures_call_bind_alone {f : call.Answer → Activity σ α}
    {post : Except Failure α → σ → Cluster → Prop} :
    Activity.Ensures alone (Activity.call call >>= f) s cluster post ↔
      Activity.Then alone f post (cluster.perform call).1 s (cluster.perform call).2 :=
  Activity.ensures_bind.trans ensures_call_alone

/-- What is ensured with nobody else around is what happens. -/
theorem ends_run {x : Activity σ α} {post : Except Failure α → σ → Cluster → Prop}
    (h : Activity.Ensures alone x s cluster post) (instant : Instant) :
    post ((x s).run (respond instant) cluster).1.1 ((x s).run (respond instant) cluster).1.2
      ((x s).run (respond instant) cluster).2 :=
  h.ends (Dialogue.yields_transcript (respond instant) _ cluster)
    (Dialogue.path_transcript _ (performs_respond instant) _ cluster)

@[simp] theorem space_withSpace (cluster : Cluster) (ns : String) (space : Space) :
    (cluster.withSpace ns space).space ns = space := by
  simp [Cluster.space, withSpace]

@[simp] theorem space_update (cluster : Cluster) (ns : String) (change : Space → Space) :
    (cluster.update ns change).space ns = change (cluster.space ns) := space_withSpace ..

variable {ns : String}

/-- With nobody else around, an activity succeeds and changes a namespace as a function says. -/
def Changes (ns : String) (x : Activity σ Unit) (change : Space → Space) : Prop :=
  ∀ s cluster, Activity.Ensures alone x s cluster fun outcome s' after =>
    outcome = .ok () ∧ s' = s ∧ after.space ns = change (cluster.space ns)

namespace Changes

theorem congr {x : Activity σ Unit} {change change' : Space → Space} (h : Changes ns x change)
    (heq : ∀ space, change space = change' space) : Changes ns x change' := by
  rwa [← funext heq]

theorem bind {x : Activity σ Unit} {f : Unit → Activity σ Unit} {first second : Space → Space}
    (hx : Changes ns x first) (hf : Changes ns (f ()) second) :
    Changes ns (x >>= f) fun space => second (first space) := by
  intro s cluster
  refine (hx s cluster).bind ?_ ?_
  · rintro _ s' after ⟨-, rfl, hafter⟩
    refine (hf s' after).mono fun outcome s after' hsecond => ?_
    rwa [hafter] at hsecond
  · rintro failure s' after ⟨⟨⟩, -⟩

/-- What comes after such a change starts in the changed namespace. -/
theorem before {x : Activity σ Unit} {f : Unit → Activity σ α} {change : Space → Space} {s : σ}
    {cluster : Cluster} {post : Except Failure α → σ → Cluster → Prop} (hx : Changes ns x change)
    (hf : ∀ after, after.space ns = change (cluster.space ns) →
      Activity.Ensures alone (f ()) s after post) :
    Activity.Ensures alone (x >>= f) s cluster post := by
  refine (hx s cluster).bind ?_ ?_
  · rintro _ _ after ⟨-, rfl, hafter⟩
    exact hf after hafter
  · rintro failure _ after ⟨⟨⟩, -⟩

theorem forM {xs : List α} {f : α → Activity σ Unit} {step : Space → α → Space}
    (h : ∀ x ∈ xs, Changes ns (f x) (step · x)) :
    Changes ns (xs.forM f) fun space => xs.foldl step space := by
  induction xs with
  | nil => exact fun s cluster => ⟨rfl, rfl, rfl⟩
  | cons x xs ih =>
    exact (h x (by simp)).bind (f := fun _ => xs.forM f) (ih fun y hy => h y (by simp [hy]))

end Changes

end Cluster

namespace Inventory

variable {σ : Type} (ns selector : String) (s : σ)

theorem foldlM_collectKind_performs (kinds : List ManagedKind) (resources : Dict (List Resource))
    (cluster : Cluster) :
    Activity.Ensures Cluster.alone (kinds.foldlM (collectKind ns) resources) s cluster
      fun outcome s' after =>
        outcome = .ok (kinds.foldl
            (gatherKind fun kind => ((cluster.space ns).ofKind kind.name).values) resources) ∧
          s' = s ∧ after = cluster := by
  induction kinds generalizing resources with
  | nil => exact ⟨rfl, rfl, rfl⟩
  | cons kind kinds ih =>
    rw [List.foldlM_cons, collectKind, Activity.ensures_bind]
    exact Cluster.ensures_call_bind_alone.2 (ih _)

/-- Collecting gives what the namespace holds and changes nothing. -/
theorem collect_performs (cluster : Cluster) :
    Activity.Ensures Cluster.alone (collect ns selector : Activity σ Inventory) s cluster
      fun outcome s' after =>
        outcome = .ok ((cluster.space ns).inventory selector) ∧ s' = s ∧ after = cluster := by
  refine (foldlM_collectKind_performs ns s ManagedKind.all .empty cluster).bind ?_ ?_
  · rintro resources _ _ ⟨hresources, rfl, rfl⟩
    obtain rfl := Except.ok.inj hresources
    refine Cluster.ensures_call_bind_alone.2 (Activity.then_ok.2 ?_)
    refine Cluster.ensures_call_bind_alone.2 (Activity.then_ok.2 ?_)
    refine ⟨?_, rfl, rfl⟩
    rw [Space.inventory, Dict.values_filter, Dict.values_filter]
    rfl
  · rintro failure s after ⟨⟨⟩, -⟩

/-- Collecting a namespace does give what it holds. -/
theorem run_collect (instant : Instant) (cluster : Cluster) :
    ((collect ns selector : Activity σ Inventory) s).run (Cluster.respond instant) cluster =
      ((.ok ((cluster.space ns).inventory selector), s), cluster) := by
  have hend := Cluster.ends_run (collect_performs ns selector s cluster) instant
  obtain ⟨houtcome, hs, hafter⟩ := hend
  exact Prod.ext (Prod.ext houtcome hs) hafter

end Inventory

end NamespaceBackup
