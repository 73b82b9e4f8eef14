import NamespaceBackup.Proofs.Contents
import NamespaceBackup.Proofs.Courses
import NamespaceBackup.Proofs.Lagging
import NamespaceBackup.Proofs.Recording

/-!
# Sweeping an inventory

To clear a namespace is to go through its inventory once, in order, with one deletion for each
object. What is gone already and what is in conflict is passed over; any other failure ends the
sweep there and then. Nothing else can end it, so what is deleted is all of the inventory or the
part up to such a failure.

## Main definitions

* `Inventory.deletions`: the deletions of an inventory, in order
* `Inventory.Sweeps`: how far a sweep comes
* `Saga.deleted`: what a transcript asks to be deleted

## Main results

* `Inventory.sweeps_of_clear`: clearing is a sweep through the deletions
* `Space.Named.nodup_deletions`: no object is deleted twice
-/

namespace NamespaceBackup

namespace Saga

/-- The deletions that a transcript asks for. -/
def deleted (transcript : List Exchange) : List Call :=
  transcript.filterMap fun exchange =>
    match exchange.1 with
    | .call c => if c.isDelete then some c else none
    | .clock => none

section Deleted

variable {transcript : List Exchange}

@[simp] theorem deleted_append (start rest : List Exchange) :
    deleted (start ++ rest) = deleted start ++ deleted rest :=
  List.filterMap_append

theorem mem_deleted {c : Call} :
    c ∈ deleted transcript ↔ c.isDelete = true ∧ ∃ answer, ⟨.call c, answer⟩ ∈ transcript := by
  rw [deleted, List.mem_filterMap]
  constructor
  · rintro ⟨⟨_ | c', answer⟩, hmem, hdelete⟩
    · cases hdelete
    · obtain ⟨hdelete, heq⟩ := Option.ite_none_right_eq_some.1 hdelete
      cases heq
      exact ⟨hdelete, answer, hmem⟩
  · rintro ⟨hdelete, answer, hmem⟩
    exact ⟨_, hmem, if_pos hdelete⟩

theorem deleted_eq_nil :
    deleted transcript = [] ↔ ∀ exchange ∈ transcript, ¬ Deletes exchange.1 := by
  rw [List.eq_nil_iff_forall_not_mem]
  constructor
  · rintro h ⟨_, answer⟩ hmem ⟨c, rfl, hdelete⟩
    exact h c (mem_deleted.2 ⟨hdelete, answer, hmem⟩)
  · intro h c hc
    obtain ⟨hdelete, answer, hmem⟩ := mem_deleted.1 hc
    exact h _ hmem (deletes_call.2 hdelete)

end Deleted

/-- A deletion fails in a way that is not passed over. -/
def Spoils (exchange : Exchange) : Prop :=
  ∃ (c : Call) (failure : Failure),
    exchange = ⟨.call c, (.error failure : Except Failure c.Answer)⟩ ∧ c.isDelete = true ∧
      failure.isNotFound = false ∧ failure.isConflict = false

end Saga

namespace Inventory

open Dialogue (Yields)
open Saga (deleted Spoils)

variable {σ α : Type} {ns : String}

/-- The deletions of the objects of one kind. -/
def deletionsOf (ns : String) (entry : String × List Resource) : List Call :=
  match ManagedKind.ofName? entry.1 with
  | some kind => entry.2.map fun object => .deleteManaged ns kind object.anyName
  | none => []

/-- The deletions of an inventory, in the order in which they are made. -/
def deletions (ns : String) (inventory : Inventory) : List Call :=
  inventory.resources.entries.flatMap (deletionsOf ns) ++
    (inventory.configMaps.map (fun m => .deleteConfigMap ns m.anyName) ++
      inventory.secrets.map fun s => .deleteSecret ns s.anyName)

/-- How far a sweep through some deletions comes. -/
inductive Sweeps : List Call → List Exchange → Except Failure Unit → Prop
  /-- Nothing is left. -/
  | done : Sweeps [] [] (.ok ())
  /-- A deletion succeeds, or its failure is passed over. -/
  | next {c : Call} {todo : List Call} {trace : List Exchange} {outcome : Except Failure Unit}
    (answer : Except Failure c.Answer)
    (hpassed : ∀ failure, answer = .error failure →
      (failure.isNotFound || failure.isConflict) = true)
    (hrest : Sweeps todo trace outcome) : Sweeps (c :: todo) (⟨.call c, answer⟩ :: trace) outcome
  /-- A deletion fails for another reason, and the rest is left. -/
  | stuck {c : Call} {failure : Failure} (todo : List Call)
    (hstuck : (failure.isNotFound || failure.isConflict) = false) :
    Sweeps (c :: todo) [⟨.call c, (.error failure : Except Failure c.Answer)⟩] (.error failure)

namespace Sweeps

variable {todo todo' : List Call} {trace trace' : List Exchange} {outcome : Except Failure Unit}

/-- A sweep that came to its end goes on with the next one. -/
theorem append (h : Sweeps todo trace (.ok ())) (h' : Sweeps todo' trace' outcome) :
    Sweeps (todo ++ todo') (trace ++ trace') outcome := by
  generalize hok : (.ok () : Except Failure Unit) = result at h
  induction h with
  | done => exact h'
  | next answer hpassed _ ih => exact .next answer hpassed (ih hok)
  | stuck => cases hok

/-- A sweep that was ended leaves what would have come after it, too. -/
theorem leave {failure : Failure} (h : Sweeps todo trace (.error failure)) (todo' : List Call) :
    Sweeps (todo ++ todo') trace (.error failure) := by
  generalize herror : (.error failure : Except Failure Unit) = result at h
  induction h with
  | done => cases herror
  | next answer hpassed _ ih => exact .next answer hpassed (ih herror)
  | stuck todo hstuck =>
    cases herror
    exact .stuck (todo ++ todo') hstuck

/-- Nothing else is asked. -/
theorem asked (h : Sweeps todo trace outcome) :
    ∀ exchange ∈ trace, ∃ c ∈ todo, exchange.1 = .call c := by
  induction h with
  | done => simp
  | @next c todo _ _ _ _ _ ih =>
    refine List.forall_mem_cons.2 ⟨⟨c, List.mem_cons_self, rfl⟩, fun exchange hmem => ?_⟩
    obtain ⟨c', hc', heq⟩ := ih exchange hmem
    exact ⟨c', List.mem_cons_of_mem c hc', heq⟩
  | @stuck c => exact List.forall_mem_singleton.2 ⟨c, List.mem_cons_self, rfl⟩

variable (hdelete : ∀ c ∈ todo, c.isDelete = true)
include hdelete

/-- What is deleted comes first of what was to be deleted. -/
theorem deleted_prefix (h : Sweeps todo trace outcome) : deleted trace <+: todo := by
  induction h with
  | done => exact List.prefix_rfl
  | @next c _ trace _ answer _ _ ih =>
    obtain ⟨hc, hrest⟩ := List.forall_mem_cons.1 hdelete
    have hdeleted : deleted (⟨.call c, answer⟩ :: trace) = c :: deleted trace :=
      List.filterMap_cons_some (if_pos hc)
    rw [hdeleted]
    exact List.cons_prefix_cons.2 ⟨rfl, ih hrest⟩
  | @stuck c failure todo =>
    have hdeleted : deleted [⟨.call c, (.error failure : Except Failure c.Answer)⟩] = [c] :=
      List.filterMap_cons_some (if_pos (hdelete c List.mem_cons_self))
    rw [hdeleted]
    exact List.cons_prefix_cons.2 ⟨rfl, List.nil_prefix⟩

/-- Either all is deleted, or the last deletion failed for a reason that is not passed over, which
is how the sweep fails. -/
theorem complete (h : Sweeps todo trace outcome) :
    outcome = .ok () ∧ deleted trace = todo ∨ ∃ (c : Call) (failure : Failure),
      outcome = .error failure ∧
      ⟨.call c, (.error failure : Except Failure c.Answer)⟩ ∈ trace ∧
      Spoils ⟨.call c, (.error failure : Except Failure c.Answer)⟩ := by
  induction h with
  | done => exact .inl ⟨rfl, rfl⟩
  | @next c _ trace _ answer _ _ ih =>
    obtain ⟨hc, hrest⟩ := List.forall_mem_cons.1 hdelete
    have hdeleted : deleted (⟨.call c, answer⟩ :: trace) = c :: deleted trace :=
      List.filterMap_cons_some (if_pos hc)
    rcases ih hrest with ⟨hok, hall⟩ | ⟨c', failure, herror, hmem, hspoils⟩
    · rw [hdeleted, hall]
      exact .inl ⟨hok, rfl⟩
    · exact .inr ⟨c', failure, herror, List.mem_cons_of_mem _ hmem, hspoils⟩
  | @stuck c failure todo hstuck =>
    have hc := hdelete c List.mem_cons_self
    obtain ⟨hnotFound, hconflict⟩ := Bool.or_eq_false_iff.1 hstuck
    exact .inr ⟨c, failure, rfl, List.mem_cons_self, c, failure, rfl, hc, hnotFound, hconflict⟩

end Sweeps

/-! ## Activities that sweep -/

/-- An activity is a sweep through some deletions that gives a value in the end, and keeps its own
state. -/
def Sweeping (todo : List Call) (value : α) (x : Activity σ α) : Prop :=
  ∀ s trace outcome s', Yields (x s) trace (outcome, s') →
    s' = s ∧ ∃ swept, Sweeps todo trace swept ∧ outcome = swept.map fun _ => value

namespace Sweeping

variable {todo todo' : List Call} {value : α} {x : Activity σ Unit}

protected theorem pure (value : α) : Sweeping [] value (pure value : Activity σ α) := by
  intro s trace outcome s' h
  obtain ⟨rfl, ⟨⟩⟩ := Activity.yields_pure.1 h
  exact ⟨rfl, .ok (), .done, rfl⟩

protected theorem bind {f : Unit → Activity σ α} (hx : Sweeping todo () x)
    (hf : Sweeping todo' value (f ())) : Sweeping (todo ++ todo') value (x >>= f) := by
  intro s trace outcome s' h
  rcases Activity.yields_bind.1 h with ⟨first, second, _, t, rfl, hfirst, hsecond⟩ |
    ⟨failure, t, hfirst, heq⟩
  · obtain ⟨rfl, swept, hsweeps, hswept⟩ := hx s first _ t hfirst
    obtain ⟨rfl, swept', hsweeps', rfl⟩ := hf t second outcome s' hsecond
    cases swept with
    | error => cases hswept
    | ok => exact ⟨rfl, swept', hsweeps.append hsweeps', rfl⟩
  · obtain ⟨rfl, rfl⟩ := Prod.mk.inj heq
    obtain ⟨rfl, swept, hsweeps, hswept⟩ := hx s trace _ s' hfirst
    cases swept with
    | ok => cases hswept
    | error =>
      cases hswept
      exact ⟨rfl, _, hsweeps.leave todo', rfl⟩

protected theorem forM {β : Type} {xs : List β} {f : β → Activity σ Unit} {todo : β → List Call}
    (h : ∀ x ∈ xs, Sweeping (todo x) () (f x)) : Sweeping (xs.flatMap todo) () (xs.forM f) := by
  induction xs with
  | nil => exact .pure ()
  | cons x xs ih =>
    have hrest : Sweeping (xs.flatMap todo) () (xs.forM f) :=
      ih fun y hy => h y (List.mem_cons_of_mem x hy)
    exact (h x List.mem_cons_self).bind (f := fun _ => xs.forM f) hrest

/-- One deletion for each. -/
theorem forM_map {β : Type} {xs : List β} {f : β → Activity σ Unit} {deletion : β → Call}
    (h : ∀ x ∈ xs, Sweeping [deletion x] () (f x)) :
    Sweeping (xs.map deletion) () (xs.forM f) := by
  rw [List.map_eq_flatMap]
  exact .forM h

/-- A deletion whose failures are tolerated. -/
theorem tolerate {c : Call} (hx : ∀ s trace outcome s', Yields (x s) trace (outcome, s') →
      s' = s ∧ ∃ answer : Except Failure c.Answer, trace = [⟨.call c, answer⟩] ∧
        ∀ failure, outcome = .error failure ↔ answer = .error failure) :
    Sweeping [c] () (Inventory.tolerate x) := by
  intro s trace outcome s' h
  rw [Inventory.tolerate, Activity.yields_outcome_bind] at h
  obtain ⟨first, second, deletion, t, rfl, hfirst, hsecond⟩ := h
  obtain ⟨rfl, answer, rfl, hanswer⟩ := hx s first deletion t hfirst
  cases deletion with
  | ok =>
    obtain ⟨rfl, ⟨⟩⟩ := Activity.yields_pure.1 hsecond
    refine ⟨rfl, _, .next answer (fun failure hfailure => ?_) .done, rfl⟩
    cases (hanswer failure).2 hfailure
  | error failure =>
    obtain rfl := (hanswer failure).1 rfl
    cases hpassed : failure.isNotFound || failure.isConflict with
    | true =>
      simp only [hpassed, if_true, Activity.yields_pure] at hsecond
      obtain ⟨rfl, ⟨⟩⟩ := hsecond
      refine ⟨rfl, _, .next _ ?_ .done, rfl⟩
      rintro _ ⟨⟩
      exact hpassed
    | false =>
      simp only [hpassed] at hsecond
      obtain ⟨rfl, ⟨⟩⟩ := Activity.yields_throw.1 hsecond
      exact ⟨rfl, _, .stuck [] hpassed, rfl⟩

end Sweeping

theorem deleteManaged_sweeping (kind : ManagedKind) (name : String) :
    Sweeping [.deleteManaged ns kind name] ()
      (tolerate (Activity.call (.deleteManaged ns kind name)) : Activity σ Unit) :=
  .tolerate fun s trace outcome s' h => by
    obtain ⟨answer, rfl, ⟨⟩⟩ := Activity.yields_call.1 h
    exact ⟨rfl, _, rfl, fun _ => Iff.rfl⟩

theorem deleteConfigMap_sweeping (name : String) :
    Sweeping [.deleteConfigMap ns name] ()
      (tolerate (Activity.call (.deleteConfigMap ns name)) : Activity σ Unit) :=
  .tolerate fun s trace outcome s' h => by
    obtain ⟨answer, rfl, ⟨⟩⟩ := Activity.yields_call.1 h
    exact ⟨rfl, _, rfl, fun _ => Iff.rfl⟩

theorem deleteSecret_sweeping (name : String) :
    Sweeping [.deleteSecret ns name] ()
      (tolerate (Activity.call (.deleteSecret ns name)) : Activity σ Unit) :=
  .tolerate fun s trace outcome s' h => by
    obtain ⟨answer, rfl, ⟨⟩⟩ := Activity.yields_call.1 h
    exact ⟨rfl, _, rfl, fun _ => Iff.rfl⟩

theorem clearKind_sweeping {entry : String × List Resource}
    (h : ∃ kind, ManagedKind.ofName? entry.1 = some kind) :
    Sweeping (deletionsOf ns entry) () (clearKind ns entry.1 entry.2 : Activity σ Unit) := by
  obtain ⟨kind, hkind⟩ := h
  rw [clearKind, deletionsOf, hkind]
  exact .forM_map fun object _ => deleteManaged_sweeping kind object.anyName

variable {inventory : Inventory}

theorem exists_of_mem_deletionsOf {c : Call} {entry : String × List Resource}
    (h : c ∈ deletionsOf ns entry) :
    ∃ kind name, kind.name = entry.1 ∧ c = .deleteManaged ns kind name := by
  rw [deletionsOf] at h
  cases hkind : ManagedKind.ofName? entry.1 with
  | none =>
    rw [hkind] at h
    cases h
  | some kind =>
    rw [hkind] at h
    obtain ⟨object, -, rfl⟩ := List.mem_map.1 h
    exact ⟨kind, object.anyName, ManagedKind.name_of_ofName? hkind, rfl⟩

theorem isDelete_of_mem_deletions {c : Call} (h : c ∈ inventory.deletions ns) :
    c.isDelete = true := by
  rw [deletions, List.mem_append, List.mem_append, List.mem_flatMap] at h
  rcases h with ⟨entry, -, hentry⟩ | hconfigMap | hsecret
  · obtain ⟨kind, name, -, rfl⟩ := exists_of_mem_deletionsOf hentry
    rfl
  · obtain ⟨_, -, rfl⟩ := List.mem_map.1 hconfigMap
    rfl
  · obtain ⟨_, -, rfl⟩ := List.mem_map.1 hsecret
    rfl

/-- An empty inventory has nothing to delete. -/
theorem deletions_of_isEmpty (h : inventory.isEmpty = true) : inventory.deletions ns = [] := by
  obtain ⟨hobjects, hconfigMaps, hsecrets⟩ := isEmpty_iff.1 h
  have hresources : inventory.resources.entries.flatMap (deletionsOf ns) = [] := by
    refine List.flatMap_eq_nil_iff.2 fun entry hentry => ?_
    rw [deletionsOf, hobjects entry.2 (List.mem_map_of_mem hentry)]
    split <;> rfl
  rw [deletions, hresources, hconfigMaps, hsecrets]
  rfl

/-- To clear an inventory of known kinds is to sweep through its deletions. It tells whether there
were any. -/
theorem clear_sweeping (hkinds : inventory.KnowsKinds) :
    Sweeping (inventory.deletions ns) inventory.isEmpty (inventory.clear ns : Activity σ Bool) := by
  rw [clear]
  split
  case isTrue hempty =>
    rw [deletions_of_isEmpty hempty, hempty]
    exact .pure true
  case isFalse hempty =>
    rw [Bool.eq_false_iff.2 hempty, deletions, ← List.append_nil (inventory.secrets.map _)]
    refine .bind (.forM fun entry hentry => clearKind_sweeping (hkinds entry hentry)) ?_
    refine .bind (.forM_map fun m _ => deleteConfigMap_sweeping m.anyName) ?_
    exact .bind (.forM_map fun s _ => deleteSecret_sweeping s.anyName) (.pure false)

end Inventory

/-! ## No object twice -/

section Nodup

variable {α : Type} {ns : String}

/-- What is stored under the names in its metadata has different names. -/
theorem Dict.Named.nodup_map {metadata : α → Metadata} {dict : Dict α} (h : dict.Named metadata)
    {f : String → Call} (hf : Function.Injective f) :
    (dict.values.map fun value => f (metadata value).anyName).Nodup := by
  have hkeys : (dict.values.map fun value => (metadata value).anyName) = dict.keys := by
    rw [Dict.values, List.map_map]
    exact List.map_congr_left fun pair hpair => h.anyName hpair
  have hnodup := dict.nodup_keys.map hf
  rwa [← hkeys, List.map_map] at hnodup

namespace Space.Named

variable {space : Space} {selector : String}

theorem nodup_deletionsOf (h : space.Named) {entry : String × List Resource}
    (hentry : entry ∈ (space.inventory selector).resources.entries) :
    (Inventory.deletionsOf ns entry).Nodup := by
  rw [Inventory.deletionsOf]
  cases hkind : ManagedKind.ofName? entry.1 with
  | none => exact List.nodup_nil
  | some kind =>
    -- The objects of the entry are those that the namespace has of the kind.
    have hfind := Dict.mem_entries_iff.1 hentry
    rw [← ManagedKind.name_of_ofName? hkind, inventory, Inventory.find?_gather] at hfind
    obtain ⟨-, hobjects⟩ := Option.ite_none_left_eq_some.1 hfind
    have hnamed := (h.managed kind (ManagedKind.mem_all kind)).nodup_map
      (f := Call.deleteManaged ns kind) fun _ _ heq => (Call.deleteManaged.inj heq).2.2
    rwa [Option.some.inj hobjects] at hnamed

/-- No object of a named namespace is deleted twice. -/
theorem nodup_deletions (h : space.Named) : ((space.inventory selector).deletions ns).Nodup := by
  have hresources : ((space.inventory selector).resources.entries.flatMap
      (Inventory.deletionsOf ns)).Nodup := by
    refine List.nodup_flatMap.2 ⟨fun entry hentry => h.nodup_deletionsOf hentry, ?_⟩
    -- Two entries are of two kinds.
    refine (List.pairwise_map.1 (space.inventory selector).resources.nodup_keys).imp ?_
    intro a b hne c ha hb
    obtain ⟨kind, name, hkind, rfl⟩ := Inventory.exists_of_mem_deletionsOf ha
    obtain ⟨kind', name', hkind', heq⟩ := Inventory.exists_of_mem_deletionsOf hb
    obtain ⟨-, rfl, -⟩ := Call.deleteManaged.inj heq
    exact hne (hkind.symm.trans hkind')
  have hconfigMaps : ((space.inventory selector).configMaps.map
      fun m => Call.deleteConfigMap ns m.anyName).Nodup :=
    (h.configMaps.filter _).nodup_map fun _ _ heq => (Call.deleteConfigMap.inj heq).2
  have hsecrets : ((space.inventory selector).secrets.map
      fun s => Call.deleteSecret ns s.anyName).Nodup :=
    (h.secrets.filter _).nodup_map fun _ _ heq => (Call.deleteSecret.inj heq).2
  refine List.nodup_append'.2 ⟨hresources, List.nodup_append'.2 ⟨hconfigMaps, hsecrets, ?_⟩, ?_⟩
  · intro c hm hs
    obtain ⟨_, -, rfl⟩ := List.mem_map.1 hm
    obtain ⟨_, -, heq⟩ := List.mem_map.1 hs
    cases heq
  · intro c hmanaged hother
    obtain ⟨entry, -, hentry⟩ := List.mem_flatMap.1 hmanaged
    obtain ⟨kind, name, -, rfl⟩ := Inventory.exists_of_mem_deletionsOf hentry
    rcases List.mem_append.1 hother with hm | hs
    · obtain ⟨_, -, heq⟩ := List.mem_map.1 hm
      cases heq
    · obtain ⟨_, -, heq⟩ := List.mem_map.1 hs
      cases heq

end Space.Named

end Nodup

end NamespaceBackup
