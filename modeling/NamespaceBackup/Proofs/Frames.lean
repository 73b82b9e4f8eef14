import NamespaceBackup.Proofs.Contents

/-!
# What a call leaves alone

Every call changes one part of one namespace at most. Whatever else is in the cluster stays as it
is.

## Main definitions

* `Space.Part`, `Space.Agree`: the parts of a namespace, and namespaces that agree in one
* `Call.part?`: the part that a call may change

## Main results

* `Cluster.agree_perform`: a call leaves the other parts alone
* `Cluster.find?_bundles_perform`: a bundle that is there stays as it is
-/

namespace NamespaceBackup

namespace Space

/-- The parts of a namespace. -/
inductive Part where
  /-- Managed objects, config maps and secrets. -/
  | content
  | bundles
  | machines
  | markers
  | requests
deriving DecidableEq

/-- Two namespaces agree in a part. -/
def Agree : Part → Space → Space → Prop
  | .content, a, b =>
    a.managed = b.managed ∧ a.configMaps = b.configMaps ∧ a.secrets = b.secrets
  | .bundles, a, b => a.bundles = b.bundles
  | .machines, a, b => a.machines = b.machines
  | .markers, a, b => a.snapshots = b.snapshots ∧ a.restores = b.restores
  | .requests, a, b => a.requests = b.requests

variable {part : Part} {a b c : Space}

@[refl] theorem Agree.refl (part : Part) (a : Space) : Agree part a a := by
  cases part <;> simp [Agree]

theorem Agree.trans (h : Agree part a b) (h' : Agree part b c) : Agree part a c := by
  cases part with
  | content => exact ⟨h.1.trans h'.1, h.2.1.trans h'.2.1, h.2.2.trans h'.2.2⟩
  | markers => exact ⟨h.1.trans h'.1, h.2.trans h'.2⟩
  | bundles | machines | requests => exact Eq.trans h h'

/-- Namespaces with the same content have the same inventory. -/
theorem Agree.inventory_eq (h : Agree .content a b) (selector : String) :
    a.inventory selector = b.inventory selector := by
  obtain ⟨hmanaged, hconfigMaps, hsecrets⟩ := h
  simp only [inventory, ofKind, hmanaged, hconfigMaps, hsecrets]

theorem Agree.ofKind_eq (h : Agree .content a b) (kind : String) : a.ofKind kind = b.ofKind kind := by
  rw [ofKind, ofKind, h.1]

end Space

open Space (Part Agree)

/-- The part of a namespace that a call may change. -/
def Call.part? : Call → Option Part
  | .applyManaged .. | .patchManagedStatus .. | .deleteManaged .. | .applyConfigMap ..
  | .deleteConfigMap .. | .applySecret .. | .deleteSecret .. => some .content
  | .createBundle .. => some .bundles
  | .patchMachine .. => some .machines
  | .createMarker .. => some .markers
  | .updateStatus _ => some .requests
  | .listManaged .. | .listConfigMaps .. | .listSecrets .. | .getBundle .. | .findBundle ..
  | .getMachine .. | .listMarkers .. | .runCommand .. => none

/-- The part of a namespace that a question may change. -/
def Query.part? : Query → Option Part
  | .clock => none
  | .call c => c.part?

namespace Cluster

variable {cluster : Cluster} {ns other : String} {space : Space} {part : Part} {α : Type}

theorem space_withSpace_of_ne (hne : ns ≠ other) :
    (cluster.withSpace ns space).space other = cluster.space other := by
  simp [Cluster.space, withSpace, hne]

/-- A namespace that is replaced by one that agrees with it in a part keeps that part. -/
theorem agree_withSpace (h : Agree part space (cluster.space ns)) (other : String) :
    Agree part ((cluster.withSpace ns space).space other) (cluster.space other) := by
  by_cases heq : ns = other
  · rw [← heq, space_withSpace]
    exact h
  · rw [space_withSpace_of_ne heq]

theorem agree_commit {change : Except Failure (Dict α)} {store : Space → Dict α → Space}
    (h : ∀ space dict, Agree part (store space dict) space) (other : String) :
    Agree part ((cluster.commit ns change store).2.space other) (cluster.space other) := by
  cases change with
  | ok dict => exact agree_withSpace (h _ dict) other
  | error failure => rfl

/-- A call leaves alone all parts but one. -/
theorem agree_perform {c : Call} (h : c.part? ≠ some part) (cluster : Cluster) (other : String) :
    Agree part ((cluster.perform c).2.space other) (cluster.space other) := by
  cases c with
  | listManaged | listConfigMaps | listSecrets | getBundle | findBundle | getMachine | listMarkers
  | runCommand => rfl
  | applyManaged | applyConfigMap | applySecret =>
    refine agree_withSpace ?_ other
    cases part <;> first | exact absurd rfl h | simp [Agree, Space.withKind]
  | patchManagedStatus | deleteManaged | deleteConfigMap | deleteSecret | createBundle
  | patchMachine =>
    refine agree_commit (fun space dict => ?_) other
    cases part <;> first | exact absurd rfl h | simp [Agree, Space.withKind]
  | createMarker ns kind marker =>
    refine agree_commit (fun space dict => ?_) other
    cases part <;> cases kind <;> first | exact absurd rfl h | simp [Agree, Space.withMarkers]
  | updateStatus request =>
    rw [perform, writeStatus]
    split
    · rfl
    · dsimp only
      split
      · rfl
      · refine agree_withSpace ?_ other
        cases part <;> first | exact absurd rfl h | simp [Agree]

/-- A bundle that is there stays as it is. -/
theorem find?_bundles_perform {name : String} {bundle : Bundle}
    (h : (cluster.space ns).bundles.find? name = some bundle) (c : Call) :
    ((cluster.perform c).2.space ns).bundles.find? name = some bundle := by
  by_cases hpart : c.part? = some .bundles
  · cases c with
    | createBundle ns' made =>
      rw [perform, addOrFail]
      split
      case isTrue => exact h
      case isFalse hnew =>
        rw [commit]
        by_cases heq : ns' = ns
        · subst heq
          have hne : made.anyName ≠ name := by
            rintro rfl
            exact hnew (by rw [Dict.contains, h]; rfl)
          rw [space_withSpace, Dict.find?_insert_of_ne hne]
          exact h
        · rw [space_withSpace_of_ne heq]
          exact h
    | _ => cases hpart
  · have hagree : ((cluster.perform c).2.space ns).bundles = (cluster.space ns).bundles :=
      agree_perform hpart cluster ns
    rw [hagree]
    exact h

end Cluster

end NamespaceBackup
