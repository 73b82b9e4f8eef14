import NamespaceBackup.Proofs.Questions

/-!
# What a pass records

A pass over sets of machines adds to the map of recorded machines and changes nothing that is in it
already. Whoever is new is recorded under the snapshot that the task names for it. At the end each
member of each set is recorded or still pending, so a pass that leaves nobody pending has recorded
them all.

## Main definitions

* `Imaging.Extends`: how the map of recorded machines grows
* `Imaging.Accounts`: every member is recorded or pending

## Main results

* `Imaging.runMembers_accounts`, `Imaging.runSet_accounts`: one set
* `Imaging.runPass_accounts`: all sets
-/

namespace NamespaceBackup

theorem Dict.nodup_keys {α : Type} (dict : Dict α) : dict.keys.Nodup := by
  rw [keys, List.Nodup, List.pairwise_map]
  refine dict.ascending.imp fun {a b} hlt heq => ?_
  rw [heq] at hlt
  exact String.lt_irrefl _ hlt

theorem MachineSet.nodup_members (set : Resource) : (members set).Nodup := Dict.nodup_keys _

namespace Imaging

open Activity (Asks Ensures)

variable {settings : Settings} {request : Request} {task : Task} {machines : List String}
  {markers : List Resource} {fencing : Bool} {recorded recorded' recorded'' : Dict String}

/-- The map of recorded machines grows: what is in it stays, and whoever is new is recorded under
the snapshot that the task names for it. -/
structure Extends (request : Request) (task : Task) (recorded recorded' : Dict String) : Prop where
  kept : ∀ machine name, recorded.find? machine = some name →
    recorded'.find? machine = some name
  added : ∀ machine name, recorded'.find? machine = some name →
    recorded.find? machine = some name ∨ snapshotName request task machine = .ok name

namespace Extends

theorem refl (recorded : Dict String) : Extends request task recorded recorded where
  kept _ _ h := h
  added _ _ h := .inl h

theorem trans (h : Extends request task recorded recorded')
    (h' : Extends request task recorded' recorded'') :
    Extends request task recorded recorded'' where
  kept machine name hfind := h'.kept machine name (h.kept machine name hfind)
  added machine name hfind := by
    rcases h'.added machine name hfind with hold | hname
    · exact h.added machine name hold
    · exact .inr hname

/-- Recording a machine that is not recorded yet. -/
theorem insert {machine name : String} (hnew : recorded.find? machine = none)
    (hname : snapshotName request task machine = .ok name) :
    Extends request task recorded (recorded.insert machine name) where
  kept other old hfind := by
    have hne : machine ≠ other := by
      rintro rfl
      rw [hnew] at hfind
      cases hfind
    rw [Dict.find?_insert_of_ne hne]
    exact hfind
  added other new hfind := by
    rw [Dict.find?_insert] at hfind
    split at hfind
    case isTrue heq =>
      obtain rfl := Option.some.inj hfind
      exact .inr (heq ▸ hname)
    case isFalse => exact .inl hfind

theorem contains (h : Extends request task recorded recorded') {machine : String}
    (hrecorded : recorded.contains machine = true) : recorded'.contains machine = true := by
  obtain ⟨name, hname⟩ := Option.isSome_iff_exists.1 hrecorded
  exact Option.isSome_iff_exists.2 ⟨name, h.kept machine name hname⟩

end Extends

/-- What a pass over some members leaves behind: a larger map, in which each of them is recorded
unless it is still pending. -/
def Accounts (request : Request) (task : Task) (members : List String) (recorded : Dict String) :
    Except Failure (List String) → Dict String → Unit → Prop
  | .ok pending, recorded', _ => Extends request task recorded recorded' ∧
    ∀ machine ∈ members, machine ∈ pending ∨ recorded'.contains machine = true
  | .error _, recorded', _ => Extends request task recorded recorded'

/-- Members that are not recorded yet are handled one after the other. -/
theorem runMembers_accounts {set : Resource} {members : List String} (hsub : members ⊆ machines)
    (hnodup : members.Nodup) (hnew : ∀ machine ∈ members, recorded.find? machine = none) :
    Ensures (Terms.only (IsHandling settings request task machines))
      (runMembers settings request task markers fencing set members) recorded ()
      (Accounts request task members recorded) := by
  induction members generalizing recorded with
  | nil => exact ⟨.refl recorded, by simp⟩
  | cons machine rest ih =>
    rw [List.cons_subset] at hsub
    obtain ⟨hmachine, hrest⟩ := List.nodup_cons.1 hnodup
    refine ensures_runMembers_cons (fun _ _ => .refl recorded) (fun _ _ => .refl recorded) ?_
    intro name address hname haddress
    have hrun : Asks (IsHandling settings request task machines)
        (runMachine settings request task markers machine name address :
          Activity (Dict String) Bool) :=
      runMachine_asks hsub.1 hname (blank_notMem_fencedAddress haddress)
    refine (hrun recorded).mono ?_
    rintro (failure | finished) recorded' _ rfl
    · exact .refl _
    · have hinsert := Extends.insert (hnew machine (by simp)) hname
      have hfound : (recorded'.insert machine name).contains machine = true := by
        simp [Dict.contains]
      cases finished with
      | false => exact ⟨.refl recorded', fun other hother => .inl hother⟩
      | true =>
        cases address with
        | some a =>
          -- The set is left after a member that has joined its cluster again.
          refine ⟨hinsert, fun other hother => ?_⟩
          rcases List.mem_cons.1 hother with rfl | hother
          · exact .inr hfound
          · exact .inl hother
        | none =>
          have hnew' : ∀ other ∈ rest, (recorded'.insert machine name).find? other = none := by
            intro other hother
            have hne : machine ≠ other := by
              rintro rfl
              exact hmachine hother
            rw [Dict.find?_insert_of_ne hne]
            exact hnew other (by simp [hother])
          refine (ih hsub.2 hrest hnew').mono fun outcome recorded'' _ haccounts => ?_
          cases outcome with
          | error failure => exact hinsert.trans haccounts
          | ok pending =>
            refine ⟨hinsert.trans haccounts.1, fun other hother => ?_⟩
            rcases List.mem_cons.1 hother with rfl | hother
            · exact .inr (haccounts.1.contains hfound)
            · exact haccounts.2 other hother

/-- The members of a set that are recorded already are accounted for from the start. -/
theorem runSet_accounts {set : Resource} (hsub : MachineSet.members set ⊆ machines) :
    Ensures (Terms.only (IsHandling settings request task machines))
      (runSet settings request task markers fencing set) recorded ()
      (Accounts request task (MachineSet.members set) recorded) := by
  rw [ensures_runSet]
  have hnew : ∀ machine ∈ (MachineSet.members set).filter (!recorded.contains ·),
      recorded.find? machine = none := by
    intro machine hmachine
    simpa [Dict.contains] using (List.mem_filter.1 hmachine).2
  refine (runMembers_accounts (fun _ h => hsub (List.mem_filter.1 h).1)
    ((MachineSet.nodup_members set).filter _) hnew).mono fun outcome recorded' _ haccounts => ?_
  cases outcome with
  | error failure => exact haccounts
  | ok pending =>
    refine ⟨haccounts.1, fun machine hmachine => ?_⟩
    by_cases hrecorded : recorded.contains machine = true
    · exact .inr (haccounts.1.contains hrecorded)
    · exact haccounts.2 machine (List.mem_filter.2 ⟨hmachine, by simpa using hrecorded⟩)

/-- The sets are handled one after the other; each leaves the map as large as it was or larger. -/
theorem runSets_accounts {sets : List Resource}
    (hsub : ∀ set ∈ sets, MachineSet.members set ⊆ machines) :
    Ensures (Terms.only (IsHandling settings request task machines))
      (sets.mapM (runSet settings request task markers fencing)) recorded ()
      fun outcome => Accounts request task (sets.flatMap MachineSet.members) recorded
        (outcome.map List.flatten) := by
  induction sets generalizing recorded with
  | nil => exact ⟨.refl recorded, by simp⟩
  | cons set sets ih =>
    rw [Activity.ensures_mapM_cons]
    refine (runSet_accounts (hsub set (by simp))).mono fun outcome recorded' _ hset => ?_
    cases outcome with
    | error failure => exact hset
    | ok pending =>
      rw [Activity.then_ok, Activity.ensures_bind]
      refine (ih fun set hset => hsub set (by simp [hset])).mono fun outcome recorded'' _ hrest => ?_
      cases outcome with
      | error failure => exact hset.1.trans hrest
      | ok pendings =>
        refine ⟨hset.1.trans hrest.1, fun machine hmachine => ?_⟩
        rw [List.flatten_cons]
        rw [List.flatMap_cons] at hmachine
        rcases List.mem_append.1 hmachine with hmachine | hmachine
        · rcases hset.2 machine hmachine with hpending | hrecorded
          · exact .inl (List.mem_append_left _ hpending)
          · exact .inr (hrest.1.contains hrecorded)
        · rcases hrest.2 machine hmachine with hpending | hrecorded
          · exact .inl (List.mem_append_right _ hpending)
          · exact .inr hrecorded

/-- A pass over sets of machines accounts for the members of all of them. -/
theorem runPass_accounts {sets : List Resource}
    (hsub : ∀ set ∈ sets, MachineSet.members set ⊆ machines) :
    Ensures (Terms.only (IsImaging settings request task machines))
      (runPass settings request task sets fencing) recorded ()
      (Accounts request task (sets.flatMap MachineSet.members) recorded) := by
  refine ensures_runPass.2 ⟨.list, fun answer _ _ => ?_⟩
  cases answer with
  | error failure => exact .refl recorded
  | ok markers => exact (runSets_accounts hsub).widen fun _ => .handle

end Imaging

end NamespaceBackup
