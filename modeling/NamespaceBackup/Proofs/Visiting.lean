import NamespaceBackup.Machine.Imaging
import NamespaceBackup.Proofs.Activity

/-!
# How a visit to the machines goes on

There is one rule for each part of a visit to the machines. It says what the part asks and what
comes next, so that nobody else needs to look into the part.

## Main results

* `Imaging.ensures_finishMachine`: a machine that is to join its cluster again
* `Imaging.ensures_runMembers_cons`: one member of a set, and what comes after it
* `Imaging.ensures_runSet`, `Imaging.ensures_runPass`: one set, and all sets
-/

namespace NamespaceBackup.Imaging

open Activity (Ensures)

variable {σ ω : Type} {T : Terms Query Query.Answer ω} {settings : Settings} {request : Request}
  {task : Task} {machine : String} {s : σ} {w : ω}

/-- A machine at an address is read, and powered on if it is off. It is not finished then, or its
outcome is that of the command by which it joins its cluster. -/
theorem ensures_finishMachine (inv : ω → Prop) {address : String} {markerReady : Bool}
    {post : Except Failure Bool → σ → ω → Prop}
    (hread : ∀ w, inv w → T.asks w (.call (.getMachine request.ns machine)) ∧
      ∀ (answer : Except Failure (Option Resource)) v,
        T.answers w ⟨.call (.getMachine request.ns machine), answer⟩ v → inv v)
    (hpower : ∀ w, inv w →
      T.asks w (.call (.patchMachine request.ns machine Machine.powerOn)) ∧
      ∀ (answer : Except Failure Unit) v,
        T.answers w ⟨.call (.patchMachine request.ns machine Machine.powerOn), answer⟩ v → inv v)
    (hunfinished : ∀ outcome w, inv w → outcome ≠ .ok true → post outcome s w)
    (hjoin : ∀ w, inv w →
      Ensures T (Membership.apply settings request.ns address .start machine) s w post)
    (hw : inv w) :
    Ensures T (finishMachine settings request machine markerReady (some address)) s w post := by
  cases markerReady with
  | false => exact hunfinished _ w hw (by simp)
  | true =>
    refine Activity.ensures_call_bind.2 ⟨(hread w hw).1, ?_⟩
    intro (answer : Except Failure (Option Resource)) v hanswer
    have hv := (hread w hw).2 answer v hanswer
    rcases answer with failure | (_ | object)
    · exact hunfinished _ v hv (by simp)
    · exact hunfinished _ v hv (by simp)
    · refine Activity.then_ok.2 ?_
      by_cases hkept : Machine.isKeptRunning object = true
      · by_cases hready : Machine.isReady object = true
        · simp only [hkept, hready]
          exact hjoin v hv
        · simp only [hkept, hready]
          exact hunfinished _ v hv (by simp)
      · simp only [hkept]
        refine Activity.ensures_call_bind.2 ⟨(hpower v hv).1, fun answer u hanswer => ?_⟩
        have hu := (hpower v hv).2 answer u hanswer
        cases answer <;> exact hunfinished _ u hu (by simp)

variable {markers : List Resource} {fencing : Bool} {set : Resource} {recorded : Dict String}
  {post : Except Failure (List String) → Dict String → ω → Prop}

/-- The work on one member comes first, if its snapshot has a name and it has an address. The pass
over the set ends there if the member is not finished, or has joined its cluster again. -/
theorem ensures_runMembers_cons {rest : List String}
    (hunnamed : ∀ failure, snapshotName request task machine = .error failure →
      post (.error failure) recorded w)
    (hunreached : ∀ failure, fencedAddress settings fencing set machine = .error failure →
      post (.error failure) recorded w)
    (hrun : ∀ name address, snapshotName request task machine = .ok name →
      fencedAddress settings fencing set machine = .ok address →
      Ensures T (runMachine settings request task markers machine name address) recorded w
        fun outcome recorded' v =>
          match outcome with
          | .error failure => post (.error failure) recorded' v
          | .ok false => post (.ok (machine :: rest)) recorded' v
          | .ok true =>
            if address.isSome then post (.ok rest) (recorded'.insert machine name) v
            else Ensures T (runMembers settings request task markers fencing set rest)
              (recorded'.insert machine name) v post) :
    Ensures T (runMembers settings request task markers fencing set (machine :: rest)) recorded w
      post := by
  rw [runMembers]
  cases hname : snapshotName request task machine with
  | error failure => exact hunnamed failure hname
  | ok name =>
    cases haddress : fencedAddress settings fencing set machine with
    | error failure => exact hunreached failure haddress
    | ok address =>
      change Ensures T (runMachine settings request task markers machine name address >>= _) recorded
        w post
      refine (hrun name address hname haddress).bind ?_ fun _ _ _ hpost => hpost
      intro finished recorded' v hpost
      cases finished with
      | false => exact hpost
      | true => cases address <;> exact hpost

/-- A pass over a set works on the members that are not recorded yet. -/
theorem ensures_runSet :
    Ensures T (runSet settings request task markers fencing set) recorded w post ↔
      Ensures T (runMembers settings request task markers fencing set
        ((MachineSet.members set).filter (!recorded.contains ·))) recorded w post := Iff.rfl

/-- The markers are listed once, before the sets are visited. -/
theorem ensures_runPass {sets : List Resource} :
    Ensures T (runPass settings request task sets fencing) recorded w post ↔
      T.asks w (.call (.listMarkers request.ns task.markerKind
        (settings.markerSelector request.marker))) ∧
      ∀ (answer : Except Failure (List Resource)) v, T.answers w
        ⟨.call (.listMarkers request.ns task.markerKind (settings.markerSelector request.marker)),
          answer⟩ v →
        match answer with
        | .error failure => post (.error failure) recorded v
        | .ok markers => Ensures T (sets.mapM (runSet settings request task markers fencing))
          recorded v fun outcome => post (outcome.map List.flatten) := by
  rw [runPass, Activity.ensures_call_bind]
  refine and_congr_right fun _ => forall_congr' fun answer => forall_congr' fun v => ?_
  refine imp_congr_right fun _ => ?_
  cases answer with
  | error failure => rfl
  | ok markers =>
    rw [Activity.then_ok, Activity.ensures_bind]
    refine iff_of_eq (congrArg _ (funext fun outcome => ?_))
    cases outcome <;> rfl

end NamespaceBackup.Imaging
