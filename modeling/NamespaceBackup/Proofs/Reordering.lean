import Mathlib.Data.List.Lattice
import NamespaceBackup.Proofs.Independence
import NamespaceBackup.Proofs.Keys
import NamespaceBackup.Proofs.Stages

/-!
# Sets in any order

A visit works on one set of machines after the other, with one map of records, one list of markers and
one cluster for all of them. Sets with no machine in common do not notice each other all the same:
what is done for a set depends on its machines only, on their records, their objects and their
markers, and changes nothing else. So every order of the sets has the same outcome, which is put
together from what is done for each set alone.

## Main definitions

* `Cluster.commanded`: a cluster where the outcome of a command depends on its text only
* `Imaging.IsPlace`: the objects that the work on some machines is about
* `Imaging.Alike`: states that are the same to some machines
* `Imaging.Beyond`: states that are the same to everybody else

## Main results

* `Imaging.runSet_respects`: what is done for a set depends on its machines only
* `Imaging.runSet_leaves`: it changes nothing else
* `Imaging.runPass_reordered`: the order of the sets does not matter
-/

namespace NamespaceBackup

open Activity (Apart Ensures Respects Leaves held)
open Space (Key)

namespace Cluster

/-- Clock and cluster, with nobody else around and a clock that stands still, where the outcome of a
command depends on its text only. -/
def commanded (instant : Instant) (comesTo : String → Except Failure CommandOutput) :
    (question : Query) → Cluster → question.Answer × Cluster
  | .clock, cluster => (instant, cluster)
  | .call (.runCommand _ text), cluster => (comesTo text, cluster)
  | .call c, cluster => cluster.perform c

variable {instant : Instant} {comesTo : String → Except Failure CommandOutput} {cluster : Cluster}
  {ns : String} {key : Key} {question : Query}

theorem lookup?_commanded
    (h : ∀ c, question = .call c → c.ns = ns → c.key? ≠ some key) :
    ((commanded instant comesTo question cluster).2.space ns).lookup? key =
      (cluster.space ns).lookup? key := by
  cases question with
  | clock => rfl
  | call c =>
    cases c with
    | runCommand => rfl
    | _ => exact lookup?_perform (h _ rfl) cluster

end Cluster

namespace Imaging

variable {request : Request} {kind : MarkerKind} {machines machines' : List String}
  {machine name : String} {a b : Dict String × Cluster}

/-- The objects that the work on some machines is about: they themselves and their markers. -/
inductive IsPlace (request : Request) (kind : MarkerKind) (machines : List String) : Key → Prop
  | machine {machine : String} (h : machine ∈ machines) :
    IsPlace request kind machines (.machine machine)
  | marker {machine : String} (h : machine ∈ machines) :
    IsPlace request kind machines (.marker kind (markerName request machine))

/-- States with the same records, objects and markers of some machines. -/
structure Alike (request : Request) (kind : MarkerKind) (machines : List String)
    (a b : Dict String × Cluster) : Prop where
  recorded : ∀ machine ∈ machines, a.1.find? machine = b.1.find? machine
  objects : ∀ key, IsPlace request kind machines key →
    (a.2.space request.ns).lookup? key = (b.2.space request.ns).lookup? key

/-- States that differ in the records, objects and markers of some machines at most. -/
structure Beyond (request : Request) (kind : MarkerKind) (machines : List String)
    (a b : Dict String × Cluster) : Prop where
  recorded : ∀ machine ∉ machines, a.1.find? machine = b.1.find? machine
  objects : ∀ place key, (place = request.ns → ¬ IsPlace request kind machines key) →
    (a.2.space place).lookup? key = (b.2.space place).lookup? key

theorem alike_equivalence (request : Request) (kind : MarkerKind) (machines : List String) :
    Equivalence (Alike request kind machines) where
  refl _ := ⟨fun _ _ => rfl, fun _ _ => rfl⟩
  symm h := ⟨fun m hm => (h.recorded m hm).symm, fun key hkey => (h.objects key hkey).symm⟩
  trans h h' := ⟨fun m hm => (h.recorded m hm).trans (h'.recorded m hm),
    fun key hkey => (h.objects key hkey).trans (h'.objects key hkey)⟩

theorem beyond_equivalence (request : Request) (kind : MarkerKind) (machines : List String) :
    Equivalence (Beyond request kind machines) where
  refl _ := ⟨fun _ _ => rfl, fun _ _ _ => rfl⟩
  symm h := ⟨fun m hm => (h.recorded m hm).symm,
    fun place key hkey => (h.objects place key hkey).symm⟩
  trans h h' := ⟨fun m hm => (h.recorded m hm).trans (h'.recorded m hm),
    fun place key hkey => (h.objects place key hkey).trans (h'.objects place key hkey)⟩

theorem IsPlace.mono {key : Key} (h : IsPlace request kind machines key)
    (hsub : machines ⊆ machines') : IsPlace request kind machines' key := by
  cases h with
  | machine h => exact .machine (hsub h)
  | marker h => exact .marker (hsub h)

theorem Beyond.mono (h : Beyond request kind machines a b) (hsub : machines ⊆ machines') :
    Beyond request kind machines' a b where
  recorded m hm := h.recorded m fun hmem => hm (hsub hmem)
  objects place key hkey := h.objects place key fun hplace hmem => hkey hplace (hmem.mono hsub)

/-- The work on some machines is about other objects than that on others. -/
theorem IsPlace.not_of_disjoint {key : Key} (hdisjoint : machines.Disjoint machines')
    (h : IsPlace request kind machines' key) : ¬ IsPlace request kind machines key := by
  intro hmem
  cases h with
  | machine h =>
    cases hmem with
    | machine hmem => exact hdisjoint hmem h
  | @marker machine h =>
    generalize hname : markerName request machine = name at hmem
    cases hmem with
    | marker hmem =>
      obtain rfl := markerName_injective hname
      exact hdisjoint hmem h

/-- What differs for some machines at most is the same to all others. -/
theorem Beyond.alike (h : Beyond request kind machines a b)
    (hdisjoint : machines.Disjoint machines') : Alike request kind machines' a b where
  recorded m hm := h.recorded m fun hmem => hdisjoint hmem hm
  objects key hkey := h.objects _ key fun _ => hkey.not_of_disjoint hdisjoint

/-! ## What is done for a set -/

variable {instant : Instant} {comesTo : String → Except Failure CommandOutput} {settings : Settings}
  {task : Task} {address : Option String} {markers : List Resource} {fencing : Bool} {set : Resource}

/-- A call that writes one of the objects in question is answered by what is there. -/
theorem call_respects {call : Call} {key : Key}
    (hcommanded : ∀ cluster : Cluster,
      Cluster.commanded instant comesTo (.call call) cluster = cluster.perform call)
    (hkey : call.key? = some key)
    (hcalls : ∀ x y : Cluster, (x.space request.ns).lookup? key = (y.space request.ns).lookup? key →
      (x.perform call).1 = (y.perform call).1 ∧
        ((x.perform call).2.space request.ns).lookup? key =
          ((y.perform call).2.space request.ns).lookup? key)
    (hplace : IsPlace request kind machines key) :
    Respects (Cluster.commanded instant comesTo) (Alike request kind machines)
      (Activity.call call : Activity (Dict String) call.Answer) := by
  refine .call fun a b hab => ?_
  rw [hcommanded, hcommanded]
  obtain ⟨hanswer, hafter⟩ := hcalls a.2 b.2 (hab.objects key hplace)
  refine ⟨hanswer, hab.recorded, fun other hother => ?_⟩
  by_cases heq : key = other
  · exact heq ▸ hafter
  · have hne : call.key? ≠ some other := by
      rw [hkey]
      exact fun h => heq (Option.some.inj h)
    rw [Cluster.lookup?_perform (fun _ => hne), Cluster.lookup?_perform (fun _ => hne)]
    exact hab.objects other hother

theorem getMachine_respects (hmachine : machine ∈ machines) :
    Respects (Cluster.commanded instant comesTo) (Alike request kind machines)
      (Activity.call (.getMachine request.ns machine) :
        Activity (Dict String) (Option Resource)) := by
  refine .call fun a b hab => ?_
  have hfind : (a.2.space request.ns).machines.find? machine =
      (b.2.space request.ns).machines.find? machine := hab.objects _ (.machine hmachine)
  exact ⟨congrArg Except.ok hfind, hab⟩

theorem patchMachine_respects (hmachine : machine ∈ machines) (patch : Json) :
    Respects (Cluster.commanded instant comesTo) (Alike request kind machines)
      (Activity.call (.patchMachine request.ns machine patch) : Activity (Dict String) Unit) := by
  refine call_respects (fun _ => rfl) rfl (fun x y hxy => ?_) (.machine hmachine)
  change (x.space request.ns).machines.find? machine =
    (y.space request.ns).machines.find? machine at hxy
  cases hfind : (x.space request.ns).machines.find? machine with
  | none =>
    rw [perform_patchMachine_of_missing hfind,
      perform_patchMachine_of_missing (hxy.symm.trans hfind)]
    exact ⟨rfl, hxy⟩
  | some object =>
    rw [perform_patchMachine hfind, perform_patchMachine (hxy.symm.trans hfind),
      Cluster.space_withSpace, Cluster.space_withSpace]
    refine ⟨rfl, ?_⟩
    change (Dict.insert _ machine _).find? machine = (Dict.insert _ machine _).find? machine
    rw [Dict.find?_insert, Dict.find?_insert, if_pos rfl, if_pos rfl]

theorem runCommand_respects (text : String) :
    Respects (Cluster.commanded instant comesTo) (Alike request kind machines)
      (Activity.call (.runCommand request.ns text) : Activity (Dict String) CommandOutput) :=
  .call fun _ _ hab => ⟨rfl, hab⟩

theorem createMarker_respects (hmachine : machine ∈ machines)
    (hname : snapshotName request task machine = .ok name) :
    Respects (Cluster.commanded instant comesTo) (Alike request task.markerKind machines)
      (createMarker request task (buildMarker settings request task machine name) :
        Activity (Dict String) Unit) := by
  have hplace : IsPlace request task.markerKind machines (.marker task.markerKind
      (buildMarker settings request task machine name).anyName) := by
    rw [anyName_buildMarker hname]
    exact .marker hmachine
  refine .bind (Respects.outcome (call_respects (fun _ => rfl) rfl (fun x y hxy => ?_) hplace))
    fun outcome => ?_
  · generalize buildMarker settings request task machine name = marker at hxy
    change ((x.space request.ns).markers task.markerKind).find? marker.anyName =
      ((y.space request.ns).markers task.markerKind).find? marker.anyName at hxy
    cases hfind : ((x.space request.ns).markers task.markerKind).find? marker.anyName with
    | none =>
      rw [perform_createMarker hfind, perform_createMarker (hxy.symm.trans hfind),
        Cluster.space_withSpace, Cluster.space_withSpace]
      refine ⟨rfl, ?_⟩
      change (Space.markers _ _).find? marker.anyName = (Space.markers _ _).find? marker.anyName
      rw [Space.markers_withMarkers, Space.markers_withMarkers, Dict.find?_insert,
        Dict.find?_insert, if_pos rfl, if_pos rfl]
    | some old =>
      rw [perform_createMarker_of_taken hfind,
        perform_createMarker_of_taken (hxy.symm.trans hfind)]
      exact ⟨rfl, hxy⟩
  · rcases outcome with failure | _
    · dsimp only
      split
      · exact .pure ()
      · exact .throw failure
    · exact .pure ()

theorem apply_respects {node place : String} {change : Membership.Change} :
    Respects (Cluster.commanded instant comesTo) (Alike request kind machines)
      (Membership.apply settings request.ns place change node : Activity (Dict String) Bool) :=
  .bind (runCommand_respects _) fun _ => .ofExcept _

theorem finishMachine_respects (hmachine : machine ∈ machines) (markerReady : Bool) :
    Respects (Cluster.commanded instant comesTo) (Alike request kind machines)
      (finishMachine settings request machine markerReady address :
        Activity (Dict String) Bool) := by
  cases markerReady with
  | false => exact .pure false
  | true =>
    refine .bind (getMachine_respects hmachine) fun object => ?_
    cases object with
    | none => exact .pure false
    | some object =>
      dsimp only
      split
      · exact .bind (patchMachine_respects hmachine _) fun _ => .pure false
      · split
        · exact .pure false
        · cases address with
          | none => exact .pure true
          | some address => exact apply_respects

theorem shutMachine_respects (hmachine : machine ∈ machines)
    (hname : snapshotName request task machine = .ok name) :
    Respects (Cluster.commanded instant comesTo) (Alike request task.markerKind machines)
      (shutMachine settings request task machine name : Activity (Dict String) Unit) := by
  refine .bind (getMachine_respects hmachine) fun object => ?_
  cases object with
  | none => exact .pure ()
  | some object =>
    dsimp only
    split
    · exact .bind (patchMachine_respects hmachine _) fun _ => createMarker_respects hmachine hname
    · exact createMarker_respects hmachine hname

theorem startMachine_respects (hmachine : machine ∈ machines)
    (hname : snapshotName request task machine = .ok name) :
    Respects (Cluster.commanded instant comesTo) (Alike request task.markerKind machines)
      (startMachine settings request task machine name address : Activity (Dict String) Unit) := by
  have hshut : Respects (Cluster.commanded instant comesTo)
      (Alike request task.markerKind machines)
      (shutMachine settings request task machine name : Activity (Dict String) Unit) :=
    shutMachine_respects hmachine hname
  cases address with
  | none => exact hshut
  | some address =>
    rw [startMachine_some]
    refine .bind apply_respects fun stopped => ?_
    cases stopped with
    | false => exact .pure ()
    | true => exact hshut

theorem runMachine_respects (hmachine : machine ∈ machines)
    (hname : snapshotName request task machine = .ok name) :
    Respects (Cluster.commanded instant comesTo) (Alike request task.markerKind machines)
      (runMachine settings request task markers machine name address :
        Activity (Dict String) Bool) := by
  rw [runMachine]
  split
  · exact finishMachine_respects hmachine _
  · exact .bind (startMachine_respects hmachine hname) fun _ => .pure false

theorem runMembers_respects {members : List String} (hsub : members ⊆ machines) :
    Respects (Cluster.commanded instant comesTo) (Alike request task.markerKind machines)
      (runMembers settings request task markers fencing set members) := by
  induction members with
  | nil => exact .pure []
  | cons machine rest ih =>
    rw [List.cons_subset] at hsub
    refine .ofExcept_bind fun name hname => .ofExcept_bind fun address _ => ?_
    refine .bind (runMachine_respects hsub.1 hname) fun finished => ?_
    cases finished with
    | false => exact .pure _
    | true =>
      refine .bind (.modify fun a b hab => ⟨fun other hother => ?_, hab.objects⟩) fun _ => ?_
      · rw [Dict.find?_insert, Dict.find?_insert, hab.recorded other hother]
      · cases address with
        | none => exact ih hsub.2
        | some address => exact .pure rest

/-- What is done for a set depends on its machines only. -/
theorem runSet_respects :
    Respects (Cluster.commanded instant comesTo)
      (Alike request task.markerKind (MachineSet.members set))
      (runSet settings request task markers fencing set) := by
  intro a b hab
  -- The records of its members tell which of them are left.
  have hleft : (MachineSet.members set).filter (!a.1.contains ·) =
      (MachineSet.members set).filter (!b.1.contains ·) := by
    refine List.filter_congr fun machine hmachine => ?_
    rw [Dict.contains, Dict.contains, hab.recorded machine hmachine]
  have hsub : (MachineSet.members set).filter (!b.1.contains ·) ⊆ MachineSet.members set :=
    fun _ hmem => (List.mem_filter.1 hmem).1
  have hmembers : Respects (Cluster.commanded instant comesTo)
      (Alike request task.markerKind (MachineSet.members set))
      (runMembers settings request task markers fencing set
        ((MachineSet.members set).filter (!b.1.contains ·))) := runMembers_respects hsub
  have hrun (state : Dict String × Cluster) :
      held (Cluster.commanded instant comesTo)
          (runSet settings request task markers fencing set) state =
        held (Cluster.commanded instant comesTo) (runMembers settings request task markers fencing set
          ((MachineSet.members set).filter (!state.1.contains ·))) state := rfl
  rw [hrun, hrun, hleft]
  exact hmembers a b hab

/-- What is written for a machine is its object or its marker. -/
theorem isPlace_of_isHandling {call : Call} {key : Key}
    (h : IsHandling settings request task machines (.call call)) (hkey : call.key? = some key) :
    call.ns = request.ns ∧ IsPlace request task.markerKind machines key := by
  cases h with
  | read | command => cases hkey
  | powerOn hmachine | powerOff hmachine =>
    cases hkey
    exact ⟨rfl, .machine hmachine⟩
  | mark hmachine hname =>
    cases hkey
    rw [anyName_buildMarker hname]
    exact ⟨rfl, .marker hmachine⟩

/-- What is done for a set changes nothing but what is about its machines. -/
theorem runSet_leaves (hsub : MachineSet.members set ⊆ machines) :
    Leaves (Cluster.commanded instant comesTo) (Beyond request task.markerKind machines)
      (runSet settings request task markers fencing set) := by
  intro start
  have hset : Ensures (Activity.answering (Cluster.commanded instant comesTo))
      (runSet settings request task markers fencing set) start.1 start.2
      fun _ recorded after => (∀ machine ∉ machines,
          recorded.find? machine = start.1.find? machine) ∧
        ∀ place key, (place = request.ns → ¬ IsPlace request task.markerKind machines key) →
          (after.space place).lookup? key = (start.2.space place).lookup? key := by
    refine (runSet_asks hsub).preserves _ (fun _ _ _ _ => trivial) ?_ fun _ _ _ => rfl
    rintro cluster ⟨question, answer⟩ after hkept hhandling hanswer place key hkey
    have hstep : ((Cluster.commanded instant comesTo question cluster).2.space place).lookup? key =
        (cluster.space place).lookup? key := by
      refine Cluster.lookup?_commanded ?_
      rintro call rfl hplace hwrites
      obtain ⟨hns, hmem⟩ := isPlace_of_isHandling hhandling hwrites
      exact hkey (hplace.symm.trans hns) hmem
    rw [hanswer] at hstep
    exact hstep.trans (hkept place key hkey)
  obtain ⟨hrecorded, hobjects⟩ := hset.of_held
  exact ⟨fun machine hmachine => (hrecorded machine hmachine).symm,
    fun place key hkey => (hobjects place key hkey).symm⟩

/-! ## Sets one after the other -/

variable {sets sets' : List Resource} {start : Dict String × Cluster}

/-- Sets with no machine in common are apart. -/
theorem apart_of_disjoint
    (hdisjoint : sets.Pairwise fun first second =>
      (MachineSet.members first).Disjoint (MachineSet.members second)) :
    Apart (Cluster.commanded instant comesTo)
      (fun set => Alike request task.markerKind (MachineSet.members set))
      (runSet settings request task markers fencing) sets where
  equivalence _ _ := alike_equivalence _ _ _
  respects _ _ := runSet_respects
  leaves := hdisjoint.imp fun h =>
    ⟨fun a => (runSet_leaves (fun _ h => h) a).alike h.symm,
      fun a => (runSet_leaves (fun _ h => h) a).alike h⟩

/-- The markers are listed once, before the first set is visited. -/
theorem held_runPass :
    held (Cluster.commanded instant comesTo) (runPass settings request task sets fencing) start =
      let visited := held (Cluster.commanded instant comesTo)
        (sets.mapM (runSet settings request task
          (listed settings request task (start.2.space request.ns)) fencing)) start
      (visited.1.map List.flatten, visited.2) := by
  have hlist : (held (Cluster.commanded instant comesTo)
      (Activity.call (.listMarkers request.ns task.markerKind
        (settings.markerSelector request.marker)) : Activity (Dict String) (List Resource))
      start).1 = .ok (listed settings request task (start.2.space request.ns)) := rfl
  rw [runPass, Activity.held_bind_of_ok hlist]
  change held _ (sets.mapM (runSet settings request task
    (listed settings request task (start.2.space request.ns)) fencing) >>= _) start = _
  dsimp only
  cases hvisited : (held (Cluster.commanded instant comesTo)
      (sets.mapM (runSet settings request task
        (listed settings request task (start.2.space request.ns)) fencing)) start).1 with
  | ok blocks =>
    rw [Activity.held_bind_of_ok hvisited]
    rfl
  | error failure =>
    rw [Activity.held_bind_of_error hvisited]
    rfl

section Blocks

variable (hdisjoint : sets.Pairwise fun first second =>
  (MachineSet.members first).Disjoint (MachineSet.members second))

include hdisjoint

/-- The members that a pass leaves pending come set by set, and each set would leave its own. -/
theorem exists_blocks {pending : List String} {finish : Dict String × Cluster}
    (hpass : held (Cluster.commanded instant comesTo) (runPass settings request task sets fencing)
      start = (.ok pending, finish)) :
    ∃ block : Resource → List String, pending = sets.flatMap block ∧
      ∀ set ∈ sets, (held (Cluster.commanded instant comesTo) (runSet settings request task
        (listed settings request task (start.2.space request.ns)) fencing set) start).1 =
          .ok (block set) := by
  rw [held_runPass] at hpass
  dsimp only at hpass
  cases hvisited : (held (Cluster.commanded instant comesTo)
      (sets.mapM (runSet settings request task
        (listed settings request task (start.2.space request.ns)) fencing)) start).1 with
  | error failure =>
    rw [hvisited] at hpass
    cases congrArg Prod.fst hpass
  | ok blocks =>
    rw [hvisited] at hpass
    obtain ⟨block, rfl, hblock⟩ := (apart_of_disjoint hdisjoint).exists_parts hvisited
    refine ⟨block, ?_, hblock⟩
    rw [List.flatMap]
    exact (Except.ok.inj (congrArg Prod.fst hpass)).symm

/-- A pass over sets each of which would succeed alone does for each what would be done alone. -/
theorem held_runPass_of_blocks {block : Resource → List String}
    (hblock : ∀ set ∈ sets, (held (Cluster.commanded instant comesTo) (runSet settings request task
      (listed settings request task (start.2.space request.ns)) fencing set) start).1 =
        .ok (block set)) :
    ∃ finish, held (Cluster.commanded instant comesTo)
        (runPass settings request task sets fencing) start = (.ok (sets.flatMap block), finish) ∧
      (∀ set ∈ sets, Alike request task.markerKind (MachineSet.members set)
        (held (Cluster.commanded instant comesTo) (runSet settings request task
          (listed settings request task (start.2.space request.ns)) fencing set) start).2 finish) ∧
      Beyond request task.markerKind (sets.flatMap MachineSet.members) start finish := by
  obtain ⟨hvisited, hparts⟩ := (apart_of_disjoint hdisjoint).held_mapM hblock
  refine ⟨_, ?_, hparts, ?_⟩
  · rw [held_runPass]
    dsimp only
    rw [hvisited]
    rfl
  · refine Leaves.mapM (beyond_equivalence _ _ _) (fun set hset => runSet_leaves ?_) start
    exact fun machine hmachine => List.mem_flatMap.2 ⟨set, hset, hmachine⟩

end Blocks

/-- States are the same if they are the same to the machines of all sets and to everybody else. -/
theorem eq_of_alike (halike : ∀ set ∈ sets, Alike request kind (MachineSet.members set) a b)
    (hbeyond : Beyond request kind (sets.flatMap MachineSet.members) a b) :
    a.1 = b.1 ∧ ∀ place key, (a.2.space place).lookup? key = (b.2.space place).lookup? key := by
  refine ⟨Dict.ext_find? fun machine => ?_, fun place key => ?_⟩
  · by_cases hmem : machine ∈ sets.flatMap MachineSet.members
    · obtain ⟨set, hset, hmachine⟩ := List.mem_flatMap.1 hmem
      exact (halike set hset).recorded machine hmachine
    · exact hbeyond.recorded machine hmem
  · by_cases hplace : place = request.ns ∧
      IsPlace request kind (sets.flatMap MachineSet.members) key
    · obtain ⟨rfl, hkey⟩ := hplace
      obtain ⟨set, hset, hmem⟩ : ∃ set ∈ sets, IsPlace request kind (MachineSet.members set) key := by
        cases hkey with
        | machine h =>
          obtain ⟨set, hset, hmachine⟩ := List.mem_flatMap.1 h
          exact ⟨set, hset, .machine hmachine⟩
        | marker h =>
          obtain ⟨set, hset, hmachine⟩ := List.mem_flatMap.1 h
          exact ⟨set, hset, .marker hmachine⟩
      exact (halike set hset).objects key hmem
    · exact hbeyond.objects place key fun heq hkey => hplace ⟨heq, hkey⟩

/-- If a pass over sets with no machine in common succeeds, it does so in every order of the sets, with
the same records and the same objects in the end, and what is left pending is the same, set by set. For
each set that is what a pass over this set alone leaves, which does to its machines what the whole pass
does to them, and nothing else. -/
theorem runPass_reordered (hperm : sets.Perm sets')
    (hdisjoint : sets.Pairwise fun first second =>
      (MachineSet.members first).Disjoint (MachineSet.members second))
    {pending : List String} {finish : Dict String × Cluster}
    (hpass : held (Cluster.commanded instant comesTo) (runPass settings request task sets fencing)
      start = (.ok pending, finish)) :
    ∃ (block : Resource → List String) (finish' : Dict String × Cluster),
      pending = sets.flatMap block ∧
      held (Cluster.commanded instant comesTo) (runPass settings request task sets' fencing) start =
        (.ok (sets'.flatMap block), finish') ∧
      finish'.1 = finish.1 ∧
      (∀ place key,
        (finish'.2.space place).lookup? key = (finish.2.space place).lookup? key) ∧
      ∀ set ∈ sets, ∃ alone,
        held (Cluster.commanded instant comesTo) (runPass settings request task [set] fencing) start =
          (.ok (block set), alone) ∧
        Alike request task.markerKind (MachineSet.members set) alone finish ∧
        Beyond request task.markerKind (MachineSet.members set) start alone := by
  obtain ⟨block, rfl, hblock⟩ := exists_blocks hdisjoint hpass
  -- Both orders do for each set what would be done for it alone, so it is the same in both.
  have hdisjoint' : sets'.Pairwise fun first second =>
      (MachineSet.members first).Disjoint (MachineSet.members second) :=
    hperm.pairwise hdisjoint fun h => h.symm
  obtain ⟨_, hpass', halike, hbeyond⟩ := held_runPass_of_blocks hdisjoint hblock
  obtain rfl := congrArg Prod.snd (hpass'.symm.trans hpass)
  obtain ⟨finish', hreordered, halike', hbeyond'⟩ :=
    held_runPass_of_blocks hdisjoint' fun set hset => hblock set (hperm.mem_iff.2 hset)
  have hsame (set : Resource) := alike_equivalence request task.markerKind (MachineSet.members set)
  have hothers := beyond_equivalence request task.markerKind (sets.flatMap MachineSet.members)
  have hmembers : sets'.flatMap MachineSet.members ⊆ sets.flatMap MachineSet.members :=
    (hperm.flatMap_right _).symm.subset
  have hfinish : ∀ set ∈ sets, Alike request task.markerKind (MachineSet.members set) finish' _ :=
    fun set hset =>
      (hsame set).trans ((hsame set).symm (halike' set (hperm.mem_iff.1 hset))) (halike set hset)
  obtain ⟨hrecords, hobjects⟩ :=
    eq_of_alike hfinish (hothers.trans (hothers.symm (hbeyond'.mono hmembers)) hbeyond)
  refine ⟨block, finish', rfl, hreordered, hrecords, hobjects, fun set hset => ?_⟩
  obtain ⟨alone, hpassAlone, halikeAlone, hbeyondAlone⟩ :=
    held_runPass_of_blocks (List.pairwise_singleton _ set) fun other hother =>
      hblock other (List.mem_singleton.1 hother ▸ hset)
  rw [List.flatMap_singleton] at hpassAlone hbeyondAlone
  refine ⟨alone, hpassAlone, ?_, hbeyondAlone⟩
  exact (hsame set).trans ((hsame set).symm (halikeAlone set (List.mem_singleton_self set)))
    (halike set hset)

end Imaging

namespace Reordering

open Imaging

/-! ## Three machines in a cluster and one by itself -/

/-- A set of machines, all of which are at one address. -/
def setWith (name : String) (machines : List String) : Resource where
  metadata := { name := some name }
  fields := .ofList [("spec", .object [("vmCount", .int machines.length)]),
    ("status", .object [("vmHosts", .object (machines.map fun machine =>
      (machine, .object [("ipAddresses", .object [("ctlplane", .str "192.168.25.10/24")])])))])]

def controllers : Resource := setWith "controllers" ["c-0", "c-1", "c-2"]

def worker : Resource := setWith "worker" ["w-0"]

/-- The request for which images of all machines are taken. -/
def nightly : Imaging.Request := ⟨"cloud", "nightly", "nightly-0"⟩

/-- A machine that is up. -/
def running : Resource where
  fields := .ofList [("spec", .object [("runStrategy", .str Machine.rerunOnFailure)]),
    ("status", .object [("ready", .bool true)])]

/-- The image of the first controller, which is ready. -/
def taken : Resource :=
  (buildMarker {} nightly .save "c-0" "c-0-nightly-0").withField "status"
    (.object [("readyToUse", .bool true)])

/-- All machines are up, and there is an image of the first. -/
def cloud : Cluster where
  spaces := .ofList [("cloud",
    { machines := .ofList (["c-0", "c-1", "c-2", "w-0"].map fun machine => (machine, running))
      snapshots := .ofList [("c-0-nightly-0", taken)] })]

/-- A pass over some sets in which every command succeeds. -/
def passOver (sets : List Resource) : Except Failure (List String) × Dict String × Cluster :=
  held (Cluster.commanded ⟨0, 0⟩ fun _ => .ok { success := true })
    (runPass {} nightly .save sets true) (.empty, cloud)

/-- The first controller joins its cluster and is recorded, and the worker is taken down, whichever set
comes first. -/
theorem worker_first :
    ∃ finish finish',
      passOver [controllers, worker] = (.ok ["c-1", "c-2", "w-0"], finish) ∧
      passOver [worker, controllers] = (.ok ["w-0", "c-1", "c-2"], finish') ∧
      finish'.1 = finish.1 ∧
      (∀ place key,
        (finish'.2.space place).lookup? key = (finish.2.space place).lookup? key) ∧
      finish'.1.find? "c-0" = some "c-0-nightly-0" := by
  have hsucceeds : (passOver [controllers, worker]).1 = .ok ["c-1", "c-2", "w-0"] := by
    decide +kernel
  have hcontrollers : (passOver [controllers]).1 = .ok ["c-1", "c-2"] := by decide +kernel
  have hworker : (passOver [worker]).1 = .ok ["w-0"] := by decide +kernel
  have hrecord : (passOver [controllers, worker]).2.1.find? "c-0" = some "c-0-nightly-0" := by
    decide +kernel
  have hapart : ∀ machine ∈ MachineSet.members controllers,
      machine ∉ MachineSet.members worker := by decide +kernel
  have hdisjoint : [controllers, worker].Pairwise fun first second =>
      (MachineSet.members first).Disjoint (MachineSet.members second) :=
    List.pairwise_pair.2 fun machine hmem hmem' => hapart machine hmem hmem'
  have hpass : passOver [controllers, worker] =
      (.ok ["c-1", "c-2", "w-0"], (passOver [controllers, worker]).2) := Prod.ext hsucceeds rfl
  obtain ⟨block, finish', -, hreordered, hrecords, hobjects, halone⟩ :=
    runPass_reordered (.swap worker controllers []) hdisjoint hpass
  -- What either set leaves pending is what it leaves alone.
  obtain ⟨_, hfirst, -, -⟩ := halone controllers (by simp)
  obtain ⟨_, hsecond, -, -⟩ := halone worker (by simp)
  have hblocks : block controllers = ["c-1", "c-2"] ∧ block worker = ["w-0"] :=
    ⟨Except.ok.inj ((congrArg Prod.fst hfirst).symm.trans hcontrollers),
      Except.ok.inj ((congrArg Prod.fst hsecond).symm.trans hworker)⟩
  refine ⟨_, finish', hpass, ?_, hrecords, hobjects, hrecords ▸ hrecord⟩
  rw [List.flatMap_cons, List.flatMap_singleton, hblocks.1, hblocks.2] at hreordered
  exact hreordered

end Reordering

end NamespaceBackup
