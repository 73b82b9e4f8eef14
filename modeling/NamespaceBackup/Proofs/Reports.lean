import Mathlib.Algebra.GroupWithZero.Nat
import Mathlib.Data.List.Nodup
import NamespaceBackup.Proofs.ByteOrder
import NamespaceBackup.Proofs.Contents
import NamespaceBackup.Proofs.Quiesced

/-!
# What a report lists

Both reports pick objects of managed kinds out of lists that are kept by kind: one out of what is
there, kind by kind in loading order, the other out of what was saved, by name of kind. A report is
sorted, so all that counts is how often each object is picked.

## Main definitions

* `ManagedKind.HoldsUp`: an object does not report a finished state where its kind reports one
* `Inventory.heldUp`: the objects of an inventory that hold it up
* `Inventory.Distinct`: within a kind, names are distinct
* `Quiescence.picked`: the objects of managed kinds that a test picks out
* `HoldUp.BytesLe`: the order of kinds and names by their bytes

## Main results

* `Quiescence.count_picked`: an object is picked as often as it is listed
* `Quiescence.evaluate_eq_picked`, `Quiescence.evaluateRestored_eq_picked`: both reports pick
* `Quiescence.evaluators_agree`: a bundle of an inventory is back if and only if the inventory is
  not held up by it
* `Quiescence.report_canonical`: a report lists what holds up, sorted, in whatever order it is found
-/

namespace NamespaceBackup

/-! ## Objects that hold up -/

namespace ManagedKind

/-- An object does not report a finished state at the place where its kind reports one. -/
def HoldsUp (kind : ManagedKind) (object : Resource) : Prop :=
  ∃ path, kind.stateLocation.path? = some path ∧
    ∀ state ∈ kind.finishedStates, object.at? path ≠ some (.str state)

theorem hasState_iff {kind : ManagedKind} :
    kind.hasState = true ↔ ∃ path, kind.stateLocation.path? = some path := by
  cases kind <;> simp [hasState, stateLocation, StateLocation.path?]

theorem currentState_eq_some_iff {kind : ManagedKind} {object : Resource} {path : List String}
    {state : String} (h : kind.stateLocation.path? = some path) :
    kind.currentState object = some state ↔ object.at? path = some (.str state) := by
  rw [currentState, h, Option.bind_some]
  cases object.at? path with
  | none => simp
  | some value => cases value <;> simp [Json.str?]

/-- What holds up is what is not finished. -/
theorem isFinished_eq_false_iff {kind : ManagedKind} {object : Resource} :
    kind.isFinished object = false ↔ kind.HoldsUp object := by
  rw [← Bool.not_eq_true, isFinished_iff, hasState_iff, Classical.not_imp]
  constructor
  · rintro ⟨⟨path, hpath⟩, hnot⟩
    exact ⟨path, hpath, fun state hmem hreports =>
      hnot ⟨state, hmem, (currentState_eq_some_iff hpath).2 hreports⟩⟩
  · rintro ⟨path, hpath, hnot⟩
    exact ⟨⟨path, hpath⟩, fun ⟨state, hmem, hreports⟩ =>
      hnot state hmem ((currentState_eq_some_iff hpath).1 hreports)⟩

instance (kind : ManagedKind) : DecidablePred kind.HoldsUp := fun _ =>
  decidable_of_iff _ isFinished_eq_false_iff

instance (p : ManagedKind → Prop) [DecidablePred p] : Decidable (∃ kind, p kind) :=
  decidable_of_iff (∃ kind ∈ all, p kind) (by simp [mem_all])

/-- Among all kinds, the one of a name is counted once. -/
theorem sum_all_of_name (f : ManagedKind → Nat) (name : String) :
    (all.map fun kind => if kind.name = name then f kind else 0).sum =
      ((ofName? name).map f).getD 0 := by
  cases hkind : ofName? name with
  | none =>
    have hnone : ∀ kind ∈ all, kind.name ≠ name := by simpa [ofName?] using hkind
    refine List.sum_eq_zero_iff_forall_eq_nat.2 fun count hcount => ?_
    obtain ⟨kind, hmem, rfl⟩ := List.mem_map.1 hcount
    exact if_neg (hnone kind hmem)
  | some kind =>
    obtain rfl := name_of_ofName? hkind
    cases kind <;> simp [all, ManagedKind.name]

end ManagedKind

namespace Inventory

/-- The objects of an inventory that hold it up, each as often as it is listed. -/
def heldUp (inventory : Inventory) : List HoldUp :=
  inventory.resources.entries.flatMap fun (kindName, objects) =>
    (objects.filter fun object =>
      ∃ kind : ManagedKind, kind.name = kindName ∧ kind.HoldsUp object).map
        fun object => ⟨kindName, object.anyName⟩

/-- Within a kind, managed or not, objects have distinct names. -/
def Distinct (inventory : Inventory) : Prop :=
  ∀ kindName, ((inventory.objects kindName).map Resource.anyName).Nodup

theorem distinct_iff {inventory : Inventory} :
    inventory.Distinct ↔
      ∀ entry ∈ inventory.resources.entries, (entry.2.map Resource.anyName).Nodup := by
  constructor
  · rintro h ⟨kindName, objects⟩ hentry
    have hobjects : inventory.objects kindName = objects := by
      rw [Inventory.objects, Dict.mem_entries_iff.1 hentry, Option.getD_some]
    exact hobjects ▸ h kindName
  · intro h kindName
    rw [Inventory.objects]
    cases hfind : inventory.resources.find? kindName with
    | none => exact List.nodup_nil
    | some objects => exact h _ (Dict.mem_entries_iff.2 hfind)

instance (inventory : Inventory) : Decidable inventory.Distinct :=
  decidable_of_iff _ distinct_iff.symm

end Inventory

/-- A sum over all entries that counts those of one name only has one term at most. -/
theorem Dict.sum_entries_of_name {α : Type} (dict : Dict α) (f : α → Nat) (name : String) :
    (dict.entries.map fun pair => if pair.1 = name then f pair.2 else 0).sum =
      ((dict.find? name).map f).getD 0 := by
  obtain ⟨pairs, hpairs⟩ := dict
  rw [Dict.find?]
  dsimp only
  induction pairs with
  | nil => rfl
  | cons pair pairs ih =>
    obtain ⟨hless, hrest⟩ := List.pairwise_cons.1 hpairs
    rw [List.map_cons, List.sum_cons, ih hrest, Assoc.find?]
    by_cases hname : pair.1 = name
    · subst hname
      simp [Assoc.find?_eq_none_of_lt hless]
    · simp [hname]

/-- The order of hold-ups: by the bytes of their kinds, then of their names. -/
def HoldUp.BytesLe (a b : HoldUp) : Prop :=
  Utf8.encode a.kind < Utf8.encode b.kind ∨
    a.kind = b.kind ∧ Utf8.encode a.name ≤ Utf8.encode b.name

theorem HoldUp.le_iff_bytesLe {a b : HoldUp} : a.le b = true ↔ a.BytesLe b := by
  simp [le, BytesLe, Utf8.encode_lt_encode, Utf8.encode_le_encode]

/-! ## What a test picks out -/

namespace Quiescence

/-- The objects of managed kinds that a test picks out, as hold-ups. -/
def picked (test : ManagedKind → Resource → Bool) (resources : Dict (List Resource)) :
    List HoldUp :=
  resources.entries.flatMap fun (kindName, objects) =>
    (objects.filter fun object => (ManagedKind.ofName? kindName).any (test · object)).map
      fun object => ⟨kindName, object.anyName⟩

/-- Objects kept by kind, in another order within the kinds. -/
def Rearranged (resources resources' : Dict (List Resource)) : Prop :=
  ∀ kindName, ((resources.find? kindName).getD []).Perm ((resources'.find? kindName).getD [])

section Picked

variable {test test' : ManagedKind → Resource → Bool} {resources resources' : Dict (List Resource)}

/-- What is picked of one kind counts for hold-ups of that kind only. -/
theorem count_map_filter (kindName : String) (test : Resource → Bool) (objects : List Resource)
    (holdUp : HoldUp) :
    ((objects.filter test).map fun object => HoldUp.mk kindName object.anyName).count holdUp =
      if kindName = holdUp.kind then
        objects.countP fun object => test object && object.anyName = holdUp.name
      else 0 := by
  obtain ⟨kind, name⟩ := holdUp
  rw [List.count_eq_countP, List.countP_map, List.countP_filter]
  split
  case isTrue heq => exact List.countP_congr fun object _ => by simp [heq, and_comm]
  case isFalse heq => exact List.countP_eq_zero.2 fun object _ => by simp [heq]

/-- An object is picked as often as it is listed, if its kind is managed and the test holds. -/
theorem count_picked (test : ManagedKind → Resource → Bool) (resources : Dict (List Resource))
    (holdUp : HoldUp) :
    (picked test resources).count holdUp =
      ((resources.find? holdUp.kind).getD []).countP fun object =>
        (ManagedKind.ofName? holdUp.kind).any (test · object) && object.anyName = holdUp.name := by
  -- Every entry adds hold-ups of its own kind only, so one entry counts at most.
  have hsum := resources.sum_entries_of_name (fun objects => objects.countP fun object =>
    (ManagedKind.ofName? holdUp.kind).any (test · object) && object.anyName = holdUp.name)
    holdUp.kind
  rw [picked, List.count_flatMap]
  refine (congrArg List.sum (List.map_congr_left ?_)).trans (hsum.trans ?_)
  · rintro ⟨kindName, objects⟩ -
    refine (count_map_filter kindName _ objects holdUp).trans ?_
    by_cases heq : kindName = holdUp.kind <;> simp [heq]
  · cases resources.find? holdUp.kind <;> simp

theorem mem_picked {holdUp : HoldUp} :
    holdUp ∈ picked test resources ↔ ∃ kind : ManagedKind, kind.name = holdUp.kind ∧
      ∃ object ∈ (resources.find? kind.name).getD [], test kind object = true ∧
        object.anyName = holdUp.name := by
  rw [← List.count_pos_iff, count_picked, List.countP_pos_iff]
  constructor
  · rintro ⟨object, hobject, hpicked⟩
    obtain ⟨htest, hname⟩ := Bool.and_eq_true_iff.1 hpicked
    obtain ⟨kind, hkind, htest⟩ := (Option.any_eq_true _ _).1 htest
    have hkindName := ManagedKind.name_of_ofName? hkind
    exact ⟨kind, hkindName, object, by rwa [hkindName], htest, of_decide_eq_true hname⟩
  · rintro ⟨kind, hkindName, object, hobject, htest, hname⟩
    refine ⟨object, by rwa [← hkindName], ?_⟩
    rw [← hkindName, ManagedKind.ofName?_name, Option.any_some, htest, hname]
    simp

/-- Of objects in another order, tests that agree on them pick the same ones. -/
theorem picked_perm (hresources : Rearranged resources resources')
    (htest : ∀ kind : ManagedKind, ∀ object ∈ (resources.find? kind.name).getD [],
      test kind object = test' kind object) :
    (picked test resources).Perm (picked test' resources') := by
  refine List.perm_iff_count.2 fun holdUp => ?_
  rw [count_picked, count_picked, ← (hresources holdUp.kind).countP_eq]
  refine List.countP_congr fun object hobject => ?_
  cases hkind : ManagedKind.ofName? holdUp.kind with
  | none => rfl
  | some kind =>
    have hname := ManagedKind.name_of_ofName? hkind
    rw [Option.any_some, Option.any_some, htest kind object (by rwa [hname])]

end Picked

/-! ## What the reports pick -/

/-- A report lists the same hold-ups if they are found in another order. -/
theorem ofList_perm {found found' : List HoldUp} (h : found.Perm found') :
    Report.ofList found = Report.ofList found' :=
  ofList_eq_of_perm <| (List.mergeSort_perm _ _).trans <| h.trans (List.mergeSort_perm _ _).symm

/-- The kinds that have an entry contribute what all kinds do. -/
theorem flatMap_populatedKinds (inventory : Inventory)
    (found : ManagedKind → List Resource → List HoldUp) (hnil : ∀ kind, found kind [] = []) :
    (inventory.populatedKinds.flatMap fun (kind, objects) => found kind objects) =
      ManagedKind.all.flatMap fun kind => found kind (inventory.objects kind.name) := by
  rw [Inventory.populatedKinds]
  induction ManagedKind.all with
  | nil => rfl
  | cons kind kinds ih =>
    rw [List.filterMap_cons, List.flatMap_cons, Inventory.objects]
    cases inventory.resources.find? kind.name with
    | none => simpa [hnil] using ih
    | some objects => simpa using ih

/-- The report on an inventory picks what is not finished. -/
theorem evaluate_eq_picked (inventory : Inventory) :
    evaluate inventory =
      .ofList (picked (fun kind object => !kind.isFinished object) inventory.resources) := by
  refine ofList_perm (List.perm_iff_count.2 fun holdUp => ?_)
  have hsum := ManagedKind.sum_all_of_name (fun kind => (inventory.objects kind.name).countP
    fun object => !kind.isFinished object && object.anyName = holdUp.name) holdUp.kind
  rw [flatMap_populatedKinds inventory (fun kind objects =>
    (objects.filter (!kind.isFinished ·)).map (Quiescence.holdUp kind)) (fun _ => rfl),
    count_picked, List.count_flatMap]
  refine (congrArg List.sum (List.map_congr_left fun kind _ =>
    count_map_filter kind.name _ _ holdUp)).trans (hsum.trans ?_)
  cases hkind : ManagedKind.ofName? holdUp.kind with
  | none => simp
  | some kind =>
    rw [← ManagedKind.name_of_ofName? hkind]
    rfl

/-- The report on a bundle picks what is not back. -/
theorem evaluateRestored_eq_picked (content : Bundle.Content) (inventory : Inventory) :
    evaluateRestored content inventory =
      .ofList (picked (fun kind object =>
        !isBack kind (inventory.objects kind.name) object.anyName) content.resources) := by
  refine congrArg Report.ofList (List.flatMap_congr fun entry _ => ?_)
  obtain ⟨kindName, saved⟩ := entry
  cases hkind : ManagedKind.ofName? kindName with
  | none => simp [hkind]
  | some kind =>
    obtain rfl := ManagedKind.name_of_ofName? hkind
    simp only [hkind, Option.any_some]
    rfl

theorem mem_ofList {holdUp : HoldUp} {found : List HoldUp} :
    holdUp ∈ (Report.ofList found).holdUps ↔ holdUp ∈ found :=
  (List.mergeSort_perm _ _).mem_iff

/-- If live objects have distinct names, a name is back if a finished object has it. -/
theorem isBack_iff {kind : ManagedKind} {live : List Resource} {name : String}
    (h : (live.map Resource.anyName).Nodup) :
    isBack kind live name = true ↔
      ∃ object ∈ live, object.anyName = name ∧ kind.isFinished object = true := by
  refine ⟨exists_of_isBack, ?_⟩
  rintro ⟨object, hobject, rfl, hfinished⟩
  rw [isBack]
  cases hfind : live.find? (·.anyName = object.anyName) with
  | none => exact absurd (List.find?_eq_none.1 hfind object hobject) (by simp)
  | some found =>
    have hname : found.anyName = object.anyName := by simpa using List.find?_some hfind
    rw [List.inj_on_of_nodup_map h (List.mem_of_find?_eq_some hfind) hobject hname]
    exact hfinished

/-- An object whose kind has no two objects of one name is back if it is finished. -/
theorem isBack_anyName {kind : ManagedKind} {live : List Resource} {object : Resource}
    (h : (live.map Resource.anyName).Nodup) (hobject : object ∈ live) :
    isBack kind live object.anyName = kind.isFinished object := by
  rw [Bool.eq_iff_iff, isBack_iff h]
  constructor
  · rintro ⟨other, hother, hname, hfinished⟩
    rwa [← List.inj_on_of_nodup_map h hother hobject hname]
  · exact fun hfinished => ⟨object, hobject, rfl, hfinished⟩

/-! ## The two reports agree -/

/-- The two reports agree. A bundle of an inventory, whatever snapshots it names, is reported on the
inventory itself as the inventory is, in the same order, if names are distinct within each kind. And
on any inventory of distinct names nothing of a bundle is reported if and only if every object saved
of a managed kind has a live one of its kind and name, which the report on that inventory does not
list. -/
theorem evaluators_agree (saved live : Inventory) (snapshotNames : Dict String) :
    (saved.Distinct →
      evaluateRestored (saved.toBundle snapshotNames) saved = evaluate saved) ∧
    (live.Distinct →
      ((evaluateRestored (saved.toBundle snapshotNames) live).holdUps = [] ↔
        ∀ kind : ManagedKind, ∀ object ∈ saved.objects kind.name,
          (∃ other ∈ live.objects kind.name, other.anyName = object.anyName) ∧
            holdUp kind object ∉ (evaluate live).holdUps)) := by
  constructor
  · intro hdistinct
    rw [evaluateRestored_eq_picked, evaluate_eq_picked]
    exact ofList_perm (picked_perm (fun _ => .refl _) fun kind object hobject =>
      congrArg (!·) (isBack_anyName (hdistinct kind.name) hobject))
  · intro hdistinct
    rw [← List.isEmpty_iff]
    refine quiesced_evaluateRestored.trans (forall₃_congr fun kind object _ => ?_)
    rw [isBack_iff (hdistinct kind.name), evaluate_eq_picked, mem_ofList, mem_picked]
    constructor
    · rintro ⟨other, hother, hname, hfinished⟩
      refine ⟨⟨other, hother, hname⟩, ?_⟩
      rintro ⟨kind', hkind, third, hthird, hunfinished, hsame⟩
      obtain rfl := ManagedKind.name_injective hkind
      -- The object of that name in the report is the one that was found.
      obtain rfl := List.inj_on_of_nodup_map (hdistinct _) hthird hother (hsame.trans hname.symm)
      simp [hfinished] at hunfinished
    · rintro ⟨⟨other, hother, hname⟩, hnot⟩
      refine ⟨other, hother, hname, ?_⟩
      by_contra hunfinished
      exact hnot ⟨kind, rfl, other, hother, by simpa using hunfinished, hname⟩

/-- An object with a status. -/
def reporting (name : String) (status : Json) : Resource where
  metadata := { name := some name }
  fields := .ofList [("status", status)]

/-- Networks of which one is configured, one is not yet and one has a number for a state; a set of
machines under way; nothing of the control plane; objects of kinds without state and not managed. -/
def mixedInventory : Inventory where
  resources := .ofList [
    ("ControlPlane", []),
    ("IpSet", [reporting "pool" .null]),
    ("Network", [reporting "tenant" (.object [("currentState", .str "Configuring")]),
      reporting "external" (.object [("currentState", .int 5)]),
      reporting "ctlplane" (.object [("currentState", .str "Configured")])]),
    ("VmSet", [reporting "controller" (.object
      [("provisioningStatus", .object [("state", .str "Provisioning")])])]),
    ("Volume", [reporting "disk" .null])]

/-- The objects of the mixed inventory that are finished, from a time when they were not. -/
def earlierInventory : Inventory where
  resources := .ofList [
    ("IpSet", [reporting "pool" .null]),
    ("Network", [reporting "ctlplane" .null])]

theorem evaluate_mixedInventory :
    evaluate mixedInventory =
      ⟨[⟨"Network", "external"⟩, ⟨"Network", "tenant"⟩, ⟨"VmSet", "controller"⟩]⟩ := by
  have hpicked : (picked (fun kind object => !kind.isFinished object) mixedInventory.resources).Perm
      [⟨"Network", "external"⟩, ⟨"Network", "tenant"⟩, ⟨"VmSet", "controller"⟩] := by
    decide +kernel
  rw [evaluate_eq_picked, ofList_perm hpicked, Report.ofList,
    List.mergeSort_of_pairwise (by decide +kernel)]

/-- The mixed inventory is held up by what a bundle of it waits for, and a bundle of the earlier
inventory waits for nothing. -/
theorem mixedInventory_agrees :
    mixedInventory.Distinct ∧
      evaluateRestored (mixedInventory.toBundle .empty) mixedInventory = evaluate mixedInventory ∧
      (evaluate mixedInventory).quiesced = false ∧
      (evaluateRestored (earlierInventory.toBundle .empty) mixedInventory).holdUps = [] := by
  have hdistinct : mixedInventory.Distinct := by decide +kernel
  refine ⟨hdistinct, (evaluators_agree mixedInventory mixedInventory .empty).1 hdistinct,
    by rw [evaluate_mixedInventory]; rfl, ?_⟩
  refine ((evaluators_agree earlierInventory mixedInventory .empty).2 hdistinct).2 fun kind => ?_
  rw [evaluate_mixedInventory]
  cases kind <;> decide +kernel

/-! ## A report is exact, and the same in any order -/

theorem heldUp_eq_picked (inventory : Inventory) :
    inventory.heldUp =
      picked (fun kind object => !kind.isFinished object) inventory.resources := by
  refine List.flatMap_congr fun entry _ => ?_
  obtain ⟨kindName, objects⟩ := entry
  refine congrArg (List.map _) (List.filter_congr fun object _ => ?_)
  rw [Bool.eq_iff_iff, decide_eq_true_eq, Option.any_eq_true]
  constructor
  · rintro ⟨kind, rfl, hholds⟩
    exact ⟨kind, kind.ofName?_name, by simp [ManagedKind.isFinished_eq_false_iff.2 hholds]⟩
  · rintro ⟨kind, hkind, hunfinished⟩
    exact ⟨kind, ManagedKind.name_of_ofName? hkind,
      ManagedKind.isFinished_eq_false_iff.1 (by simpa using hunfinished)⟩

/-- A report is exact, and the same in whatever order objects are found. The report on an inventory
lists, in the order of bytes by kind and then by name, the objects that do not report a finished
state where their kind reports one, each as often as the inventory does, and nothing else. It is the
same for any other order within the kinds. So is the report on a bundle: for any other order of what
was saved, and also of what is live if that has distinct names. -/
theorem report_canonical (inventory : Inventory) :
    ((evaluate inventory).holdUps.Perm inventory.heldUp ∧
      (evaluate inventory).holdUps.Pairwise HoldUp.BytesLe ∧
      ∀ holdUp ∈ (evaluate inventory).holdUps,
        ∃ kind : ManagedKind, kind.name = holdUp.kind ∧ kind.hasState = true) ∧
    (∀ other : Inventory, Rearranged inventory.resources other.resources →
      evaluate other = evaluate inventory ∧ (evaluate other).text = (evaluate inventory).text) ∧
    (∀ content content' : Bundle.Content, Rearranged content.resources content'.resources →
      evaluateRestored content' inventory = evaluateRestored content inventory ∧
        (evaluateRestored content' inventory).text = (evaluateRestored content inventory).text) ∧
    (inventory.Distinct → ∀ other : Inventory, Rearranged inventory.resources other.resources →
      ∀ content : Bundle.Content,
        evaluateRestored content other = evaluateRestored content inventory ∧
          (evaluateRestored content other).text = (evaluateRestored content inventory).text) := by
  refine ⟨⟨?_, ?_, ?_⟩, ?_, ?_, ?_⟩
  · rw [evaluate_eq_picked, heldUp_eq_picked]
    exact List.mergeSort_perm _ _
  · rw [evaluate_eq_picked]
    exact (pairwise_ofList _).imp HoldUp.le_iff_bytesLe.1
  · intro holdUp hmem
    rw [evaluate_eq_picked, mem_ofList, mem_picked] at hmem
    obtain ⟨kind, hname, object, -, hunfinished, -⟩ := hmem
    obtain ⟨path, hpath, -⟩ :=
      ManagedKind.isFinished_eq_false_iff.1 (by simpa using hunfinished)
    exact ⟨kind, hname, ManagedKind.hasState_iff.2 ⟨path, hpath⟩⟩
  · intro other hother
    have hsame : evaluate other = evaluate inventory := by
      rw [evaluate_eq_picked, evaluate_eq_picked]
      exact (ofList_perm (picked_perm hother fun _ _ _ => rfl)).symm
    exact ⟨hsame, congrArg Report.text hsame⟩
  · intro content content' hcontent
    have hsame : evaluateRestored content' inventory = evaluateRestored content inventory := by
      rw [evaluateRestored_eq_picked, evaluateRestored_eq_picked]
      exact (ofList_perm (picked_perm hcontent fun _ _ _ => rfl)).symm
    exact ⟨hsame, congrArg Report.text hsame⟩
  · intro hdistinct other hother content
    have hsame : evaluateRestored content other = evaluateRestored content inventory := by
      rw [evaluateRestored_eq_picked, evaluateRestored_eq_picked]
      refine ofList_perm (picked_perm (fun _ => .refl _) fun kind object _ => congrArg (!·) ?_)
      have hlive : (inventory.objects kind.name).Perm (other.objects kind.name) :=
        hother kind.name
      -- Among distinct names it makes no difference which object of a name comes first.
      rw [Bool.eq_iff_iff, isBack_iff (hdistinct kind.name),
        isBack_iff ((hlive.map _).nodup_iff.1 (hdistinct kind.name))]
      simp only [hlive.mem_iff]
    exact ⟨hsame, congrArg Report.text hsame⟩

theorem rearranged_map_reverse (resources : Dict (List Resource)) :
    Rearranged resources (resources.map List.reverse) := by
  intro kindName
  rw [Dict.find?_map]
  cases resources.find? kindName with
  | none => exact .refl _
  | some objects => exact (List.reverse_perm objects).symm

/-- The mixed inventory, and what it is compared with, listed backwards. -/
theorem mixedInventory_canonical :
    let backwards : Inventory := { resources := mixedInventory.resources.map List.reverse }
    mixedInventory.Distinct ∧ backwards ≠ mixedInventory ∧
      (evaluate backwards).text = (evaluate mixedInventory).text ∧
      (evaluate mixedInventory).text =
        "[Network: external, Network: tenant, VmSet: controller]" ∧
      evaluateRestored (backwards.toBundle .empty) mixedInventory =
        evaluateRestored (mixedInventory.toBundle .empty) mixedInventory ∧
      evaluateRestored (mixedInventory.toBundle .empty) backwards =
        evaluateRestored (mixedInventory.toBundle .empty) mixedInventory := by
  intro backwards
  have hdistinct : mixedInventory.Distinct := by decide +kernel
  have hbackwards := rearranged_map_reverse mixedInventory.resources
  obtain ⟨-, hlive, hsaved, hboth⟩ := report_canonical mixedInventory
  exact ⟨hdistinct, by decide +kernel, (hlive backwards hbackwards).2,
    by rw [evaluate_mixedInventory]; decide +kernel,
    (hsaved (mixedInventory.toBundle .empty) (backwards.toBundle .empty) hbackwards).1,
    (hboth hdistinct backwards hbackwards (mixedInventory.toBundle .empty)).1⟩

end Quiescence

end NamespaceBackup
