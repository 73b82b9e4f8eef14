import Mathlib.Data.List.Basic
import NamespaceBackup.Quiescence

/-!
# What a report without hold-ups tells

A report is made from lists of objects kind by kind. If nothing holds up the namespace, every object
in the lists has been looked at and was found finished.

## Main results

* `Quiescence.ofList_eq_of_perm`: reports of the same hold-ups are the same
* `ManagedKind.isFinished_iff`: an object is finished if it reports a finished state
* `Quiescence.quiesced_evaluate`: nothing is held up if all objects are finished
* `Quiescence.quiesced_evaluateRestored`: nothing is held up if all objects are back
-/

namespace NamespaceBackup

/-- An object is finished if it reports a finished state, or if its kind reports none at all. -/
theorem ManagedKind.isFinished_iff {kind : ManagedKind} {object : Resource} :
    kind.isFinished object = true ↔
      (kind.hasState = true →
        ∃ state ∈ kind.finishedStates, kind.currentState object = some state) := by
  by_cases hstate : kind.hasState = true
  · simp only [isFinished, hstate, if_true, Option.any_eq_true_iff_get, List.contains_iff_mem,
      forall_const]
    constructor
    · rintro ⟨hsome, hmem⟩
      exact ⟨_, hmem, (Option.some_get hsome).symm⟩
    · rintro ⟨state, hmem, hreports⟩
      exact ⟨by simp [hreports], by simpa [hreports] using hmem⟩
  · simp [isFinished, hstate]

namespace Quiescence

/-- A report has no hold-up if none was found. -/
theorem quiesced_ofList {holdUps : List HoldUp} :
    (Report.ofList holdUps).quiesced = true ↔ holdUps = [] := by
  rw [Report.quiesced, Report.ofList, List.isEmpty_iff, ← List.length_eq_zero_iff,
    List.length_mergeSort, List.length_eq_zero_iff]

/-- A report lists hold-ups by kind, then by name. -/
theorem pairwise_ofList :
    ∀ holdUps, (Report.ofList holdUps).holdUps.Pairwise fun a b => a.le b = true :=
  List.pairwise_mergeSort (fun _ _ _ => HoldUp.le_trans) HoldUp.le_total

/-- A report lists hold-ups in an order of its own, so it tells which ones there are and how often,
but not in which order they were found. -/
theorem ofList_eq_of_perm {found found' : List HoldUp}
    (h : (Report.ofList found).holdUps.Perm (Report.ofList found').holdUps) :
    Report.ofList found = Report.ofList found' := by
  have hsame : (Report.ofList found).holdUps = (Report.ofList found').holdUps :=
    h.eq_of_pairwise (fun _ _ _ _ => HoldUp.le_antisymm) (pairwise_ofList found)
      (pairwise_ofList found')
  exact congrArg Report.mk hsame

/-- Nothing is held up in a namespace if all objects are finished. -/
theorem quiesced_evaluate {inventory : Inventory} :
    (evaluate inventory).quiesced = true ↔
      ∀ kind : ManagedKind, ∀ object ∈ inventory.objects kind.name,
        kind.isFinished object = true := by
  rw [evaluate, quiesced_ofList, List.flatMap_eq_nil_iff]
  constructor
  · intro h kind object hobject
    rw [Inventory.objects] at hobject
    cases hfind : inventory.resources.find? kind.name with
    | none => simp [hfind] at hobject
    | some objects =>
      have hpopulated : (kind, objects) ∈ inventory.populatedKinds :=
        List.mem_filterMap.2 ⟨kind, ManagedKind.mem_all kind, by simp [hfind]⟩
      have hnone := h _ hpopulated
      rw [hfind, Option.getD_some] at hobject
      simp only [List.map_eq_nil_iff, List.filter_eq_nil_iff] at hnone
      simpa using hnone object hobject
  · intro h entry hpopulated
    obtain ⟨kind, -, hentry⟩ := List.mem_filterMap.1 hpopulated
    obtain ⟨objects, hfind, rfl⟩ := Option.map_eq_some_iff.1 hentry
    simp only [List.map_eq_nil_iff, List.filter_eq_nil_iff]
    intro object hobject
    simpa using h kind object (by rwa [Inventory.objects, hfind, Option.getD_some])

/-- Nothing is held up after a restore if all objects of the bundle are back. -/
theorem quiesced_evaluateRestored {content : Bundle.Content} {inventory : Inventory} :
    (evaluateRestored content inventory).quiesced = true ↔
      ∀ kind : ManagedKind, ∀ saved ∈ content.objects kind.name,
        isBack kind (inventory.objects kind.name) saved.anyName = true := by
  rw [evaluateRestored, quiesced_ofList, List.flatMap_eq_nil_iff]
  constructor
  · intro h kind saved hsaved
    rw [Bundle.Content.objects] at hsaved
    cases hfind : content.resources.find? kind.name with
    | none => simp [hfind] at hsaved
    | some objects =>
      have hnone := h _ (Dict.mem_entries_iff.2 hfind)
      rw [hfind, Option.getD_some] at hsaved
      simp only [ManagedKind.ofName?_name, List.map_eq_nil_iff, List.filter_eq_nil_iff] at hnone
      simpa using hnone saved hsaved
  · rintro h ⟨kindName, objects⟩ hentry
    cases hkind : ManagedKind.ofName? kindName with
    | none => simp [hkind]
    | some kind =>
      obtain rfl : kind.name = kindName := by simpa using List.find?_some hkind
      simp only [hkind, List.map_eq_nil_iff, List.filter_eq_nil_iff]
      intro saved hsaved
      have hback := h kind saved (by
        rwa [Bundle.Content.objects, Dict.mem_entries_iff.1 hentry, Option.getD_some])
      simpa using hback

/-- An object is back if the live object of its name is finished. -/
theorem exists_of_isBack {kind : ManagedKind} {live : List Resource} {name : String}
    (h : isBack kind live name = true) :
    ∃ object ∈ live, object.anyName = name ∧ kind.isFinished object = true := by
  rw [isBack, Option.any_eq_true_iff_get] at h
  obtain ⟨hsome, hfinished⟩ := h
  have hfound := (Option.some_get hsome).symm
  exact ⟨_, List.mem_of_find?_eq_some hfound, by simpa using List.find?_some hfound, hfinished⟩

/-- An object is back if some live object has its name and all live objects are finished. -/
theorem isBack_of_forall {kind : ManagedKind} {live : List Resource} {name : String}
    (hname : ∃ object ∈ live, object.anyName = name)
    (hfinished : ∀ object ∈ live, kind.isFinished object = true) : isBack kind live name = true := by
  rw [isBack]
  cases hfind : live.find? (·.anyName = name) with
  | none =>
    obtain ⟨object, hobject, heq⟩ := hname
    exact absurd (List.find?_eq_none.1 hfind object hobject) (by simp [heq])
  | some object => exact hfinished object (List.mem_of_find?_eq_some hfind)

end Quiescence

end NamespaceBackup
