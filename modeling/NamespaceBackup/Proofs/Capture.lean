import NamespaceBackup.Proofs.Contents
import NamespaceBackup.Proofs.Runs

/-!
# What a save captures

A bundle that a save makes has what the pass that makes it has collected, and every list of that
was in the namespace at some moment of the pass, whatever others write in the meantime and however
often calls fail.

## Main definitions

* `Cluster.Truthful`: an answer is right, unless the call fails
* `Saga.saving`: the surroundings of a save
* `Bundle.Captures`: a bundle has an inventory that was collected

## Main results

* `Saga.captures_of_asked`: every bundle of a save has an inventory that was collected
-/

namespace NamespaceBackup

/-- The answer to a call is right, unless the call fails. -/
def Cluster.Truthful (cluster : Cluster) : Exchange → Prop
  | ⟨.clock, _⟩ => True
  | ⟨.call call, answer⟩ => answer = (cluster.perform call).1 ∨ ∃ failure, answer = .error failure

/-- A bundle has an inventory that was collected from its namespace while `during` was true of the
cluster. -/
def Bundle.Captures (during : Cluster → Prop) (ns selector : String) (bundle : Bundle) : Prop :=
  ∃ (inventory : Inventory) (names : Dict String),
    inventory.CollectedWhile during ns selector ∧ bundle.content = inventory.toBundle names

namespace Saga

open Activity (Ensures Safe)

/-- The surroundings of a save: whatever others write at any moment keeps `during` true of the
cluster, and what is answered is right or a failure. -/
def saving (during : Cluster → Prop) : Surroundings Cluster where
  answers cluster exchange _ := during cluster ∧ cluster.Truthful exchange
  gives _ request := request.spec.mode = .save
  between _ _ := True

/-- A bundle is only made of what was collected. -/
def MakesCaptures (during : Cluster → Prop) (selector : String) : Query → Prop
  | .call (.createBundle ns bundle) => bundle.Captures during ns selector
  | _ => True

/-- The terms of a save that makes bundles only of what was collected. -/
abbrev capturing (during : Cluster → Prop) (selector : String) :
    Terms Query Query.Answer (Cluster × List Exchange) :=
  ⟨fun _ question => MakesCaptures during selector question, (saving during).answers.recorded⟩

variable {during : Cluster → Prop} {settings : Settings}

section Safe

variable {selector : String}

theorem writeStatus_capturing (status : Request.Status) (message : String) :
    Safe (capturing during selector) (writeStatus status message) :=
  writeStatus_safe (fun _ => trivial) (fun _ _ => trivial) status message

theorem transition_capturing (state : State) (message : String) :
    Safe (capturing during selector) (transition state message) :=
  transition_safe (fun _ => trivial) (fun _ _ => trivial) state message

end Safe

/-- What is collected was in the namespace. -/
theorem collect_bind_safe {α : Type} {ns : String} {f : Inventory → Pass α}
    (hf : ∀ inventory, inventory.CollectedWhile during ns settings.managedSelector →
      Safe (capturing during settings.managedSelector) (f inventory)) :
    Safe (capturing during settings.managedSelector) (collect settings ns >>= f) := by
  intro request w
  have hlisted : Inventory.Listed (capturing during settings.managedSelector) ns
      settings.managedSelector (fun _ => True)
      (fun kind objects => ∃ cluster, during cluster ∧
        objects = ((cluster.space ns).ofKind kind.name).values)
      (fun configMaps => ∃ cluster, during cluster ∧ configMaps =
        ((cluster.space ns).configMaps.filter
          (Selector.selects settings.managedSelector ·.metadata)).values)
      (fun secrets => ∃ cluster, during cluster ∧ secrets =
        ((cluster.space ns).secrets.filter
          (Selector.selects settings.managedSelector ·.metadata)).values) := by
    refine ⟨?_, fun _ _ _ _ _ _ => trivial, ?_, ?_, ?_⟩
    · rintro _ _ - (_ | _ | _) <;> trivial
    -- An answer that is no failure is what the namespace held when it was given.
    · rintro w kind objects v - ⟨⟨hduring, hobjects | ⟨failure, ⟨⟩⟩⟩, -⟩
      exact ⟨w.1, hduring, Except.ok.inj hobjects⟩
    · rintro w configMaps v - ⟨⟨hduring, hconfigMaps | ⟨failure, ⟨⟩⟩⟩, -⟩
      exact ⟨w.1, hduring, by rw [Dict.values_filter]; exact Except.ok.inj hconfigMaps⟩
    · rintro w secrets v - ⟨⟨hduring, hsecrets | ⟨failure, ⟨⟩⟩⟩, -⟩
      exact ⟨w.1, hduring, by rw [Dict.values_filter]; exact Except.ok.inj hsecrets⟩
  refine (Inventory.collect_ensures hlisted trivial).bind ?_ fun _ _ _ _ => trivial
  rintro inventory request v ⟨-, -, lists, cs, ss, hlists, hcs, hss, rfl⟩
  refine hf _ ⟨fun kind => ?_, hcs, hss, ?_⟩ request v
  · rw [Inventory.objects_gather]
    exact hlists kind
  · simp only [Inventory.objects_gather]
    rfl

theorem finishSave_safe {ns name marker : String} {inventory : Inventory}
    (h : inventory.CollectedWhile during ns settings.managedSelector) (status : Request.Status) :
    Safe (capturing during settings.managedSelector)
      (finishSave settings ns name marker inventory status) := by
  refine Safe.bind (.of_asks (ensureBundle_asks settings ns name marker inventory
    status.snapshotNames) ?_) fun bundleName => ?_
  · -- A bundle that is found is left as it is; one that is made has what was collected.
    rintro _ _ (_ | _ | seconds)
    · trivial
    · trivial
    · exact ⟨inventory, status.snapshotNames, h, rfl⟩
  · exact Safe.bind (.of_asks (.now trivial) fun _ _ h => h) fun now => writeStatus_capturing _ _

theorem takeImages_safe (ns name marker : String) (inventory : Inventory)
    (recorded : Dict String) :
    Safe (capturing during settings.managedSelector)
      (takeImages settings ns name marker inventory recorded) := by
  -- To handle machines makes no bundle.
  refine .of_asks (Imaging.within_runPass_asks _ _ _ _ _ _) fun w question hquestion => ?_
  rcases hquestion with _ | hhandling
  · trivial
  · cases hhandling <;> trivial

/-- Every bundle that is made has what was collected in the same pass. -/
theorem save_safe : Safe (capturing during settings.managedSelector) (save settings) := by
  intro request w
  rw [save, Activity.ensures_bind, Activity.ensures_get, Activity.then_ok]
  refine Safe.ofExcept_bind (fun ns _ => Safe.ofExcept_bind fun marker _ => ?_) request w
  refine collect_bind_safe fun inventory hcollected => ?_
  by_cases himages : request.spec.includeImages = true
  · rw [if_pos himages]
    refine Safe.bind (takeImages_safe _ _ _ _ _) fun (pending, recorded) => ?_
    by_cases hpending : pending.isEmpty = true
    · simp only [if_pos hpending]
      exact finishSave_safe hcollected _
    · simp only [if_neg hpending]
      exact writeStatus_capturing _ _
  · rw [if_neg himages]
    exact finishSave_safe hcollected _

theorem quiesce_safe : Safe (capturing during settings.managedSelector) (quiesce settings) := by
  intro request w
  rw [quiesce, Activity.ensures_bind, Activity.ensures_get, Activity.then_ok]
  refine Safe.ofExcept_bind (fun ns _ => collect_bind_safe fun inventory _ => ?_) request w
  by_cases hquiesced : (Quiescence.evaluate inventory).quiesced = true
  · rw [if_pos hquiesced]
    exact transition_capturing _ _
  · rw [if_neg hquiesced]
    exact transition_capturing _ _

theorem savePass_safe : Safe (capturing during settings.managedSelector) (savePass settings) := by
  have hphase : Safe (capturing during settings.managedSelector) (savePhase settings) :=
    fun request w => ensures_savePhase (fun _ => quiesce_safe request w)
      (fun _ => save_safe request w) fun _ _ _ => trivial
  intro request w
  rw [ensures_savePass]
  split
  case isTrue => exact Safe.bind (transition_capturing _ _) (fun _ => hphase) request w
  case isFalse => exact hphase request w

theorem reconcile_safe {request : Request} (hmode : request.spec.mode = .save)
    (w : Cluster × List Exchange) :
    Ensures (capturing during settings.managedSelector) (reconcile settings) request w
      fun _ _ _ => True := by
  refine ensures_reconcile (fun _ => trivial) fun _ => ?_
  rw [hmode]
  refine (savePass_safe request w).mono fun outcome request' v _ => ?_
  cases outcome with
  | ok => trivial
  | error failure =>
    exact ⟨fun _ => trivial, fun _ => transition_capturing _ _ request' v⟩

/-- Every bundle of a save has an inventory that was collected. -/
theorem captures_of_asked {before after : Cluster} {transcripts : List (List Exchange)}
    (h : Runs (saving during) settings before transcripts after) {earlier sofar : List Exchange}
    {ns : String} {bundle : Bundle}
    (hasked : Asked transcripts earlier sofar (.call (.createBundle ns bundle))) :
    bundle.Captures during ns settings.managedSelector := by
  obtain ⟨_, hcaptures⟩ := h.asked (fun _ _ => True)
    (fun _ _ question => MakesCaptures during settings.managedSelector question) trivial
    (fun _ _ _ _ _ => trivial)
    (fun _ w request _ hmode => reconcile_safe hmode (w, [])) hasked
  exact hcaptures

end Saga

end NamespaceBackup
