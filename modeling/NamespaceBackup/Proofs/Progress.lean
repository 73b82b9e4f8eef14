import NamespaceBackup.Proofs.Ledger
import NamespaceBackup.Proofs.Questions

/-!
# Progress of a request

Whatever fails and however old the copies are that its passes work on, the stored versions of a
request follow the track of its mode, and each of them tells which way it took.

The body of every state is followed on its own: what it asks disturbs nothing, and what it writes
leads on. A body that fails leaves the pass an open copy, so that the error state may be entered
from it.

## Main definitions

* `Ledger.Kept`: what a body leaves behind

## Main results

* `Ledger.savePass_kept`, `Ledger.restorePass_kept`: the passes of both kinds
* `Ledger.reconcile_onTrack`: every pass, with its error path
* `Ledger.status_follows_track`: all stored versions of a request, after every run
-/

namespace NamespaceBackup.Ledger

open Activity (Asks Ensures)

variable {mode : Mode} {ledger : Ledger} {request : Request} {settings : Settings}

/-- What a body leaves behind: a ledger on its track, and an open copy if it fails. -/
def Kept (mode : Mode) {α : Type} : Except Failure α → Request → Ledger → Prop
  | .ok _, _, ledger => OnTrack mode ledger
  | .error _, request, ledger => AtWork mode request ledger

theorem Reaches.kept {state : State} {outcome : Except Failure Unit}
    (h : Reaches mode state outcome request ledger) : Kept mode outcome request ledger := by
  cases outcome with
  | ok => exact h.1
  | error failure => exact h

/-- A part that writes no status comes before the rest of a body. -/
theorem asks_bind_kept {α β : Type} {P : Query → Prop} {x : Saga.Pass α} {f : α → Saga.Pass β}
    (hx : Asks P x) (hP : ∀ request, ¬ P (.call (.updateStatus request)))
    (h : AtWork mode request ledger)
    (hf : ∀ value ledger, AtWork mode request ledger →
      Ensures terms (f value) request ledger (Kept mode)) :
    Ensures terms (x >>= f) request ledger (Kept mode) := by
  refine (asks_atWork hx hP h).bind (fun value request' ledger' hwork => ?_)
    fun failure request' ledger' hwork => ?_
  · obtain ⟨rfl, hwork⟩ := hwork
    exact hf value ledger' hwork
  · obtain ⟨rfl, hwork⟩ := hwork
    exact hwork

theorem ofExcept_bind_kept {α β : Type} {outcome : Except Failure α} {f : α → Saga.Pass β}
    (h : AtWork mode request ledger)
    (hf : ∀ value, Ensures terms (f value) request ledger (Kept mode)) :
    Ensures terms (ofExcept outcome >>= f) request ledger (Kept mode) := by
  cases outcome with
  | ok value => exact hf value
  | error failure => exact h

theorem collect_bind_kept {β : Type} {ns : String} {f : Inventory → Saga.Pass β}
    (h : AtWork mode request ledger)
    (hf : ∀ inventory ledger, AtWork mode request ledger →
      Ensures terms (f inventory) request ledger (Kept mode)) :
    Ensures terms (Saga.collect settings ns >>= f) request ledger (Kept mode) :=
  asks_bind_kept (Inventory.collect_asks ns _) (fun _ hlisting => nomatch hlisting) h hf

theorem transition_kept {state : State} (h : AtWork mode request ledger)
    (hleads : mode.Leads request.state state) (hne : state ≠ .empty)
    (hgoal : ¬ Request.Status.IsGoal state) (message : String) :
    Ensures terms (Saga.transition state message) request ledger (Kept mode) :=
  (transition_reaches h hleads hne hgoal message).mono fun _ _ _ => Reaches.kept

/-- A write that keeps the state and the history, as one that records images does. -/
theorem writeStatus_same_kept {status : Request.Status} (h : AtWork mode request ledger)
    (hne : request.state ≠ .empty) (hstate : status.state = request.state)
    (hconditions : status.conditions = request.currentStatus.conditions)
    (hcompleted : status.completionTimestamp = request.currentStatus.completionTimestamp)
    (message : String) :
    Ensures terms (Saga.writeStatus status message) request ledger (Kept mode) := by
  have hgoal : status.completionTimestamp.isSome = true ↔
      Request.Status.IsGoal status.state := by
    rw [hcompleted, hstate]
    exact h.follows.completed
  exact (writeStatus_reaches h (.inl hstate.symm) (hstate ▸ hne) hconditions hgoal message).mono
    fun _ _ _ => Reaches.kept

/-- A write that enters the goal of the track, with the time of completion. -/
theorem writeStatus_goal_kept {status : Request.Status} (h : AtWork mode request ledger)
    (hleads : mode.Leads request.state status.state) (hgoal : Request.Status.IsGoal status.state)
    (hconditions : status.conditions = request.currentStatus.conditions)
    (hcompleted : status.completionTimestamp.isSome = true) (message : String) :
    Ensures terms (Saga.writeStatus status message) request ledger (Kept mode) := by
  have hne : status.state ≠ .empty := by
    rcases hgoal with hgoal | hgoal <;> rw [hgoal] <;> decide
  exact (writeStatus_reaches h hleads hne hconditions (iff_of_true hcompleted hgoal)
    message).mono fun _ _ _ => Reaches.kept

/-! ## Saving -/

theorem quiesce_kept (h : AtWork .save request ledger) (hstate : request.state = .quiescing) :
    Ensures terms (Saga.quiesce settings) request ledger (Kept .save) := by
  refine ofExcept_bind_kept h fun ns => collect_bind_kept h fun inventory ledger h => ?_
  by_cases hquiesced : (Quiescence.evaluate inventory).quiesced = true
  · rw [if_pos hquiesced]
    have hleads : Mode.Leads .save request.state .saving := by
      rw [hstate]
      decide
    exact transition_kept h hleads (by decide) (by decide) _
  · rw [if_neg hquiesced]
    exact transition_kept h (.inl hstate) (by decide) (by decide) _

theorem finishSave_kept {ns name marker : String} {inventory : Inventory} {status : Request.Status}
    (h : AtWork .save request ledger) (hstate : request.state = .saving)
    (hconditions : status.conditions = request.currentStatus.conditions) :
    Ensures terms (Saga.finishSave settings ns name marker inventory status) request ledger
      (Kept .save) := by
  rw [Saga.finishSave]
  refine asks_bind_kept (Saga.ensureBundle_asks settings ns name marker inventory
    status.snapshotNames) (by rintro _ ⟨⟩) h fun bundleName ledger h => ?_
  refine asks_bind_kept (Asks.now (P := (· = .clock)) rfl) (fun _ hclock => nomatch hclock) h
    fun now ledger h => ?_
  have hleads : Mode.Leads .save request.state .saved := by
    rw [hstate]
    decide
  refine writeStatus_goal_kept h ?_ ?_ ?_ ?_ _
  · exact hleads
  · exact .inl rfl
  · exact hconditions
  · rfl

theorem save_kept (h : AtWork .save request ledger) (hstate : request.state = .saving) :
    Ensures terms (Saga.save settings) request ledger (Kept .save) := by
  rw [Saga.save, Activity.ensures_bind, Activity.ensures_get, Activity.then_ok]
  refine ofExcept_bind_kept h fun ns => ofExcept_bind_kept h fun marker => ?_
  refine collect_bind_kept h fun inventory ledger h => ?_
  by_cases himages : request.spec.includeImages = true
  · rw [if_pos himages]
    refine asks_bind_kept (Imaging.within_runPass_asks _ _ _ _ _ _)
      (fun _ => Imaging.not_isImaging_updateStatus) h fun ⟨pending, recorded⟩ ledger h => ?_
    dsimp only
    by_cases hpending : pending.isEmpty = true
    · rw [if_pos hpending]
      exact finishSave_kept h hstate rfl
    · rw [if_neg hpending]
      have hne : request.state ≠ .empty := by
        rw [hstate]
        decide
      refine writeStatus_same_kept h hne ?_ ?_ ?_ _ <;> rfl
  · rw [if_neg himages]
    exact finishSave_kept h hstate rfl

/-- A step to a state in which there is still something to do comes before the rest of a pass. -/
theorem reaches_bind_kept {β : Type} {step : Saga.Pass Unit} {f : Unit → Saga.Pass β}
    {state : State} (hstep : Ensures terms step request ledger (Reaches mode state))
    (hopen : state.isTerminal = false)
    (hf : ∀ request ledger, AtWork mode request ledger →
      Ensures terms (f ()) request ledger (Kept mode)) :
    Ensures terms (step >>= f) request ledger (Kept mode) := by
  refine hstep.bind (fun _ request' ledger' hreaches => ?_) fun _ _ _ hwork => hwork
  obtain ⟨honTrack, hheld, hstate⟩ := hreaches
  exact hf request' ledger' ⟨honTrack, hheld, hstate ▸ hopen⟩

theorem savePass_kept (h : AtWork .save request ledger) :
    Ensures terms (Saga.savePass settings) request ledger (Kept .save) := by
  have hphase : ∀ request ledger, AtWork .save request ledger →
      Ensures terms (Saga.savePhase settings) request ledger (Kept .save) :=
    fun request ledger h =>
      Saga.ensures_savePhase (quiesce_kept h) (save_kept h) fun _ _ _ => h
  rw [Saga.ensures_savePass]
  split
  case isTrue hempty =>
    have hleads : Mode.Leads .save request.state .quiescing := by
      rw [hempty]
      decide
    exact reaches_bind_kept (transition_reaches h hleads (by decide) (by decide) _) rfl hphase
  case isFalse => exact hphase request ledger h

/-! ## Restoring -/

theorem clean_kept {ns : String} (h : AtWork mode request ledger)
    (hstate : request.state = .cleaning) :
    Ensures terms (Saga.clean settings ns) request ledger (Kept mode) := by
  -- Only a clean restore is ever in this state.
  have hmode : mode = .cleanRestore := by
    have htrack := h.follows.mem_track
    rw [show request.currentStatus.state = .cleaning from hstate] at htrack
    revert htrack
    cases mode <;> decide
  refine collect_bind_kept h fun inventory ledger h => ?_
  refine asks_bind_kept (Inventory.clear_asks ns inventory) (fun _ hdeletion => nomatch hdeletion) h
    fun cleared ledger h => ?_
  cases cleared with
  | true =>
    have hleads : mode.Leads request.state .loading := by
      rw [hstate, hmode]
      decide
    exact transition_kept h hleads (by decide) (by decide) _
  | false => exact transition_kept h (.inl hstate) (by decide) (by decide) _

theorem finishLoad_kept {bundle : Bundle} {status : Request.Status} (h : AtWork mode request ledger)
    (hmode : mode.isRestore = true) (hstate : request.state = .loading)
    (hconditions : status.conditions = request.currentStatus.conditions)
    (hcompleted : status.completionTimestamp = request.currentStatus.completionTimestamp) :
    Ensures terms (Saga.finishLoad bundle status) request ledger (Kept mode) := by
  have hleads : mode.Leads request.state .reconciling := by
    rw [hstate]
    revert hmode
    cases mode <;> decide
  have hgoal : ¬ status.completionTimestamp.isSome = true := hcompleted ▸ h.not_completed
  refine (writeStatus_reaches h ?_ ?_ ?_ ?_ _).mono fun _ _ _ => Reaches.kept
  · exact hleads
  · exact State.noConfusion
  · exact hconditions
  · refine iff_of_false hgoal ?_
    rintro (h | h) <;> cases h

theorem load_kept {ns : String} {bundle : Bundle} (h : AtWork mode request ledger)
    (hmode : mode.isRestore = true) (hstate : request.state = .loading) :
    Ensures terms (Saga.load settings ns bundle) request ledger (Kept mode) := by
  rw [Saga.load, Activity.ensures_bind, Activity.ensures_get, Activity.then_ok]
  refine asks_bind_kept (Saga.loadObjects_asks ns _ bundle.content)
    (fun _ hloading => nomatch hloading) h fun _ ledger h => ?_
  by_cases himages : request.spec.includeImages = true
  · rw [if_pos himages]
    refine ofExcept_bind_kept h fun marker => ?_
    refine asks_bind_kept (Imaging.within_runPass_asks _ _ _ _ _ _)
      (fun _ => Imaging.not_isImaging_updateStatus) h fun ⟨pending, recorded⟩ ledger h => ?_
    dsimp only
    by_cases hpending : pending.isEmpty = true
    · rw [if_pos hpending]
      exact finishLoad_kept h hmode hstate rfl rfl
    · rw [if_neg hpending]
      have hne : request.state ≠ .empty := by
        rw [hstate]
        decide
      refine writeStatus_same_kept h hne ?_ ?_ ?_ _ <;> rfl
  · rw [if_neg himages]
    exact finishLoad_kept h hmode hstate rfl rfl

theorem awaitRestored_kept {ns : String} {bundle : Bundle} (h : AtWork mode request ledger)
    (hmode : mode.isRestore = true) (hstate : request.state = .reconciling) :
    Ensures terms (Saga.awaitRestored settings ns bundle) request ledger (Kept mode) := by
  refine collect_bind_kept h fun inventory ledger h => ?_
  by_cases hquiesced : (Quiescence.evaluateRestored bundle.content inventory).quiesced = true
  · rw [if_pos hquiesced, Activity.ensures_bind, Activity.ensures_get, Activity.then_ok]
    refine asks_bind_kept (Asks.now (P := (· = .clock)) rfl) (fun _ hclock => nomatch hclock) h
      fun now ledger h => ?_
    have hleads : mode.Leads request.state .restored := by
      rw [hstate]
      revert hmode
      cases mode <;> decide
    refine writeStatus_goal_kept h ?_ ?_ ?_ ?_ _
    · exact hleads
    · exact .inr rfl
    · rfl
    · rfl
  · rw [if_neg hquiesced]
    exact transition_kept h (.inl hstate) (by decide) (by decide) _

theorem restorePass_kept (h : AtWork mode request ledger) (hmode : mode.isRestore = true) :
    Ensures terms (Saga.restorePass settings) request ledger (Kept mode) := by
  rw [Saga.ensures_restorePass]
  refine ofExcept_bind_kept h fun ns => ?_
  refine asks_bind_kept (Saga.sourceBundle_asks ns) (by rintro _ ⟨_, ⟨⟩⟩) h
    fun bundle ledger h => ?_
  have hphase : ∀ request ledger, AtWork mode request ledger →
      Ensures terms (Saga.restorePhase settings ns bundle) request ledger (Kept mode) :=
    fun request ledger h =>
      Saga.ensures_restorePhase (clean_kept h) (load_kept h hmode) (awaitRestored_kept h hmode)
        fun _ _ _ _ => h
  rw [Saga.ensures_restoreFrom]
  split
  case isTrue hempty =>
    split
    case isTrue hclean =>
      have hleads : mode.Leads request.state .cleaning := by
        rw [hempty, ← h.mode_eq, hclean]
        decide
      exact reaches_bind_kept (transition_reaches h hleads (by decide) (by decide) _) rfl hphase
    case isFalse hclean =>
      -- A restore that is not a clean one has no other state to go to first.
      have hleads : mode.Leads request.state .loading := by
        rw [hempty]
        rw [h.mode_eq] at hclean
        revert hmode hclean
        cases mode <;> decide
      exact reaches_bind_kept (transition_reaches h hleads (by decide) (by decide) _) rfl hphase
  case isFalse => exact hphase request ledger h

/-! ## Whole passes and runs -/

theorem pass_kept (h : AtWork mode request ledger) :
    Ensures terms (Saga.pass settings mode) request ledger (Kept mode) := by
  cases mode with
  | save => exact savePass_kept h
  | restore => exact restorePass_kept h rfl
  | cleanRestore => exact restorePass_kept h rfl

/-- A pass that fails for good enters the error state, or leaves the request where it is if that
cannot be written. -/
theorem transition_errorState_onTrack (h : AtWork mode request ledger) (failure : Failure) :
    Ensures terms (Saga.transition mode.errorState failure.message) request ledger
      fun _ _ ledger => OnTrack mode ledger := by
  have herror : ¬ Request.Status.IsGoal mode.errorState := by cases mode <;> decide
  have hwrite := transition_reaches h (Mode.leads_errorState h.isOpen) mode.errorState_ne_empty
    herror failure.message
  refine hwrite.mono fun outcome request ledger hreaches => ?_
  cases outcome with
  | ok => exact hreaches.1
  | error => exact hreaches.onTrack

/-- A pass keeps a ledger on its track, whichever version it is given and whatever fails. -/
theorem reconcile_onTrack (h : OnTrack mode ledger) (hheld : request ∈ ledger) :
    Ensures terms (Saga.reconcile settings) request ledger
      fun _ _ ledger => OnTrack mode ledger := by
  obtain rfl : request.spec.mode = mode := (h.follows request hheld).1
  refine Saga.ensures_reconcile (fun _ => h) fun hopen => ?_
  have hwork : AtWork request.spec.mode request ledger := ⟨h, hheld, hopen⟩
  refine (pass_kept hwork).mono fun outcome request' ledger' hkept => ?_
  cases outcome with
  | ok => exact hkept
  | error failure =>
    exact ⟨fun _ => hkept.onTrack, fun _ => transition_errorState_onTrack hkept failure⟩

/-- The stored versions of a request that starts without status, after any passes over any of them:
each leads to the next along the track of the mode. The conditions of a version are the states that
were entered, in order and each once; the one of the present state is the only one that is current;
and there is a time of completion exactly at the goal. -/
theorem status_follows_track {first : Request} {transcripts : List (List Exchange)}
    (hstatus : first.status = none)
    (hrun : Saga.Runs surroundings settings [first] transcripts ledger) :
    ledger.IsChain (fun newer older => Precedes first.spec.mode older newer) ∧
      ∀ request ∈ ledger,
        request.currentStatus.Follows first.spec.mode ∧
        Conditions.WellFormed request.currentStatus.conditions ∧
        (request.state ≠ .empty →
          ∃ c, Conditions.current? request.currentStatus.conditions = some c ∧
            c.typeName = request.state.name) := by
  have honTrack : OnTrack first.spec.mode ledger := by
    refine hrun.invariant (OnTrack first.spec.mode) (onTrack_singleton rfl hstatus) ?_ ?_
    · exact fun _ _ h hedits => (h.edits hedits).1
    · exact fun _ _ h hheld => reconcile_onTrack h hheld
  refine ⟨honTrack.chain, fun request hrequest => ?_⟩
  have hfollows := (honTrack.follows request hrequest).2
  exact ⟨hfollows, hfollows.wellFormed, hfollows.current⟩

/-- A request to save that was stored without a namespace. -/
def unplaced : Request where
  metadata := { name := some "save", resourceVersion := some "1" }

/-- The versions after one pass over it in a cluster that stores nothing but the request. -/
def unplacedLedger : Ledger :=
  ((Saga.reconcile {} unplaced).run respond [unplaced]).2

/-- Its first pass writes the status twice, since it starts before it finds out. -/
theorem unplaced_follows_track :
    unplacedLedger.map (·.state) = [.saveError, .quiescing, .empty] ∧
      unplacedLedger.IsChain (fun newer older => Precedes .save older newer) ∧
      ∀ request ∈ unplacedLedger,
        request.currentStatus.Follows .save ∧
        Conditions.WellFormed request.currentStatus.conditions ∧
        (request.state ≠ .empty →
          ∃ c, Conditions.current? request.currentStatus.conditions = some c ∧
            c.typeName = request.state.name) := by
  have hrun : Saga.Runs surroundings {} [unplaced] _ unplacedLedger :=
    Saga.runs_transcript answers_respond .none (by simp [surroundings])
  have hstatus : unplaced.status = none := rfl
  exact ⟨by decide, status_follows_track hstatus hrun⟩

end NamespaceBackup.Ledger
