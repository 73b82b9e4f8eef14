import NamespaceBackup.Proofs.Swapping
import NamespaceBackup.Proofs.Versions

/-!
# What a pass leaves behind

Whatever a pass has written before it fails stays written, and nothing else of its progress is
kept. A failure that a later pass can get past is not recorded at all. Any other failure is handed
on and recorded, by the error state of the mode and the wording of the failure, on top of what was
written last; if that cannot be recorded, the request is left as it was.

## Main definitions

* `Saga.GivenUp`: a status in which a failure is recorded
* `Saga.Aftermath`: what a pass leaves behind, by its work and its result

## Main results

* `Saga.aftermath_of_yields`: a pass over the stored request leaves nothing else behind
-/

namespace NamespaceBackup

theorem Mode.isTerminal_errorState (mode : Mode) : mode.errorState.isTerminal = true := by
  cases mode <;> rfl

namespace Saga

open Dialogue (Yields)
open Swapping (around nobody)

/-- A status that was given up for a failure: it is in the error state, whose condition is the
current one and has the wording of the failure. All else is as before. -/
structure GivenUp (mode : Mode) (failure : Failure) (before after : Request.Status) : Prop where
  state : after.state = mode.errorState
  snapshotNames : after.snapshotNames = before.snapshotNames
  completionTimestamp : after.completionTimestamp = before.completionTimestamp
  conditions : ∃ now, after.conditions = Conditions.promote now mode.errorState.name
    mode.errorState.name failure.message before.conditions
  current : ∃ c, Conditions.current? after.conditions = some c ∧
    c.typeName = mode.errorState.name ∧ c.message = some failure.message

/-- What a pass leaves behind: the stored request, by all that was exchanged and the result. -/
inductive Aftermath (settings : Settings) (given : Request) :
    List Exchange → Except Failure Action → Request → Prop
  /-- There was nothing to do. -/
  | idle (hend : given.state.isTerminal = true) :
    Aftermath settings given [] (.ok .awaitChange) given
  /-- The work succeeded. -/
  | worked {work : List Exchange} {copy stored : Request} (hopen : given.state.isTerminal = false)
    (hwork : Yields (pass settings given.spec.mode given) work (.ok (), copy))
    (hstored : stored.status = (lastWritten given work).status) :
    Aftermath settings given work
      (.ok (if stored.state.isTerminal then .awaitChange else .requeue settings.requeueSeconds))
      stored
  /-- The work failed in a way that a later pass can get past, which is not recorded. -/
  | retried {work : List Exchange} {copy stored : Request} {failure : Failure}
    (hopen : given.state.isTerminal = false)
    (hwork : Yields (pass settings given.spec.mode given) work (.error failure, copy))
    (htransient : failure.isTransient = true)
    (hstored : stored.status = (lastWritten given work).status)
    (hstate : stored.state.isTerminal = false) :
    Aftermath settings given work (.ok (.requeue settings.requeueSeconds)) stored
  /-- The work failed for good, which is recorded. -/
  | recorded {work : List Exchange} {copy written stored : Request} {failure : Failure}
    {now : Instant} (hopen : given.state.isTerminal = false)
    (hwork : Yields (pass settings given.spec.mode given) work (.error failure, copy))
    (hfatal : failure.isTransient = false) (hstored : stored.status = written.status)
    (hgivenUp : GivenUp given.spec.mode failure (lastWritten given work).currentStatus
      stored.currentStatus) :
    Aftermath settings given
      (work ++ [⟨.clock, now⟩, ⟨.call (.updateStatus written),
        (.ok stored : Except Failure Request)⟩]) (.error failure) stored
  /-- The work failed for good, but that could not be recorded. -/
  | unrecorded {work : List Exchange} {copy written stored : Request} {failure reason : Failure}
    {now : Instant} (hopen : given.state.isTerminal = false)
    (hwork : Yields (pass settings given.spec.mode given) work (.error failure, copy))
    (hfatal : failure.isTransient = false)
    (hgivenUp : GivenUp given.spec.mode failure (lastWritten given work).currentStatus
      written.currentStatus)
    (hstored : stored.status = (lastWritten given work).status) :
    Aftermath settings given
      (work ++ [⟨.clock, now⟩, ⟨.call (.updateStatus written),
        (.error reason : Except Failure Request)⟩]) (.error failure) stored

variable {settings : Settings} {given copy stored : Request} {mode : Mode} {failure : Failure}
  {status : Request.Status} {work rest transcript : List Exchange}
  {result : Except Failure Action}

/-- A status on which a failure is recorded is given up for it. -/
theorem givenUp_announced (hwell : Conditions.WellFormed status.conditions) (now : Instant) :
    GivenUp mode failure status
      ({ status with state := mode.errorState }.announced now failure.message) where
  state := rfl
  snapshotNames := rfl
  completionTimestamp := rfl
  conditions := ⟨now, rfl⟩
  current := Conditions.exists_current?_promote hwell

/-- The copy that the work ends with is the stored request, with the status that was written last
and a well-formed history. -/
theorem copy_of_work {outcome : Except Failure Unit} {end' : Except Failure Action × Request}
    (hwell : Conditions.WellFormed given.currentStatus.conditions)
    (hwork : Yields (pass settings given.spec.mode given) work (outcome, copy))
    (hpass : Yields (reconcile settings given) (work ++ rest) end')
    (hpath : (around nobody).Path given work stored) :
    copy = stored ∧ stored.status = (lastWritten given work).status ∧
      Conditions.WellFormed stored.currentStatus.conditions := by
  have hcopy := inHand_of_work hwork
  obtain rfl := Swapping.eq_of_inHand hpass hpath hcopy
  exact ⟨rfl, Swapping.status_eq_lastWritten (fun _ _ => False.elim) hpath,
    hcopy.wellFormed hpass (Swapping.heeds_of_path hpath) hwell⟩

/-- A failure for good is recorded on top of the stored request, or the request is left as it was. -/
theorem aftermath_of_failed {ending : List Exchange} {current copy' : Request}
    {outcome : Except Failure Unit} (hopen : given.state.isTerminal = false)
    (hwork : Yields (pass settings given.spec.mode given) work (.error failure, current))
    (hfatal : failure.isTransient = false)
    (hcurrent : current.status = (lastWritten given work).status)
    (hwell : Conditions.WellFormed current.currentStatus.conditions)
    (hstate : current.state.isTerminal = false)
    (hending : Posts { current.currentStatus with state := given.spec.mode.errorState }
      failure.message current ending (outcome, copy'))
    (hpath : (around nobody).Path current ending stored) :
    Aftermath settings given (work ++ ending) (.error failure) stored := by
  have hgivenUp (now : Instant) : GivenUp given.spec.mode failure
      (lastWritten given work).currentStatus
      ({ current.currentStatus with state := given.spec.mode.errorState }.announced now
        failure.message) := by
    rw [← Versions.currentStatus_congr hcurrent]
    exact givenUp_announced hwell now
  cases hending with
  | needless hagrees =>
    -- The request is not in an error state yet, so there is something to record.
    have hsame : current.state = given.spec.mode.errorState :=
      (Request.Status.agrees_iff.1 hagrees).1
    rw [hsame, Mode.isTerminal_errorState] at hstate
    cases hstate
  | refused hdiffers =>
    obtain ⟨before, hclock, hwrite⟩ := Respondent.path_cons.1 hpath
    obtain rfl := (Swapping.around_nobody.1 hclock).eq (not_confirmed (by simp))
    obtain ⟨after, hwrite, hnil⟩ := Respondent.path_cons.1 hwrite
    obtain rfl := (Swapping.around_nobody.1 hwrite).eq not_confirmed_refused
    obtain rfl := Respondent.path_nil.1 hnil
    exact .unrecorded hopen hwork hfatal (hgivenUp _) hcurrent
  | stored hdiffers =>
    obtain ⟨before, hclock, hwrite⟩ := Respondent.path_cons.1 hpath
    obtain rfl := (Swapping.around_nobody.1 hclock).eq (not_confirmed (by simp))
    obtain ⟨after, hwrite, hnil⟩ := Respondent.path_cons.1 hwrite
    obtain ⟨-, rfl, version, rfl⟩ := (Swapping.around_nobody.1 hwrite).of_stored
    obtain rfl := Respondent.path_nil.1 hnil
    exact .recorded hopen hwork hfatal rfl (hgivenUp _)

/-- Whatever the course of a pass over the stored request, it leaves behind what `Aftermath` says. -/
theorem aftermath_of_course (hwell : Conditions.WellFormed given.currentStatus.conditions)
    (hpass : Yields (reconcile settings given) transcript (result, copy))
    (hpath : (around nobody).Path given transcript stored) :
    Aftermath settings given transcript result stored := by
  have hwhole : Yields (reconcile settings given) (transcript ++ []) (result, copy) := by
    rwa [List.append_nil]
  have hcourse := course_of_yields hpass
  cases hcourse with
  | idle hend =>
    obtain rfl := Respondent.path_nil.1 hpath
    exact .idle hend
  | worked hopen hwork =>
    obtain ⟨rfl, hstored, -⟩ := copy_of_work hwell hwork hwhole hpath
    exact .worked hopen hwork hstored
  | retried hopen hwork htransient =>
    obtain ⟨rfl, hstored, -⟩ := copy_of_work hwell hwork hwhole hpath
    have hstate := isOpen_of_failed hwork (Swapping.heeds_of_path hpath) hopen
    exact .retried hopen hwork htransient hstored hstate
  | failed hopen hwork hfatal hending =>
    obtain ⟨current, hbefore, hafter⟩ := Respondent.path_append.1 hpath
    obtain ⟨rfl, hstored, hwell⟩ := copy_of_work hwell hwork hpass hbefore
    have hstate := isOpen_of_failed hwork (Swapping.heeds_of_path hbefore) hopen
    exact aftermath_of_failed hopen hwork hfatal hstored hwell hstate hending hafter

/-- A pass asks not to be repeated exactly if it hands on no failure and has left the request at an
end of its track. -/
theorem Aftermath.awaitChange_iff (h : Aftermath settings given transcript result stored) :
    result = .ok .awaitChange ↔
      stored.state.isTerminal = true ∧ ∃ action, result = .ok action := by
  cases h with
  | idle hend => simp [hend]
  | worked => simp
  | retried _ _ _ _ hstate => simp [hstate]
  | recorded => simp
  | unrecorded => simp

/-- A pass over the stored request, while nobody else writes it, leaves behind what `Aftermath`
says. It asks not to be repeated exactly if it hands on no failure and has left the request at an
end of its track. -/
theorem aftermath_of_yields (hwell : Conditions.WellFormed given.currentStatus.conditions)
    (hpass : Yields (reconcile settings given) transcript (result, copy))
    (hpath : (around nobody).Path given transcript stored) :
    Aftermath settings given transcript result stored ∧
      (result = .ok .awaitChange ↔
        stored.state.isTerminal = true ∧ ∃ action, result = .ok action) := by
  have haftermath := aftermath_of_course hwell hpass hpath
  exact ⟨haftermath, haftermath.awaitChange_iff⟩

/-- In its first pass, a save writes that it has begun and then fails for good. The failure is
recorded on top of that write. -/
theorem nightly_givenUp :
    Conditions.WellFormed Swapping.nightly.currentStatus.conditions ∧
      ∃ transcript stored, Aftermath {} Swapping.nightly transcript
        (.error (.serialization "not served")) stored ∧
        stored.currentStatus.conditions.map (·.typeName) = ["Quiescing", "SaveError"] := by
  have hwell : Conditions.WellFormed Swapping.nightly.currentStatus.conditions := by
    constructor <;> decide
  have hpass := Dialogue.yields_transcript Swapping.respond (reconcile {} Swapping.nightly)
    Swapping.nightly
  have haftermath : Aftermath {} Swapping.nightly _ (.error (.serialization "not served")) _ :=
    (aftermath_of_yields hwell hpass
      (Swapping.path_respond Swapping.nightly Swapping.nightly)).1
  exact ⟨hwell, _, _, haftermath, by decide +kernel⟩

end Saga

end NamespaceBackup
