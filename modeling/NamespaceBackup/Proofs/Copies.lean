import Mathlib.Data.List.Induction
import NamespaceBackup.Proofs.Conditions
import NamespaceBackup.Proofs.Courses
import NamespaceBackup.Proofs.Failures
import NamespaceBackup.Proofs.Grounds

/-!
# What becomes of the copy in hand

A pass replaces its copy of the request only by what it was told is stored. So what a store keeps
true of itself and the copies that it hands out is true of the copy in hand at every moment. The
parts of a pass write at their very end, so a part that fails has not changed the copy.

## Main definitions

* `Saga.Heeds`: an exchange after which the status that was written is stored
* `Saga.lastWritten`: the last request that was written and stored
* `Activity.FailsInPlace`: an activity that has not changed its own state if it fails

## Main results

* `Saga.InHand.invariant`: what a store keeps is true of the copy in hand
* `Saga.inHand_of_work`: the copy that the work of a pass ends with is the one in hand
* `Saga.InHand.wellFormed`: its history is well-formed
* `Saga.isOpen_of_failed`: work that fails has not come to an end of the track
-/

namespace NamespaceBackup

/-! ## The last write -/

namespace Saga

open Dialogue (Yields)

variable {settings : Settings} {given copy written stored : Request} {exchange : Exchange}
  {journal rest work transcript : List Exchange} {status : Request.Status}

/-- The request that an exchange writes, if the write is confirmed. -/
def confirmed? : Exchange → Option Request
  | ⟨.call (.updateStatus written), answer⟩ =>
    match (answer : Except Failure Request) with
    | .ok _ => some written
    | .error _ => none
  | _ => none

/-- The request of the last write that was confirmed; the given one if there was none. -/
def lastWritten (given : Request) (transcript : List Exchange) : Request :=
  (transcript.filterMap confirmed?).getLastD given

theorem confirmed?_eq_some_iff :
    confirmed? exchange = some written ↔
      ∃ stored, exchange = ⟨.call (.updateStatus written), (.ok stored : Except Failure Request)⟩ := by
  constructor
  · intro h
    rcases exchange with ⟨_ | c, answer⟩
    · cases h
    · cases c with
      | updateStatus request =>
        change Except Failure Request at answer
        cases answer with
        | ok stored =>
          cases h
          exact ⟨stored, rfl⟩
        | error failure => cases h
      | _ => cases h
  · rintro ⟨stored, rfl⟩
    rfl

theorem confirmed?_eq_none (h : ¬ Confirmed exchange) : confirmed? exchange = none := by
  cases hconfirmed : confirmed? exchange with
  | none => rfl
  | some written =>
    obtain ⟨stored, rfl⟩ := confirmed?_eq_some_iff.1 hconfirmed
    exact absurd ⟨written, stored, rfl⟩ h

theorem lastWritten_concat (h : ¬ Confirmed exchange) :
    lastWritten given (transcript ++ [exchange]) = lastWritten given transcript := by
  have hnone : [exchange].filterMap confirmed? = [] := by simp [confirmed?_eq_none h]
  rw [lastWritten, List.filterMap_append, hnone, List.append_nil]
  rfl

@[simp] theorem lastWritten_concat_stored :
    lastWritten given (transcript ++
      [⟨.call (.updateStatus written), (.ok stored : Except Failure Request)⟩]) = written := by
  simp [lastWritten, confirmed?]

/-- What comes before the last write makes no difference. -/
theorem lastWritten_append (h : ∀ exchange ∈ journal, ¬ Confirmed exchange) :
    lastWritten given (journal ++ rest) = lastWritten given rest := by
  have hnone : journal.filterMap confirmed? = [] :=
    List.filterMap_eq_nil_iff.2 fun exchange hexchange => confirmed?_eq_none (h exchange hexchange)
  rw [lastWritten, List.filterMap_append, hnone, List.nil_append]
  rfl

/-! ## Copies and stores

What is known of a store is carried along the transcript of a pass. It is enough to say what the
store keeps with an exchange that confirms no write, and with one that confirms a write of a status
over the copy in hand. -/

/-- What is stored has the status that was written. -/
def Heeds (exchange : Exchange) : Prop :=
  ∀ written stored, exchange = ⟨.call (.updateStatus written),
    (.ok stored : Except Failure Request)⟩ → stored.status = written.status

/-- A status keeps the history of the copy that it was made from, whatever it is written for. -/
theorem Grounds.conditions_eq (h : Grounds settings given copy journal status) :
    status.conditions = copy.currentStatus.conditions := by
  cases h <;> rfl

/-- A write has a copy in hand from which it was made, and a status with the history of the copy. -/
theorem Writing.exists_posted (h : Writing settings given journal written) :
    ∃ copy, InHand given journal copy ∧ ∃ status,
      status.conditions = copy.currentStatus.conditions ∧ ∃ message now,
        written = posted copy status message now := by
  cases h with
  | intro hcopy hgrounds now message =>
    exact ⟨_, hcopy.other (by simp), _, hgrounds.conditions_eq, message, now, rfl⟩

/-- What a store keeps true of itself and a copy, as long as nothing is confirmed and when it
confirms a write over the copy, is true of the copy in hand. -/
theorem InHand.invariant {ω : Type} {R : Respondent Query Query.Answer ω} {w v : ω}
    {outcome : Except Failure Action × Request} (inv : Request → ω → Prop)
    (hpass : Yields (reconcile settings given) (journal ++ rest) outcome)
    (hpath : R.Path w journal v) (hw : inv given w)
    (hkept : ∀ copy w exchange v, inv copy w → ¬ Confirmed exchange → R w exchange v → inv copy v)
    (hstored : ∀ copy w status message now stored v, inv copy w →
      status.conditions = copy.currentStatus.conditions →
      R w ⟨.call (.updateStatus (posted copy status message now)),
        (.ok stored : Except Failure Request)⟩ v → inv stored v)
    (hcopy : InHand given journal copy) : inv copy v := by
  -- The copy is changed by the last exchange or by none after the ones before it.
  induction journal using List.reverseRecOn generalizing copy rest v with
  | nil =>
    obtain rfl := Respondent.path_nil.1 hpath
    exact hcopy.of_nil ▸ hw
  | append_singleton journal exchange ih =>
    obtain ⟨u, hbefore, hexchange⟩ := Respondent.path_concat.1 hpath
    rw [List.append_assoc, List.singleton_append] at hpass
    rcases hcopy.of_concat with ⟨hcopy, hunconfirmed⟩ | ⟨before, status, -, rfl⟩
    · exact hkept copy u exchange v (ih hpass hbefore hcopy) hunconfirmed hexchange
    · -- The request that was stored over the copy in hand is the new copy.
      obtain ⟨held, hheld, posting, hconditions, message, now, hwritten⟩ :=
        (writing_of_yields hpass).exists_posted
      rw [hwritten] at hexchange
      exact hstored held u posting message now copy v (ih hpass hbefore hheld) hconditions hexchange

/-- The copy that the work of a pass ends with is the one in hand. -/
theorem inHand_of_work {outcome : Except Failure Unit}
    (hwork : Yields (pass settings given.spec.mode given) work (outcome, copy)) :
    InHand given work copy :=
  (Activity.Ensures.ends (pass_justified settings given) hwork
    (Activity.path_journaling [] work)).inHand

/-- There is a copy in hand at every moment before one at which there is one. -/
theorem InHand.of_append (h : InHand given (journal ++ rest) copy) :
    ∃ before, InHand given journal before := by
  induction rest using List.reverseRecOn generalizing copy with
  | nil => exact ⟨copy, List.append_nil journal ▸ h⟩
  | append_singleton rest exchange ih =>
    rw [← List.append_assoc] at h
    rcases h.of_concat with ⟨hbefore, -⟩ | ⟨before, status, hbefore, -⟩
    · exact ih hbefore
    · exact ih hbefore

/-- There is a copy in hand at every moment of a pass. -/
theorem exists_inHand {outcome : Except Failure Action × Request}
    (hpass : Yields (reconcile settings given) (journal ++ rest) outcome) :
    ∃ copy, InHand given journal copy := by
  have hend : InHand given (journal ++ rest) outcome.2 :=
    (Activity.Ensures.ends (reconcile_justified settings given) hpass
      (Activity.path_journaling [] (journal ++ rest))).inHand
  exact hend.of_append

/-- The history of the copy in hand is well-formed. -/
theorem InHand.wellFormed {outcome : Except Failure Action × Request}
    (hpass : Yields (reconcile settings given) (journal ++ rest) outcome)
    (hheeds : ∀ exchange ∈ journal, Heeds exchange)
    (hwell : Conditions.WellFormed given.currentStatus.conditions)
    (hcopy : InHand given journal copy) : Conditions.WellFormed copy.currentStatus.conditions := by
  refine hcopy.invariant (fun copy (_ : Unit) => Conditions.WellFormed copy.currentStatus.conditions)
    hpass (Activity.path_hearing hheeds) hwell (fun _ _ _ _ h _ _ => h) ?_
  intro copy _ status message now stored _ h hconditions hheeds
  rw [Request.currentStatus, hheeds _ _ rfl]
  exact Conditions.WellFormed.promote (hconditions ▸ h)

end Saga

/-! ## Work that fails

Every phase writes a status at most once, at its very end, so it has not changed the copy if it
fails. Only the first state of a track is written before a phase begins, and that state is none at
which a track ends. -/

namespace Activity

variable {σ α β ω : Type} {P : Query → Prop} {x : Activity σ α}

/-- An activity has not changed its own state if it fails. -/
def FailsInPlace (x : Activity σ α) : Prop :=
  ∀ s, Ensures (Terms.only fun _ => True) x s () fun outcome s' _ =>
    ∀ failure, outcome = .error failure → s' = s

namespace FailsInPlace

/-- What keeps its own state may come before an activity that fails in place. -/
protected theorem bind {f : α → Activity σ β} (hx : Asks P x) (hf : ∀ value, FailsInPlace (f value)) :
    FailsInPlace (x >>= f) := by
  intro s
  have hasks : Ensures (Terms.only fun _ => True) x s () fun _ s' _ => s' = s :=
    (hx s).widen fun _ _ => trivial
  refine hasks.bind ?_ ?_
  · rintro value _ ⟨⟩ rfl
    exact hf value _
  · rintro failure _ ⟨⟩ rfl _ _
    rfl

theorem get_bind {f : σ → Activity σ β} (hf : ∀ s, FailsInPlace (f s)) :
    FailsInPlace (get >>= f) := by
  intro s
  rw [ensures_bind, ensures_get, then_ok]
  exact hf s s

/-- On any terms, an activity that fails in place leaves its own state as it was if it fails. -/
theorem ensures {T : Terms Query Query.Answer ω} (hx : FailsInPlace x)
    (hasks : ∀ w question, T.asks w question) (s : σ) (w : ω) :
    Ensures T x s w fun outcome s' _ => ∀ failure, outcome = .error failure → s' = s :=
  ((hx s).preserves (fun _ => True) (fun w question _ _ => hasks w question)
    (fun _ _ _ _ _ _ => trivial) trivial).mono fun _ _ _ h => h.1

end FailsInPlace

end Activity

namespace Saga

open Activity (Asks Ensures FailsInPlace)
open Dialogue (Yields)

variable {settings : Settings} {given copy : Request} {ns : String} {bundle : Bundle}
  {work : List Exchange}

theorem writeStatus_failsInPlace (status : Request.Status) (message : String) :
    FailsInPlace (writeStatus status message) := by
  intro request
  refine ensures_writeStatus.2 ⟨trivial, fun now _ _ => ?_⟩
  split
  case isTrue => exact fun _ _ => rfl
  case isFalse =>
    refine ⟨trivial, ?_⟩
    rintro (failure | stored) _ _
    · exact fun _ _ => rfl
    · exact fun _ => nofun

theorem transition_failsInPlace (state : State) (message : String) :
    FailsInPlace (transition state message) :=
  .get_bind fun _ => writeStatus_failsInPlace _ _

theorem quiesce_failsInPlace : FailsInPlace (quiesce settings) := by
  refine .get_bind fun request => .bind (Asks.ofExcept (P := fun _ => True) _) fun ns => ?_
  refine .bind (Inventory.collect_asks ns _) fun inventory => ?_
  dsimp only
  split <;> exact transition_failsInPlace _ _

theorem finishSave_failsInPlace {name marker : String} {inventory : Inventory}
    {status : Request.Status} :
    FailsInPlace (finishSave settings ns name marker inventory status) := by
  refine .bind (ensureBundle_asks _ _ _ _ _ _) fun bundleName => ?_
  exact .bind (Asks.now (P := fun _ => True) trivial) fun now => writeStatus_failsInPlace _ _

theorem save_failsInPlace : FailsInPlace (save settings) := by
  refine .get_bind fun request => .bind (Asks.ofExcept (P := fun _ => True) _) fun ns => ?_
  refine .bind (Asks.ofExcept (P := fun _ => True) _) fun marker => ?_
  refine .bind (Inventory.collect_asks ns _) fun inventory => ?_
  dsimp only
  split
  · refine .bind (Imaging.within_runPass_asks _ _ _ _ _ _) fun (pending, recorded) => ?_
    dsimp only
    split
    · exact finishSave_failsInPlace
    · exact writeStatus_failsInPlace _ _
  · exact finishSave_failsInPlace

theorem clean_failsInPlace : FailsInPlace (clean settings ns) := by
  refine .bind (Inventory.collect_asks ns _) fun inventory => ?_
  refine .bind (Inventory.clear_asks ns inventory) fun cleared => ?_
  split <;> exact transition_failsInPlace _ _

theorem load_failsInPlace : FailsInPlace (load settings ns bundle) := by
  refine .get_bind fun request => .bind (loadObjects_asks ns _ bundle.content) fun _ => ?_
  dsimp only
  split
  · refine .bind (Asks.ofExcept (P := fun _ => True) _) fun marker => ?_
    refine .bind (Imaging.within_runPass_asks _ _ _ _ _ _) fun (pending, recorded) => ?_
    dsimp only
    split <;> exact writeStatus_failsInPlace _ _
  · exact writeStatus_failsInPlace _ _

theorem awaitRestored_failsInPlace : FailsInPlace (awaitRestored settings ns bundle) := by
  refine .bind (Inventory.collect_asks ns _) fun inventory => ?_
  dsimp only
  split
  · refine .get_bind fun request => ?_
    exact .bind (Asks.now (P := fun _ => True) trivial) fun now => writeStatus_failsInPlace _ _
  · exact transition_failsInPlace _ _

theorem savePhase_failsInPlace : FailsInPlace (savePhase settings) := fun request =>
  ensures_savePhase (fun _ => quiesce_failsInPlace request) (fun _ => save_failsInPlace request)
    fun _ _ _ _ _ => rfl

theorem restorePhase_failsInPlace : FailsInPlace (restorePhase settings ns bundle) := fun request =>
  ensures_restorePhase (fun _ => clean_failsInPlace request) (fun _ => load_failsInPlace request)
    (fun _ => awaitRestored_failsInPlace request) fun _ _ _ _ _ _ => rfl

/-! ### Whole passes -/

/-- The terms on which only some questions may be asked, and whatever is stored has the status that
was written. -/
abbrev heeding (P : Query → Prop) : Terms Query Query.Answer Unit where
  asks _ question := P question
  answers _ exchange _ := Heeds exchange

/-- If an activity fails, its copy is of a request for which there is something left to do. -/
def FailsOpen (x : Pass Unit) (request : Request) : Prop :=
  Ensures (heeding fun _ => True) x request () fun outcome copy _ =>
    ∀ failure, outcome = .error failure → copy.state.isTerminal = false

theorem FailsOpen.of_failsInPlace {x : Pass Unit} {request : Request} (hx : FailsInPlace x)
    (hopen : request.state.isTerminal = false) : FailsOpen x request :=
  (hx.ensures (fun _ _ => trivial) request ()).mono fun _ _ _ h failure hfailure =>
    (h failure hfailure).symm ▸ hopen

/-- A pass has gone to a state, or it still holds the request that it had. -/
theorem transition_heeding {P : Query → Prop} (hclock : P .clock)
    (hwrite : ∀ written, P (.call (.updateStatus written))) (state : State) (message : String)
    (request : Request) :
    Ensures (heeding P) (transition state message) request () fun outcome copy _ =>
      outcome = .ok () ∧ copy.state = state ∨ copy = request := by
  refine ensures_transition.2 (ensures_writeStatus.2 ⟨hclock, fun now _ _ => ?_⟩)
  split
  case isTrue => exact .inr rfl
  case isFalse =>
    refine ⟨hwrite _, ?_⟩
    rintro (failure | stored) _ hheeds
    · exact .inr rfl
    · refine .inl ⟨rfl, ?_⟩
      rw [Request.state, Request.currentStatus, hheeds _ _ rfl]
      rfl

/-- The first state of a track may be gone to before a phase that fails in place. -/
theorem FailsOpen.transition_bind {state : State} {message : String} {request : Request}
    {x : Pass Unit} (hx : FailsInPlace x) (hopen : request.state.isTerminal = false)
    (hstate : state.isTerminal = false) :
    FailsOpen (transition state message >>= fun _ => x) request := by
  have hbegin := transition_heeding (P := fun _ => True) trivial (fun _ => trivial) state message
    request
  refine hbegin.bind ?_ ?_
  · rintro _ copy _ (⟨-, hcopy⟩ | rfl)
    · exact FailsOpen.of_failsInPlace hx (hcopy ▸ hstate)
    · exact FailsOpen.of_failsInPlace hx hopen
  · rintro failure copy _ (⟨hok, -⟩ | rfl) _ _
    · cases hok
    · exact hopen

theorem FailsOpen.ofExcept_bind {α : Type} {outcome : Except Failure α} {f : α → Pass Unit}
    {request : Request} (hopen : request.state.isTerminal = false)
    (hf : ∀ value, FailsOpen (f value) request) : FailsOpen (ofExcept outcome >>= f) request := by
  cases outcome with
  | ok value => exact hf value
  | error failure => exact fun _ _ => hopen

theorem pass_failsOpen (settings : Settings) (mode : Mode)
    (hopen : given.state.isTerminal = false) : FailsOpen (pass settings mode) given := by
  have hrestore : FailsOpen (restorePass settings) given := by
    refine ensures_restorePass.2 (FailsOpen.ofExcept_bind hopen fun ns => ?_)
    have hsource : Ensures (heeding fun _ => True) (sourceBundle ns) given () fun _ copy _ =>
        copy = given ∧ True :=
      (sourceBundle_asks ns).preserves (fun _ => True) (fun _ _ _ _ => trivial)
        (fun _ _ _ _ _ _ => trivial) trivial
    refine hsource.bind ?_ ?_
    · rintro bundle _ _ ⟨rfl, -⟩
      refine ensures_restoreFrom.2 ?_
      split
      · split <;> exact FailsOpen.transition_bind restorePhase_failsInPlace hopen rfl
      · exact FailsOpen.of_failsInPlace restorePhase_failsInPlace hopen
    · rintro failure _ _ ⟨rfl, -⟩ _ _
      exact hopen
  cases mode with
  | save =>
    refine ensures_savePass.2 ?_
    split
    · exact FailsOpen.transition_bind savePhase_failsInPlace hopen rfl
    · exact FailsOpen.of_failsInPlace savePhase_failsInPlace hopen
  | restore => exact hrestore
  | cleanRestore => exact hrestore

/-- Work that fails has not come to an end of the track. -/
theorem isOpen_of_failed {mode : Mode} {failure : Failure}
    (hwork : Yields (pass settings mode given) work (.error failure, copy))
    (hheeds : ∀ exchange ∈ work, Heeds exchange) (hopen : given.state.isTerminal = false) :
    copy.state.isTerminal = false :=
  Activity.Ensures.ends (pass_failsOpen settings mode hopen) hwork
    (Activity.path_hearing hheeds) failure rfl

end Saga

end NamespaceBackup
