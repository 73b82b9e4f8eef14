import NamespaceBackup.Proofs.Activity
import NamespaceBackup.Saga.Reconcile

/-!
# Runs of passes

A request is worked on in passes, one after another. What answers the passes, which copies of the
request they are given and what happens between them is left to the surroundings.

## Main definitions

* `Saga.savePhase`, `Saga.restorePhase`: the work of a pass past the empty state
* `Saga.Concludes`: what follows the work of a pass
* `Saga.Surroundings`: the world around one request
* `Saga.Runs`: passes one after another, with the transcript of each
* `Saga.Visits`: the states of the world that a run comes through
* `Saga.Asked`, `Saga.AskedOver`: a question of a run, with all that was exchanged before it

## Main results

* `Saga.ensures_writeStatus`: how a status is written
* `Saga.ensures_savePass`, `Saga.ensures_restorePass`: a pass leaves the empty state, then works on
  the phase that its state names
* `Saga.ensures_reconcile`: a pass is its work and what follows that
* `Saga.Runs.invariant`, `Saga.Runs.kept`: what each pass, or each exchange, and everything between
  passes keeps holds after every run
* `Saga.Visits.invariant`: what each exchange keeps holds at every moment of a run
* `Saga.Runs.asked`: what is ensured of every question of a pass holds of every question of a run
-/

namespace NamespaceBackup.Saga

/-! ## How a status is written -/

section WriteStatus

variable {ω : Type} {T : Terms Query Query.Answer ω} {w : ω}

/-- What follows an attempt to write a status: the copy of the pass becomes what was stored. -/
def Written (post : Except Failure Unit → Request → ω → Prop) (request : Request) (w : ω) :
    Except Failure Request → Prop
  | .ok stored => post (.ok ()) stored w
  | .error failure => post (.error failure) request w

/-- Writing a status reads the clock, and asks for a write unless only times would change. -/
theorem ensures_writeStatus {status : Request.Status} {message : String} {request : Request}
    {post : Except Failure Unit → Request → ω → Prop} :
    Activity.Ensures T (writeStatus status message) request w post ↔
      T.asks w .clock ∧ ∀ (now : Instant) v, T.answers w ⟨.clock, now⟩ v →
        if request.currentStatus.agrees (status.announced now message) then
          post (.ok ()) request v
        else
          T.asks v (.call (.updateStatus
            { request with status := some (status.announced now message) })) ∧
          ∀ (answer : Except Failure Request) u, T.answers v
            ⟨.call (.updateStatus { request with status := some (status.announced now message) }),
              answer⟩ u → Written post request u answer := by
  rw [writeStatus, Activity.ensures_bind, Activity.ensures_get, Activity.then_ok,
    Activity.ensures_bind, Activity.ensures_now]
  refine and_congr_right fun _ => forall_congr' fun now => forall_congr' fun v => ?_
  refine imp_congr_right fun _ => ?_
  by_cases hagrees : request.currentStatus.agrees (status.announced now message) = true
  · rw [if_pos hagrees]
    change Activity.Ensures T (if _ then _ else _) request v post ↔ _
    rw [if_pos hagrees]
    rfl
  · rw [if_neg hagrees]
    change Activity.Ensures T (if _ then _ else _) request v post ↔ _
    rw [if_neg hagrees]
    refine Activity.ensures_bind.trans ?_
    refine and_congr_right fun _ => forall_congr' fun answer => ?_
    cases answer <;> rfl

theorem ensures_transition {state : State} {message : String} {request : Request}
    {post : Except Failure Unit → Request → ω → Prop} :
    Activity.Ensures T (transition state message) request w post ↔
      Activity.Ensures T (writeStatus { request.currentStatus with state } message) request w
        post :=
  Iff.rfl

/-- A status is written without asking for anything but the time and the write. -/
theorem writeStatus_safe (hclock : ∀ w, T.asks w .clock)
    (hwrite : ∀ w written, T.asks w (.call (.updateStatus written))) (status : Request.Status)
    (message : String) : Activity.Safe T (writeStatus status message) := by
  refine fun request w => ensures_writeStatus.2 ⟨hclock w, fun now v _ => ?_⟩
  split
  · trivial
  · refine ⟨hwrite v _, ?_⟩
    rintro (failure | stored) _ _ <;> trivial

theorem transition_safe (hclock : ∀ w, T.asks w .clock)
    (hwrite : ∀ w written, T.asks w (.call (.updateStatus written))) (state : State)
    (message : String) : Activity.Safe T (transition state message) :=
  .get_bind fun _ => writeStatus_safe hclock hwrite _ message

end WriteStatus

/-! ## The phases of a pass -/

section Phases

variable {ω : Type} {T : Terms Query Query.Answer ω} {w : ω} {settings : Settings} {ns : String}
  {bundle : Bundle} {request : Request} {post : Except Failure Unit → Request → ω → Prop}

/-- What a save does past the empty state. -/
def savePhase (settings : Settings) : Pass Unit := do
  match (← get).state with
  | .quiescing => quiesce settings
  | .saving => save settings
  | other =>
    throw (.invalidState ("state " ++ other.name ++ " is not part of the save saga"))

theorem ensures_savePhase
    (hquiesce : request.state = .quiescing →
      Activity.Ensures T (quiesce settings) request w post)
    (hsave : request.state = .saving → Activity.Ensures T (save settings) request w post)
    (hother : request.state ≠ .quiescing → request.state ≠ .saving →
      ∀ reason, post (.error (.invalidState reason)) request w) :
    Activity.Ensures T (savePhase settings) request w post := by
  rw [savePhase, Activity.ensures_bind, Activity.ensures_get, Activity.then_ok]
  split
  case h_1 hstate => exact hquiesce hstate
  case h_2 hstate => exact hsave hstate
  case h_3 hquiescing hsaving => exact hother hquiescing hsaving _

/-- A save leaves the empty state before anything else. -/
theorem ensures_savePass :
    Activity.Ensures T (savePass settings) request w post ↔
      if request.state = .empty then
        Activity.Ensures T
          (transition .quiescing "Waiting for all controllers to finish" >>= fun _ =>
            savePhase settings) request w post
      else Activity.Ensures T (savePhase settings) request w post := by
  rw [savePass, Activity.ensures_bind, Activity.ensures_get, Activity.then_ok]
  split <;> rfl

/-- What a restore does past the empty state. -/
def restorePhase (settings : Settings) (ns : String) (bundle : Bundle) : Pass Unit := do
  match (← get).state with
  | .cleaning => clean settings ns
  | .loading => load settings ns bundle
  | .reconciling => awaitRestored settings ns bundle
  | other =>
    throw (.invalidState ("state " ++ other.name ++ " is not part of the restore saga"))

theorem ensures_restorePhase
    (hclean : request.state = .cleaning → Activity.Ensures T (clean settings ns) request w post)
    (hload : request.state = .loading →
      Activity.Ensures T (load settings ns bundle) request w post)
    (hawait : request.state = .reconciling →
      Activity.Ensures T (awaitRestored settings ns bundle) request w post)
    (hother : request.state ≠ .cleaning → request.state ≠ .loading →
      request.state ≠ .reconciling → ∀ reason, post (.error (.invalidState reason)) request w) :
    Activity.Ensures T (restorePhase settings ns bundle) request w post := by
  rw [restorePhase, Activity.ensures_bind, Activity.ensures_get, Activity.then_ok]
  split
  case h_1 hstate => exact hclean hstate
  case h_2 hstate => exact hload hstate
  case h_3 hstate => exact hawait hstate
  case h_4 hcleaning hloading hreconciling =>
    exact hother hcleaning hloading hreconciling _

/-- What a restore does once its bundle is found: it leaves the empty state before anything else. -/
def restoreFrom (settings : Settings) (ns : String) (bundle : Bundle) : Pass Unit := do
  let request ← get
  if request.state = .empty then
    if request.spec.mode = .cleanRestore then transition .cleaning "Removing managed objects"
    else transition .loading "Loading Backup"
  restorePhase settings ns bundle

theorem ensures_restoreFrom :
    Activity.Ensures T (restoreFrom settings ns bundle) request w post ↔
      if request.state = .empty then
        if request.spec.mode = .cleanRestore then
          Activity.Ensures T
            (transition .cleaning "Removing managed objects" >>= fun _ =>
              restorePhase settings ns bundle) request w post
        else
          Activity.Ensures T
            (transition .loading "Loading Backup" >>= fun _ =>
              restorePhase settings ns bundle) request w post
      else Activity.Ensures T (restorePhase settings ns bundle) request w post := by
  rw [restoreFrom, Activity.ensures_bind, Activity.ensures_get, Activity.then_ok]
  split
  · split <;> rfl
  · rfl

theorem ensures_restorePass :
    Activity.Ensures T (restorePass settings) request w post ↔
      Activity.Ensures T
        (ofExcept (requestNamespace request) >>= fun ns =>
          sourceBundle ns >>= restoreFrom settings ns) request w post := by
  rw [restorePass, Activity.ensures_bind, Activity.ensures_get, Activity.then_ok]
  rfl

end Phases

/-! ## Whole passes -/

section Reconcile

variable {ω : Type} {T : Terms Query Query.Answer ω} {w : ω} {settings : Settings}
  {request : Request} {post : Request → ω → Prop}

/-- What follows the work of a pass: nothing, unless the work failed for good; then the error state
is written, if that can be. -/
def Concludes (T : Terms Query Query.Answer ω) (mode : Mode) (post : Request → ω → Prop) :
    Except Failure Unit → Request → ω → Prop
  | .ok (), request, w => post request w
  | .error failure, request, w =>
    (failure.isTransient = true → post request w) ∧
    (failure.isTransient = false →
      Activity.Ensures T (transition mode.errorState failure.message) request w
        fun _ request w => post request w)

/-- A pass does nothing at an end of the track, and its work and what follows that anywhere else. -/
theorem ensures_reconcile (hterminal : request.state.isTerminal = true → post request w)
    (hwork : request.state.isTerminal = false →
      Activity.Ensures T (pass settings request.spec.mode) request w
        (Concludes T request.spec.mode post)) :
    Activity.Ensures T (reconcile settings) request w fun _ request w => post request w := by
  rw [reconcile, Activity.ensures_bind, Activity.ensures_get, Activity.then_ok]
  by_cases hend : request.state.isTerminal = true
  · rw [if_pos hend]
    exact hterminal hend
  · rw [if_neg hend, Activity.ensures_bind, Activity.ensures_outcome]
    refine (hwork (by simpa using hend)).mono fun outcome request' v hconcludes => ?_
    cases outcome with
    | ok =>
      rw [Activity.then_ok, Activity.ensures_bind, Activity.ensures_get, Activity.then_ok]
      -- The two endings differ only in when the request is looked at again.
      split <;> exact hconcludes
    | error failure =>
      rw [Activity.then_ok]
      obtain ⟨htransient, hfinal⟩ := hconcludes
      cases hfailure : failure.isTransient with
      | true =>
        simp only [hfailure]
        exact htransient hfailure
      | false =>
        simp only [hfailure]
        exact Activity.ensures_bind.2 (Activity.ensures_outcome.2 (hfinal hfailure))

end Reconcile

/-! ## Passes one after another -/

/-- The world around one request. -/
structure Surroundings (ω : Type) where
  /-- Who answers a pass. -/
  answers : Respondent Query Query.Answer ω
  /-- The copies of the request that a pass may be given. -/
  gives : ω → Request → Prop
  /-- What may happen between two passes. -/
  between : ω → ω → Prop

variable {ω : Type} {S : Surroundings ω} {settings : Settings} {w v : ω}
  {transcripts : List (List Exchange)}

/-- Passes one after another, from one state of the world to another. There is one transcript for
each pass. -/
inductive Runs (S : Surroundings ω) (settings : Settings) (w : ω) :
    List (List Exchange) → ω → Prop
  | start : Runs S settings w [] w
  | pass {v v' u : ω} {transcripts : List (List Exchange)} {request : Request}
      {transcript : List Exchange} {outcome : Except Failure Action × Request} :
      Runs S settings w transcripts v → S.between v v' → S.gives v' request →
      Dialogue.Yields (reconcile settings request) transcript outcome →
      S.answers.Path v' transcript u → Runs S settings w (transcripts ++ [transcript]) u

/-- A run goes on with a pass that is held with somebody who has a state and is among those who may
answer. -/
theorem Runs.pass_transcript {respond : (question : Query) → ω → question.Answer × ω}
    {request : Request} {v' : ω} (h : Runs S settings w transcripts v)
    (hrespond : ∀ question w,
      S.answers w ⟨question, (respond question w).1⟩ (respond question w).2)
    (hbetween : S.between v v') (hgives : S.gives v' request) :
    Runs S settings w (transcripts ++ [(reconcile settings request).transcript respond v'])
      ((reconcile settings request).run respond v').2 :=
  .pass h hbetween hgives (Dialogue.yields_transcript respond _ v')
    (Dialogue.path_transcript respond hrespond _ v')

/-- One pass, held with somebody who has a state and is among those who may answer. -/
theorem runs_transcript {respond : (question : Query) → ω → question.Answer × ω} {request : Request}
    (hrespond : ∀ question w,
      S.answers w ⟨question, (respond question w).1⟩ (respond question w).2)
    (hbetween : S.between w w) (hgives : S.gives w request) :
    Runs S settings w [(reconcile settings request).transcript respond w]
      ((reconcile settings request).run respond w).2 :=
  Runs.pass_transcript .start hrespond hbetween hgives

/-- What holds in the beginning, and is kept by every pass and by everything between two passes,
holds after every run. -/
theorem Runs.invariant (inv : ω → Prop) (h : Runs S settings w transcripts v) (hw : inv w)
    (hbetween : ∀ w v, inv w → S.between w v → inv v)
    (hpass : ∀ w request, inv w → S.gives w request →
      Activity.Ensures { answers := S.answers } (reconcile settings) request w
        fun _ _ v => inv v) : inv v := by
  induction h with
  | start => exact hw
  | pass _ hchange hcopy hconversation hpath ih =>
    exact (hpass _ _ (hbetween _ _ ih hchange) hcopy).ends hconversation hpath

/-- What is kept by every exchange and by everything between two passes holds after every run. -/
theorem Runs.kept (inv : ω → Prop) (h : Runs S settings w transcripts v) (hw : inv w)
    (hbetween : ∀ w v, inv w → S.between w v → inv v)
    (hanswers : ∀ w exchange v, inv w → S.answers w exchange v → inv v) : inv v := by
  induction h with
  | start => exact hw
  | pass _ hchange _ _ hpath ih => exact hpath.invariant inv (hbetween _ _ ih hchange) hanswers

/-- A state of the world that a run comes through, between two passes or during one. -/
inductive Visits (S : Surroundings ω) (settings : Settings) (w : ω) : ω → Prop
  | between {v v' : ω} {transcripts : List (List Exchange)} :
    Runs S settings w transcripts v → S.between v v' → Visits S settings w v'
  | during {v v' u : ω} {transcripts : List (List Exchange)} {request : Request}
      {first rest : List Exchange} {outcome : Except Failure Action × Request} :
      Runs S settings w transcripts v → S.between v v' → S.gives v' request →
      Dialogue.Yields (reconcile settings request) (first ++ rest) outcome →
      S.answers.Path v' first u → Visits S settings w u

/-- What every pass keeps with every exchange holds in all states that a run comes through. -/
theorem Visits.invariant {u : ω} (inv : ω → Prop) (h : Visits S settings w u) (hw : inv w)
    (hbetween : ∀ w v, inv w → S.between w v → inv v)
    (hpass : ∀ w request, inv w → S.gives w request →
      Activity.Ensures ⟨fun w _ => inv w, S.answers⟩ (reconcile settings) request w
        fun _ _ v => inv v) : inv u := by
  have hruns : ∀ {transcripts v}, Runs S settings w transcripts v → inv v := fun hrun =>
    hrun.invariant inv hw hbetween fun w request hinv hgives => (hpass w request hinv hgives).unasked
  cases h with
  | between hrun hchange => exact hbetween _ _ (hruns hrun) hchange
  | @during v v' u transcripts request first rest outcome hrun hchange hcopy hconversation hpath =>
    have hensures := hpass v' request (hbetween _ _ (hruns hrun) hchange) hcopy
    -- The pass goes on with another question, or it is over.
    cases rest with
    | nil => exact hensures.ends (by simpa using hconversation) hpath
    | cons exchange rest => exact hensures.asked hconversation hpath

/-- A question was asked in a run, after what was exchanged in earlier passes and before it in the
pass of its own. -/
def Asked (transcripts : List (List Exchange)) (earlier before : List Exchange) (question : Query) :
    Prop :=
  ∃ passes answer after later,
    transcripts = passes ++ (before ++ ⟨question, answer⟩ :: after) :: later ∧
      earlier = passes.flatten

/-- A question was asked in a run, in a pass over a copy of the request, after what was exchanged in
earlier passes and before it in its own. -/
inductive AskedOver (S : Surroundings ω) (settings : Settings) (w : ω) (copy : Request)
    (question : Query) : List Exchange → List Exchange → Prop
  | intro {v v' u : ω} {transcripts : List (List Exchange)} {before after : List Exchange}
      {answer : question.Answer} {outcome : Except Failure Action × Request} :
      Runs S settings w transcripts v → S.between v v' → S.gives v' copy →
      Dialogue.Yields (reconcile settings copy) (before ++ ⟨question, answer⟩ :: after) outcome →
      S.answers.Path v' before u →
      AskedOver S settings w copy question transcripts.flatten before

/-- A run goes on with a pass that is held with somebody who has a state, and in which some question
of a kind is asked. -/
theorem Runs.exists_askedOver {respond : (question : Query) → ω → question.Answer × ω}
    {copy : Request} {v' : ω} (h : Runs S settings w transcripts v)
    (hrespond : ∀ question w,
      S.answers w ⟨question, (respond question w).1⟩ (respond question w).2)
    (hbetween : S.between v v') (hgives : S.gives v' copy) {kind : Query → Bool}
    (hany : ((reconcile settings copy).transcript respond v').any (kind ·.1) = true) :
    ∃ question before answer after, kind question = true ∧
      (reconcile settings copy).transcript respond v' = before ++ ⟨question, answer⟩ :: after ∧
      AskedOver S settings w copy question transcripts.flatten before := by
  have hpass := Dialogue.yields_transcript respond (reconcile settings copy) v'
  have hpath := Dialogue.path_transcript respond hrespond (reconcile settings copy) v'
  obtain ⟨⟨question, answer⟩, hmem, hkind⟩ := List.any_eq_true.1 hany
  obtain ⟨before, after, hsplit⟩ := List.append_of_mem hmem
  rw [hsplit] at hpass hpath
  obtain ⟨u, hbefore, -⟩ := Respondent.path_append.1 hpath
  exact ⟨question, before, answer, after, hkind, hsplit, .intro h hbetween hgives hpass hbefore⟩

theorem exists_asked_of_mem {question : Query}
    (h : question ∈ transcripts.flatten.map Sigma.fst) :
    ∃ earlier before, Asked transcripts earlier before question := by
  obtain ⟨⟨_, answer⟩, hexchanged, rfl⟩ := List.mem_map.1 h
  obtain ⟨transcript, htranscript, hexchange⟩ := List.mem_flatten.1 hexchanged
  obtain ⟨passes, later, rfl⟩ := List.append_of_mem htranscript
  obtain ⟨before, after, rfl⟩ := List.append_of_mem hexchange
  exact ⟨_, before, passes, answer, after, later, rfl, rfl⟩

/-- What was exchanged before a question in its pass was exchanged in the run. -/
theorem Asked.before_subset {earlier before : List Exchange} {question : Query}
    (h : Asked transcripts earlier before question) : before ⊆ transcripts.flatten := by
  obtain ⟨passes, answer, after, later, rfl, -⟩ := h
  intro exchange hexchange
  simp [hexchange]

theorem asked_concat {transcript earlier before : List Exchange} {question : Query}
    (h : Asked (transcripts ++ [transcript]) earlier before question) :
    Asked transcripts earlier before question ∨
      earlier = transcripts.flatten ∧
        ∃ answer after, transcript = before ++ ⟨question, answer⟩ :: after := by
  obtain ⟨passes, answer, after, later, htranscripts, hearlier⟩ := h
  -- The question was asked in the last pass if no later pass follows.
  rcases List.eq_nil_or_concat later with rfl | ⟨later, last, rfl⟩
  · obtain ⟨rfl, hlast⟩ := List.append_inj' htranscripts rfl
    cases hlast
    exact .inr ⟨hearlier, answer, after, rfl⟩
  · refine .inl ⟨passes, answer, after, later, ?_, hearlier⟩
    rw [List.concat_eq_append, ← List.cons_append, ← List.append_assoc] at htranscripts
    exact (List.append_inj' htranscripts rfl).1

/-- A question of a run was asked in a pass over some copy. -/
theorem Runs.exists_copy (h : Runs S settings w transcripts v) {earlier before : List Exchange}
    {question : Query} (hasked : Asked transcripts earlier before question) :
    ∃ copy, AskedOver S settings w copy question earlier before := by
  induction h with
  | start =>
    obtain ⟨passes, answer, after, later, htranscripts, -⟩ := hasked
    simp at htranscripts
  | pass hrun hchange hcopy hconversation hpath ih =>
    rcases asked_concat hasked with hasked | ⟨rfl, answer, after, rfl⟩
    · exact ih hasked
    · obtain ⟨_, hbefore, -⟩ := Respondent.path_append.1 hpath
      exact ⟨_, .intro hrun hchange hcopy hconversation hbefore⟩

/-- What is ensured of every question of a pass holds of every question of a run. The invariant
may speak of everything that was exchanged before a pass. -/
theorem Runs.asked (h : Runs S settings w transcripts v) (inv : List Exchange → ω → Prop)
    (asks : List Exchange → ω × List Exchange → Query → Prop) (hw : inv [] w)
    (hbetween : ∀ earlier w v, inv earlier w → S.between w v → inv earlier v)
    (hpass : ∀ earlier w request, inv earlier w → S.gives w request →
      Activity.Ensures ⟨asks earlier, S.answers.recorded⟩ (reconcile settings) request (w, [])
        fun _ _ after => inv (earlier ++ after.2) after.1)
    {earlier before : List Exchange} {question : Query}
    (hasked : Asked transcripts earlier before question) :
    ∃ u, asks earlier (u, before) question := by
  -- The invariant is carried along, since each pass starts where the last one ended.
  suffices hall : inv transcripts.flatten v ∧ ∀ earlier before question,
      Asked transcripts earlier before question → ∃ u, asks earlier (u, before) question from
    hall.2 earlier before question hasked
  clear hasked
  induction h with
  | start =>
    refine ⟨hw, ?_⟩
    rintro earlier before question ⟨passes, answer, after, later, htranscripts, -⟩
    simp at htranscripts
  | @pass v v' u transcripts request transcript outcome hrun hchange hcopy hconversation hpath ih =>
    have hensures := hpass _ _ _ (hbetween _ _ _ ih.1 hchange) hcopy
    constructor
    · have hend := hensures.ends hconversation (hpath.recorded [])
      simpa using hend
    · intro earlier before question hasked
      -- A question of the last pass comes after all that was exchanged in the passes before it.
      rcases asked_concat hasked with hasked | ⟨rfl, answer, after, rfl⟩
      · exact ih.2 earlier before question hasked
      · obtain ⟨u', hbefore, -⟩ := Respondent.path_append.1 hpath
        have hasks := hensures.asked hconversation (hbefore.recorded [])
        exact ⟨u', by simpa using hasks⟩

end NamespaceBackup.Saga
