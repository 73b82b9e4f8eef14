import NamespaceBackup.Call.Summary
import NamespaceBackup.Proofs.Aftermath
import NamespaceBackup.Proofs.Collect
import NamespaceBackup.Proofs.Quiesced

/-!
# Waiting in silence

A request waits for the controllers in two states. Each pass over it lists what there is and says in
its status which objects hold it up. As long as these are the same, nothing is written: they are
reported in one order, and a condition that is current already is not written again because of its
times. So a request that waits does not wake itself.

## Main definitions

* `Saga.Reports`: the hold-ups that a pass over a waiting request finds
* `Saga.Announced`: a status whose current condition has some message
* `Saga.Watches`: the courses of the work over a waiting request
* `Saga.Waits`: passes over a waiting request that find the same hold-ups

## Main results

* `Versions.wellFormed_of_runs`: all versions of a request have well-formed histories
* `Saga.watches_of_yields`: there are no other courses
* `Saga.silent_of_waits`: after a pass that leaves a request waiting, passes that find the same
  hold-ups write nothing
-/

namespace NamespaceBackup

/-! ## Histories of versions -/

namespace Versions

/-- All versions of a request have well-formed histories, whoever was given which of them, and
whatever became of the writes. -/
theorem wellFormed_of_runs {settings : Settings} {first : Request}
    {transcripts : List (List Exchange)} {versions : List Request} (hstart : first.status = none)
    (hrun : Saga.Runs (surroundings fun _ => True) settings [first] transcripts versions) :
    ∀ r ∈ versions, Conditions.WellFormed r.currentStatus.conditions := by
  induction hrun with
  | start =>
    intro r hr
    rw [List.mem_singleton.1 hr, Request.currentStatus, hstart]
    constructor <;> simp
  | @pass v v' u transcripts given transcript outcome _ hbetween hgiven hpass hpath ih =>
    have hedits : Edits (fun _ => True) v v' := hbetween
    have hall : ∀ r ∈ v', True ∧ Conditions.WellFormed r.currentStatus.conditions :=
      (hedits.all (Q := fun status => Conditions.WellFormed status.conditions)
        fun r hr => ⟨trivial, ih r hr⟩).2
    have hheeds : ∀ exchange ∈ transcript, Saga.Heeds exchange := by
      rintro exchange hexchange written stored rfl
      obtain ⟨before, after, hanswers⟩ := hpath.exists_of_mem hexchange
      exact status_eq_of_answers hanswers
    refine hpath.invariant_of_mem
      (fun versions => ∀ r ∈ versions, Conditions.WellFormed r.currentStatus.conditions)
      (fun r hr => (hall r hr).2) ?_
    rintro versions ⟨question, answer⟩ versions' hmem hversions ⟨between, hedits, hanswers⟩ r hr
    have hcurrent : ∀ r ∈ between, True ∧ Conditions.WellFormed r.currentStatus.conditions :=
      (hedits.all (Q := fun status => Conditions.WellFormed status.conditions)
        fun r hr => ⟨trivial, hversions r hr⟩).2
    refine ((hanswers.all (Q := fun status => Conditions.WellFormed status.conditions)
      hcurrent ?_).2 r hr).2
    rintro written ⟨⟩
    -- What is written promotes a condition in the history of the copy in hand.
    obtain ⟨before, after, rfl⟩ := List.append_of_mem hmem
    obtain ⟨copy, hcopy, status, hconditions, message, now, rfl⟩ :=
      (Saga.writing_of_yields hpass).exists_posted
    have hwell := hcopy.wellFormed hpass (fun e he => hheeds e (by simp [he])) (hall _ hgiven).2
    exact Conditions.WellFormed.promote (hconditions ▸ hwell)

end Versions

namespace Saga

open Activity (Asks Gives)
open Dialogue (Yields)
open Quiescence (Report)
open Swapping (around)

/-! ## What a pass finds

The report of a pass is read off the beginning of its transcript, where the objects are listed. So
it does not depend on how the pass goes on, and there is at most one. -/

/-- A question that changes nothing. -/
def Reads (question : Query) : Prop :=
  ∀ c, question = .call c → c.isWrite = false ∧ ∀ ns command, c ≠ .runCommand ns command

/-- A transcript in which nothing is written and no command is run. -/
def Silent (transcript : List Exchange) : Prop := ∀ exchange ∈ transcript, Reads exchange.1

/-- A call that was answered with a failure. -/
def Fails (exchange : Exchange) : Prop :=
  ∃ (c : Call) (failure : Failure),
    exchange = ⟨.call c, (.error failure : Except Failure c.Answer)⟩

/-- The hold-ups that a pass over a waiting request finds: a save lists its namespace, and a restore
finds its bundle first. -/
inductive Reports (settings : Settings) (given : Request) : List Exchange → Report → Prop
  | quiescing {ns : String} {listing rest : List Exchange} {inventory : Inventory}
    (hmode : given.spec.mode = .save) (hstate : given.state = .quiescing)
    (hns : requestNamespace given = .ok ns)
    (hcollect : Gives (collect settings ns) given listing inventory) :
    Reports settings given (listing ++ rest) (Quiescence.evaluate inventory)
  | reconciling {ns : String} {bundle : Bundle} {finding listing rest : List Exchange}
    {inventory : Inventory} (hmode : given.spec.mode.isRestore = true)
    (hstate : given.state = .reconciling) (hns : requestNamespace given = .ok ns)
    (hfind : Gives (sourceBundle ns) given finding bundle)
    (hcollect : Gives (collect settings ns) given listing inventory) :
    Reports settings given (finding ++ (listing ++ rest))
      (Quiescence.evaluateRestored bundle.content inventory)

/-- What a status says while it waits for what a report lists. -/
def waitingMessage (state : State) (report : Report) : String :=
  if state = .quiescing then "Waiting for controllers to finish: " ++ report.text
  else "Waiting for restored objects to reconcile: " ++ report.text

/-- A status with a well-formed history, whose current condition is that of its state and has some
message. -/
structure Announced (status : Request.Status) (message : String) : Prop where
  wellFormed : Conditions.WellFormed status.conditions
  stated : Condition.stated status.state.name status.state.name message ∈
    Conditions.withoutTimes status.conditions

variable {settings : Settings} {given request copy : Request} {report report' : Report}
  {status : Request.Status} {message : String} {transcript trace work rest : List Exchange}
  {exchange : Exchange} {ns : String}

theorem Reads.not_confirmed (h : Reads exchange.1) : ¬ Confirmed exchange := by
  rintro ⟨written, stored, rfl⟩
  have hread := (h _ rfl).1
  cases hread

theorem reads_clock : Reads .clock := by
  rintro c ⟨⟩

theorem reads_of_isListing {selector : String} {question : Query}
    (h : Inventory.IsListing ns selector question) : Reads question := by
  cases h <;> rintro _ ⟨⟩ <;> exact ⟨rfl, nofun⟩

theorem reads_getBundle (ns name : String) : Reads (.call (.getBundle ns name)) := by
  rintro _ ⟨⟩
  exact ⟨rfl, nofun⟩

/-- What is reported over a save is what it collects in the end. -/
theorem reports_save_iff (hmode : given.spec.mode = .save) (hns : requestNamespace given = .ok ns) :
    Reports settings given transcript report ↔
      given.state = .quiescing ∧ ∃ listing rest inventory, transcript = listing ++ rest ∧
        Gives (collect settings ns) given listing inventory ∧
        report = Quiescence.evaluate inventory := by
  constructor
  · intro h
    cases h with
    | quiescing _ hstate hns' hcollect =>
      obtain rfl := Except.ok.inj (hns.symm.trans hns')
      exact ⟨hstate, _, _, _, rfl, hcollect, rfl⟩
    | reconciling hrestore =>
      rw [hmode] at hrestore
      cases hrestore
  · rintro ⟨hstate, listing, rest, inventory, rfl, hcollect, rfl⟩
    exact .quiescing hmode hstate hns hcollect

theorem reports_restore_iff (hmode : given.spec.mode.isRestore = true)
    (hns : requestNamespace given = .ok ns) :
    Reports settings given transcript report ↔
      given.state = .reconciling ∧ ∃ finding listing rest bundle inventory,
        transcript = finding ++ (listing ++ rest) ∧ Gives (sourceBundle ns) given finding bundle ∧
        Gives (collect settings ns) given listing inventory ∧
        report = Quiescence.evaluateRestored bundle.content inventory := by
  constructor
  · intro h
    cases h with
    | quiescing hsave =>
      rw [hsave] at hmode
      cases hmode
    | reconciling _ hstate hns' hfind hcollect =>
      obtain rfl := Except.ok.inj (hns.symm.trans hns')
      exact ⟨hstate, _, _, _, _, _, rfl, hfind, hcollect, rfl⟩
  · rintro ⟨hstate, finding, listing, rest, bundle, inventory, rfl, hfind, hcollect, rfl⟩
    exact .reconciling hmode hstate hns hfind hcollect

/-- A pass finds one report. -/
theorem Reports.unique (h : Reports settings given transcript report)
    (h' : Reports settings given transcript report') : report = report' := by
  cases h with
  | quiescing hmode _ hns hcollect =>
    obtain ⟨-, _, _, _, hsame, hcollect', rfl⟩ := (reports_save_iff hmode hns).1 h'
    obtain ⟨-, hresult, -⟩ := Yields.unique hcollect hcollect' hsame
    cases hresult
    rfl
  | reconciling hmode _ hns hfind hcollect =>
    obtain ⟨-, _, _, _, _, _, hsame, hfind', hcollect', rfl⟩ := (reports_restore_iff hmode hns).1 h'
    obtain ⟨-, hresult, hrest⟩ := Yields.unique hfind hfind' hsame
    cases hresult
    obtain ⟨-, hresult, -⟩ := Yields.unique hcollect hcollect' hrest
    cases hresult
    rfl

/-- Reports of the same hold-ups are the same, in whatever order these were listed. -/
theorem Reports.eq_of_perm {given' : Request} {transcript' : List Exchange}
    (h : Reports settings given transcript report)
    (h' : Reports settings given' transcript' report')
    (hperm : report'.holdUps.Perm report.holdUps) :
    report' = report := by
  have hsorted : ∀ {given transcript report}, Reports settings given transcript report →
      ∃ found, report = .ofList found := by
    intro given transcript report h
    cases h with
    | quiescing => exact ⟨_, rfl⟩
    | reconciling => exact ⟨_, rfl⟩
  -- Both are in the one order that reports have.
  obtain ⟨found, rfl⟩ := hsorted h
  obtain ⟨found', rfl⟩ := hsorted h'
  exact Quiescence.ofList_eq_of_perm hperm

/-! ## The work over a waiting request

A waiting request is looked at without a change of anything. What may be written comes last: the
status that the request has already, with the hold-ups in its message, or the status of the next
state if there are none. -/

/-- The courses of the work over a waiting request: it fails before it comes to a report, it goes on
waiting because of what it reports, or it leaves the state because nothing is held up. -/
inductive Watches (settings : Settings) (given : Request) :
    List Exchange → Except Failure Unit × Request → Prop
  | lost {work : List Exchange} {failure : Failure} (hsilent : Silent work)
    (hunreported : ∀ ending report, ¬ Reports settings given (work ++ ending) report)
    (hcause : (∀ exchange ∈ work, ¬ Fails exchange) → failure.isTransient = false) :
    Watches settings given work (.error failure, given)
  | held {work rest : List Exchange} {report : Report} {result : Except Failure Unit × Request}
    (hsilent : Silent work)
    (hreports : ∀ ending, Reports settings given (work ++ ending) report)
    (hheld : report.quiesced = false)
    (hposts : Posts given.currentStatus (waitingMessage given.state report) given rest result) :
    Watches settings given (work ++ rest) result
  | released {work rest : List Exchange} {report : Report} {status : Request.Status}
    {message : String} {result : Except Failure Unit × Request} (hsilent : Silent work)
    (hreports : ∀ ending, Reports settings given (work ++ ending) report)
    (hquiesced : report.quiesced = true) (hstate : status.state ≠ given.state)
    (hposts : Posts status message given rest result) :
    Watches settings given (work ++ rest) result

theorem silent_nil : Silent [] := by
  rintro _ ⟨⟩

theorem silent_clock (now : Instant) : Silent [⟨.clock, now⟩] := by
  intro exchange hexchange
  rw [List.mem_singleton.1 hexchange]
  exact reads_clock

theorem Silent.append (h : Silent work) (h' : Silent rest) : Silent (work ++ rest) :=
  List.forall_mem_append.2 ⟨h, h'⟩

/-- In silence nothing is written. -/
theorem Silent.lastWritten_append (h : Silent work) :
    lastWritten given (work ++ rest) = lastWritten given rest :=
  Saga.lastWritten_append fun exchange hexchange => (h exchange hexchange).not_confirmed

/-- Without a failed call, whatever is spared by such surroundings does not fail. -/
theorem not_bad_of_answered {α : Type} {x : Pass α} {failure : Failure} {bad : Failure → Prop}
    (hspares : Activity.Spares (fun exchange => ¬ Fails exchange) bad x)
    (hx : Yields (x request) work (.error failure, copy))
    (hanswered : ∀ exchange ∈ work, ¬ Fails exchange) : ¬ bad failure :=
  Activity.Ensures.ends (hspares request) hx (Activity.path_hearing hanswered) failure rfl

theorem spared_of_answered (bad : Failure → Prop) :
    Activity.Spared (fun exchange => ¬ Fails exchange) bad := by
  intro c failure hanswered
  exact absurd ⟨c, failure, rfl⟩ hanswered

/-- A bundle is not found for a reason that stays, unless a call fails. -/
theorem sourceBundle_spares :
    Activity.Spares (fun exchange => ¬ Fails exchange) (fun failure => failure.isTransient = true)
      (sourceBundle ns) := by
  refine .bind .get fun request => ?_
  dsimp only
  split
  · exact .throw (by simp [Failure.isTransient])
  · refine .bind (.call (spared_of_answered _) _) fun found => ?_
    split
    · exact .pure _
    · exact .throw (by simp [Failure.isTransient])

/-- A collection gives its inventory, or it fails because of a call and there is no report. -/
theorem collect_cases {β : Type} {f : Inventory → Pass β} {result : Except Failure β × Request}
    (h : Yields ((collect settings ns >>= f) given) work result) :
    (∃ listing rest inventory, work = listing ++ rest ∧ Silent listing ∧
      Gives (collect settings ns) given listing inventory ∧
      Yields (f inventory given) rest result) ∨
    ∃ failure, result = (.error failure, given) ∧ Silent work ∧
      (∃ exchange ∈ work, Fails exchange) ∧
      Yields (collect settings ns given) work (.error failure, given) := by
  have hasks : Asks (Inventory.IsListing ns settings.managedSelector) (collect settings ns) :=
    Inventory.collect_asks ns settings.managedSelector
  rcases Activity.yields_bind.1 h with
    ⟨listing, rest, inventory, copy, rfl, hcollect, hf⟩ | ⟨failure, copy, hcollect, rfl⟩
  · obtain ⟨rfl, hlisting⟩ := hasks.of_yields hcollect
    exact .inl ⟨listing, rest, inventory, rfl, fun e he => reads_of_isListing (hlisting e he),
      hcollect, hf⟩
  · obtain ⟨rfl, hlisting⟩ := hasks.of_yields hcollect
    refine .inr ⟨failure, rfl, fun e he => reads_of_isListing (hlisting e he), ?_, hcollect⟩
    by_contra hanswered
    have hspares : Activity.Spares (fun exchange => ¬ Fails exchange) (fun _ => True)
        (collect settings ns) := Inventory.collect_spares (spared_of_answered _) ns _
    refine not_bad_of_answered hspares hcollect ?_ trivial
    exact fun exchange hexchange hfails => hanswered ⟨exchange, hexchange, hfails⟩

/-- To go to the state that a request is in is to write the status that it has. -/
theorem posts_transition_same {state : State} {result : Except Failure Unit × Request}
    (hstate : request.state = state) (h : Yields (transition state message request) trace result) :
    Posts request.currentStatus message request trace result := by
  subst hstate
  exact posts_transition h

theorem not_isTransient_of_requestNamespace {failure : Failure}
    (h : requestNamespace given = .error failure) : failure.isTransient = false := by
  rw [requestNamespace] at h
  split at h
  · cases h
  · cases h
    rfl

/-- A request without a namespace is lost, whatever its mode. -/
theorem watches_of_unplaced {failure : Failure} (hns : requestNamespace given = .error failure) :
    Watches settings given [] (.error failure, given) := by
  refine .lost silent_nil ?_ fun _ => not_isTransient_of_requestNamespace hns
  rintro ending report (⟨-, -, hns'⟩ | ⟨-, -, hns'⟩)
  · rw [hns] at hns'
    cases hns'
  · rw [hns] at hns'
    cases hns'

/-- In a state that is not one of its mode, a request is lost. -/
theorem watches_of_invalid {reason : String} (hsilent : Silent work)
    (hsave : given.spec.mode = .save → given.state ≠ .quiescing)
    (hrestore : given.spec.mode.isRestore = true → given.state ≠ .reconciling) :
    Watches settings given work (.error (.invalidState reason), given) := by
  refine .lost hsilent ?_ fun _ => rfl
  intro ending report hreports
  generalize work ++ ending = transcript at hreports
  cases hreports with
  | quiescing hmode hstate => exact hsave hmode hstate
  | reconciling hmode hstate => exact hrestore hmode hstate

theorem ne_empty_of_waiting (hwaiting : given.state = .quiescing ∨ given.state = .reconciling) :
    given.state ≠ .empty := by
  rcases hwaiting with h | h <;> rw [h] <;> decide

theorem isOpen_of_waiting (hwaiting : given.state = .quiescing ∨ given.state = .reconciling) :
    given.state.isTerminal = false := by
  rcases hwaiting with h | h <;> rw [h] <;> rfl

/-- A save that waits for its controllers. -/
theorem quiesce_watches {result : Except Failure Unit × Request} (hmode : given.spec.mode = .save)
    (hstate : given.state = .quiescing) (hwork : Yields (quiesce settings given) work result) :
    Watches settings given work result := by
  rw [quiesce, Activity.yields_get_bind] at hwork
  cases hns : requestNamespace given with
  | error failure =>
    rw [hns] at hwork
    obtain ⟨rfl, rfl⟩ := Activity.yields_throw.1 hwork
    exact watches_of_unplaced hns
  | ok ns =>
    rw [hns] at hwork
    change Yields ((collect settings ns >>= fun inventory => _) given) work result at hwork
    rcases collect_cases hwork with
      ⟨listing, rest, inventory, rfl, hsilent, hcollect, hrest⟩ |
      ⟨failure, rfl, hsilent, ⟨exchange, hexchange, hfails⟩, hcollect⟩
    · have hreports : ∀ ending, Reports settings given (listing ++ ending) _ :=
        fun ending => .quiescing hmode hstate hns hcollect
      dsimp only at hrest
      split at hrest
      case isTrue hquiesced =>
        refine .released hsilent hreports hquiesced ?_ (posts_transition hrest)
        rw [hstate]
        intro hsame
        cases hsame
      case isFalse hheld =>
        refine .held hsilent hreports (Bool.eq_false_iff.2 hheld) ?_
        rw [waitingMessage, if_pos hstate]
        exact posts_transition_same hstate hrest
    · refine .lost hsilent ?_ fun hanswered => absurd hfails (hanswered exchange hexchange)
      intro ending report hreports
      obtain ⟨-, _, _, _, hsame, hcollect', -⟩ := (reports_save_iff hmode hns).1 hreports
      obtain ⟨-, hresult, -⟩ := Yields.unique hcollect hcollect' hsame
      cases hresult

/-- The same for a restore that has found its bundle. -/
theorem awaitRestored_watches {bundle : Bundle} {finding : List Exchange}
    {result : Except Failure Unit × Request} (hmode : given.spec.mode.isRestore = true)
    (hstate : given.state = .reconciling) (hns : requestNamespace given = .ok ns)
    (hfind : Gives (sourceBundle ns) given finding bundle) (hfinding : Silent finding)
    (hwork : Yields (awaitRestored settings ns bundle given) work result) :
    Watches settings given (finding ++ work) result := by
  rw [awaitRestored] at hwork
  rcases collect_cases hwork with
    ⟨listing, rest, inventory, rfl, hsilent, hcollect, hrest⟩ |
    ⟨failure, rfl, hsilent, ⟨exchange, hexchange, hfails⟩, hcollect⟩
  · have hreports : ∀ ending, Reports settings given (finding ++ (listing ++ ending)) _ :=
      fun ending => .reconciling hmode hstate hns hfind hcollect
    dsimp only at hrest
    split at hrest
    case isTrue hquiesced =>
      rw [Activity.yields_get_bind] at hrest
      rcases Activity.yields_bind.1 hrest with
        ⟨_, rest, now, _, rfl, hnow, hrest⟩ | ⟨failure, _, hnow, rfl⟩
      · obtain ⟨instant, rfl, ⟨⟩⟩ := Activity.yields_now.1 hnow
        rw [← List.append_assoc, ← List.append_assoc]
        refine .released ?_ (fun ending => ?_) hquiesced ?_ (posts_of_yields hrest)
        · exact (hfinding.append hsilent).append (silent_clock _)
        · rw [List.append_assoc, List.append_assoc]
          exact hreports _
        · rw [hstate]
          intro hsame
          cases hsame
      · obtain ⟨instant, -, ⟨⟩⟩ := Activity.yields_now.1 hnow
    case isFalse hheld =>
      rw [← List.append_assoc]
      refine .held (hfinding.append hsilent) (fun ending => ?_) (Bool.eq_false_iff.2 hheld) ?_
      · rw [List.append_assoc]
        exact hreports ending
      · rw [waitingMessage, if_neg (by rw [hstate]; decide)]
        exact posts_transition_same hstate hrest
  · refine .lost (hfinding.append hsilent) ?_ fun hanswered =>
      absurd hfails (hanswered exchange (List.mem_append_right _ hexchange))
    intro ending report hreports
    rw [List.append_assoc] at hreports
    obtain ⟨-, _, _, _, _, _, hsame, hfind', hcollect', -⟩ :=
      (reports_restore_iff hmode hns).1 hreports
    obtain ⟨-, -, hrest⟩ := Yields.unique hfind hfind' hsame
    obtain ⟨-, hresult, -⟩ := Yields.unique hcollect hcollect' hrest
    cases hresult

theorem restorePass_watches {result : Except Failure Unit × Request}
    (hmode : given.spec.mode.isRestore = true)
    (hwaiting : given.state = .quiescing ∨ given.state = .reconciling)
    (hwork : Yields (restorePass settings given) work result) :
    Watches settings given work result := by
  have hempty := ne_empty_of_waiting hwaiting
  have hsave : given.spec.mode ≠ .save := by
    intro hsave
    rw [hsave] at hmode
    cases hmode
  rw [restorePass, Activity.yields_get_bind] at hwork
  cases hns : requestNamespace given with
  | error failure =>
    rw [hns] at hwork
    obtain ⟨rfl, rfl⟩ := Activity.yields_throw.1 hwork
    exact watches_of_unplaced hns
  | ok ns =>
    rw [hns] at hwork
    change Yields ((sourceBundle ns >>= restoreFrom settings ns) given) work result at hwork
    have hreads : ∀ question, (∃ name, question = .call (.getBundle ns name)) → Reads question := by
      rintro _ ⟨name, rfl⟩
      exact reads_getBundle ns name
    rcases Activity.yields_bind.1 hwork with
      ⟨finding, rest, bundle, copy, rfl, hfind, hrest⟩ | ⟨failure, copy, hfind, rfl⟩
    · obtain ⟨rfl, hfinding⟩ := (sourceBundle_asks ns).of_yields hfind
      have hfinding : Silent finding := fun e he => hreads _ (hfinding e he)
      rw [restoreFrom, Activity.yields_get_bind, if_neg hempty] at hrest
      change Yields (restorePhase settings ns bundle copy) rest result at hrest
      rw [restorePhase, Activity.yields_get_bind] at hrest
      rcases hwaiting with hstate | hstate
      · simp only [hstate] at hrest
        obtain ⟨rfl, rfl⟩ := Activity.yields_throw.1 hrest
        rw [List.append_nil]
        refine watches_of_invalid hfinding (fun h => absurd h hsave) fun _ => ?_
        rw [hstate]
        decide
      · simp only [hstate] at hrest
        exact awaitRestored_watches hmode hstate hns hfind hfinding hrest
    · obtain ⟨rfl, hfinding⟩ := (sourceBundle_asks ns).of_yields hfind
      refine .lost (fun e he => hreads _ (hfinding e he)) ?_ fun hanswered => ?_
      · intro ending report hreports
        obtain ⟨-, _, _, _, _, _, hsame, hfind', -⟩ := (reports_restore_iff hmode hns).1 hreports
        obtain ⟨-, hresult, -⟩ := Yields.unique hfind hfind' hsame
        cases hresult
      · exact Bool.eq_false_iff.2 (not_bad_of_answered sourceBundle_spares hfind hanswered)

/-- The work over a waiting request takes one of these courses. -/
theorem watches_of_yields {result : Except Failure Unit × Request}
    (hwaiting : given.state = .quiescing ∨ given.state = .reconciling)
    (hwork : Yields (pass settings given.spec.mode given) work result) :
    Watches settings given work result := by
  cases hmode : given.spec.mode with
  | save =>
    rw [hmode] at hwork
    change Yields (savePass settings given) work result at hwork
    rw [savePass, Activity.yields_get_bind, if_neg (ne_empty_of_waiting hwaiting)] at hwork
    change Yields (savePhase settings given) work result at hwork
    rw [savePhase, Activity.yields_get_bind] at hwork
    rcases hwaiting with hstate | hstate
    · simp only [hstate] at hwork
      exact quiesce_watches hmode hstate hwork
    · simp only [hstate] at hwork
      obtain ⟨rfl, rfl⟩ := Activity.yields_throw.1 hwork
      refine watches_of_invalid silent_nil (fun _ => ?_) fun hrestore => ?_
      · rw [hstate]
        decide
      · rw [hmode] at hrestore
        cases hrestore
  | restore =>
    rw [hmode] at hwork
    exact restorePass_watches (by rw [hmode]; rfl) hwaiting hwork
  | cleanRestore =>
    rw [hmode] at hwork
    exact restorePass_watches (by rw [hmode]; rfl) hwaiting hwork

/-! ## Passes over a waiting request

A pass that goes on waiting leaves a status whose current condition says what is reported, whether
it had to write that or not. Once the status says so, promoting the same condition again changes
times only, which is not worth a write. -/

/-- A status that could be written is the last one that was. -/
theorem Posts.of_answered {result : Except Failure Unit × Request}
    (h : Posts status message request trace result)
    (hanswered : ∀ exchange ∈ trace, ¬ Fails exchange) :
    result.1 = .ok () ∧ (lastWritten request trace).state = status.state := by
  cases h with
  | needless hagrees => exact ⟨rfl, (Request.Status.agrees_iff.1 hagrees).1⟩
  | refused hdiffers =>
    exact absurd ⟨_, _, rfl⟩ (hanswered _ (List.mem_cons_of_mem _ List.mem_cons_self))
  | stored hdiffers => exact ⟨rfl, rfl⟩

/-- If a status could be written over a well-formed history, its message is that of the current
condition. -/
theorem Posts.announced {result : Except Failure Unit × Request}
    (h : Posts request.currentStatus message request trace result)
    (hanswered : ∀ exchange ∈ trace, ¬ Fails exchange)
    (hwell : Conditions.WellFormed request.currentStatus.conditions) :
    Announced (lastWritten request trace).currentStatus message := by
  cases h with
  | needless hagrees =>
    -- What was to be written agrees with what there is, so it is there already.
    obtain ⟨-, -, -, hsame⟩ := Request.Status.agrees_iff.1 hagrees
    refine ⟨hwell, ?_⟩
    change _ ∈ Conditions.withoutTimes request.currentStatus.conditions
    rw [hsame]
    exact Conditions.stated_mem_promote
  | refused hdiffers =>
    exact absurd ⟨_, _, rfl⟩ (hanswered _ (List.mem_cons_of_mem _ List.mem_cons_self))
  | stored hdiffers => exact ⟨hwell.promote, Conditions.stated_mem_promote⟩

/-- A status that says so already agrees with what would be written, whatever the clock says. -/
theorem Announced.agrees (h : Announced status message) (now : Instant) :
    status.agrees (status.announced now message) = true := by
  have hsame : Conditions.withoutTimes (status.announced now message).conditions =
      Conditions.withoutTimes status.conditions :=
    Conditions.withoutTimes_promote h.wellFormed h.stated
  exact Request.Status.agrees_iff.2 ⟨rfl, rfl, rfl, hsame.symm⟩

theorem Announced.needless {result : Except Failure Unit × Request}
    (h : Announced request.currentStatus message)
    (hposts : Posts request.currentStatus message request trace result) :
    result = (.ok (), request) ∧ Silent trace := by
  cases hposts with
  | needless hagrees => exact ⟨rfl, silent_clock _⟩
  | refused hdiffers => rw [h.agrees] at hdiffers; cases hdiffers
  | stored hdiffers => rw [h.agrees] at hdiffers; cases hdiffers

/-- Unless a call fails, work that fails has come to no report, and it fails for good. -/
theorem Watches.of_error {failure : Failure}
    (h : Watches settings given work (.error failure, copy))
    (hanswered : ∀ exchange ∈ work, ¬ Fails exchange) :
    copy = given ∧ Silent work ∧ failure.isTransient = false := by
  generalize hresult : (_, copy) = result at h
  cases h with
  | lost hsilent _ hcause =>
    cases hresult
    exact ⟨rfl, hsilent, hcause hanswered⟩
  | held _ _ _ hposts | released _ _ _ _ hposts =>
    -- The only call after the report writes the status, and it was answered.
    obtain ⟨-, hrest⟩ := List.forall_mem_append.1 hanswered
    have hok := (hposts.of_answered hrest).1
    cases hresult
    cases hok

/-- A pass that leaves a request waiting, and in which no call fails, has reported what holds it up,
and the status says so. -/
theorem exists_report {outcome : Except Failure Action × Request}
    (hwell : Conditions.WellFormed given.currentStatus.conditions)
    (hwaiting : given.state = .quiescing ∨ given.state = .reconciling)
    (hpass : Yields (reconcile settings given) transcript outcome)
    (hanswered : ∀ exchange ∈ transcript, ¬ Fails exchange)
    (hstay : (lastWritten given transcript).state = given.state) :
    ∃ report, Reports settings given transcript report ∧ report.quiesced = false ∧
      Announced (lastWritten given transcript).currentStatus (waitingMessage given.state report) := by
  have hopen := isOpen_of_waiting hwaiting
  have hcourse := course_of_yields hpass
  cases hcourse with
  | idle hend =>
    rw [hopen] at hend
    cases hend
  | worked _ hwork =>
    have hwatches := watches_of_yields hwaiting hwork
    generalize hresult : (_, _) = result at hwatches
    cases hwatches with
    | lost => cases hresult
    | @held work rest report _ hsilent hreports hheld hposts =>
      obtain ⟨-, hrest⟩ := List.forall_mem_append.1 hanswered
      refine ⟨report, hreports rest, hheld, ?_⟩
      rw [hsilent.lastWritten_append]
      exact hposts.announced hrest hwell
    | @released work rest report status message _ hsilent hreports _ hstate hposts =>
      obtain ⟨-, hrest⟩ := List.forall_mem_append.1 hanswered
      rw [hsilent.lastWritten_append, (hposts.of_answered hrest).2] at hstay
      exact absurd hstay hstate
  | retried _ hwork htransient =>
    obtain ⟨-, -, hfatal⟩ := (watches_of_yields hwaiting hwork).of_error hanswered
    rw [hfatal] at htransient
    cases htransient
  | @failed work ending _ _ _ _ _ hwork hfatal hending =>
    obtain ⟨hworking, hlast⟩ := List.forall_mem_append.1 hanswered
    obtain ⟨hcopy, hsilent, -⟩ := (watches_of_yields hwaiting hwork).of_error hworking
    rw [hcopy] at hending
    -- The failure was recorded, so the request waits no longer.
    rw [hsilent.lastWritten_append, (hending.of_answered hlast).2] at hstay
    have hend := Mode.isTerminal_errorState given.spec.mode
    rw [show given.spec.mode.errorState = given.state from hstay, hopen] at hend
    cases hend

/-- A pass over a request whose status says already what the pass reports changes nothing. -/
theorem silent_of_reports {outcome : Except Failure Action × Request}
    (hwaiting : given.state = .quiescing ∨ given.state = .reconciling)
    (hpass : Yields (reconcile settings given) transcript outcome)
    (hreports : Reports settings given transcript report) (hheld : report.quiesced = false)
    (hannounced : Announced given.currentStatus (waitingMessage given.state report)) :
    Silent transcript := by
  obtain ⟨work, ending, outcome, copy, rfl, hwork, hending⟩ :=
    (course_of_yields hpass).exists_work (isOpen_of_waiting hwaiting)
  have hwatches := watches_of_yields hwaiting hwork
  generalize hresult : (outcome, copy) = result at hwatches
  cases hwatches with
  | lost _ hunreported => exact absurd hreports (hunreported ending report)
  | @held work rest report' _ hsilent hreports' _ hposts =>
    rw [List.append_assoc] at hreports
    obtain rfl := hreports.unique (hreports' _)
    obtain ⟨hdone, hrest⟩ := hannounced.needless hposts
    obtain rfl := hending (congrArg Prod.fst (hresult.trans hdone))
    rw [List.append_nil]
    exact hsilent.append hrest
  | @released work rest report' _ _ _ _ hreports' hquiesced _ _ =>
    rw [List.append_assoc] at hreports
    obtain rfl := hreports.unique (hreports' _)
    rw [hquiesced] at hheld
    cases hheld

/-- Passes over the stored request, one after another, that report the same hold-ups. Others may
write the request between them, and so may passes over it that store no status, like those that
fail. -/
inductive Waits (settings : Settings) (others : Request → Request → Prop) (holdUps : List HoldUp)
    (stored : Request) : List (List Exchange) → Request → Prop
  | start : Waits settings others holdUps stored [] stored
  | others {passes : List (List Exchange)} {last after : Request}
    (hwaits : Waits settings others holdUps stored passes last) (hothers : others last after) :
    Waits settings others holdUps stored passes after
  | missed {passes : List (List Exchange)} {transcript : List Exchange} {last after : Request}
    {outcome : Except Failure Action × Request}
    (hwaits : Waits settings others holdUps stored passes last)
    (hpass : Yields (reconcile settings last) transcript outcome)
    (hpath : (around others).Path last transcript after)
    (hunconfirmed : ∀ exchange ∈ transcript, ¬ Confirmed exchange) :
    Waits settings others holdUps stored passes after
  | pass {passes : List (List Exchange)} {transcript : List Exchange} {last after : Request}
    {outcome : Except Failure Action × Request} {report : Report}
    (hwaits : Waits settings others holdUps stored passes last)
    (hpass : Yields (reconcile settings last) transcript outcome)
    (hpath : (around others).Path last transcript after)
    (hreports : Reports settings last transcript report)
    (hsame : report.holdUps.Perm holdUps) :
    Waits settings others holdUps stored (passes ++ [transcript]) after

/-- What stores no status leaves the stored request to others. -/
theorem others_of_path {others : Request → Request → Prop} {stored after : Request}
    (hpath : (around others).Path stored transcript after)
    (hunconfirmed : ∀ exchange ∈ transcript, ¬ Confirmed exchange) :
    Relation.ReflTransGen others stored after := by
  refine hpath.invariant_of_mem (Relation.ReflTransGen others stored) .refl ?_
  rintro before exchange after hmem hbefore ⟨current, hothers, hswaps⟩
  exact hswaps.eq (hunconfirmed exchange hmem) ▸ hbefore.trans hothers

/-- While the same hold-ups are reported and the status says so, nothing is written. -/
theorem Waits.silent {others : Request → Request → Prop} {stored last : Request}
    {passes : List (List Exchange)}
    (hothers : ∀ before after, others before after → after.status = before.status)
    (hwaiting : stored.state = .quiescing ∨ stored.state = .reconciling)
    (hreports : Reports settings given transcript report) (hheld : report.quiesced = false)
    (hannounced : Announced stored.currentStatus (waitingMessage stored.state report))
    (h : Waits settings others report.holdUps stored passes last) :
    (∀ pass ∈ passes, Silent pass) ∧ Relation.ReflTransGen others stored last := by
  induction h with
  | start => exact ⟨by simp, .refl⟩
  | others _ hwrite ih => exact ⟨ih.1, ih.2.tail hwrite⟩
  | missed _ _ hpath hunconfirmed ih => exact ⟨ih.1, ih.2.trans (others_of_path hpath hunconfirmed)⟩
  | @pass passes transcript last after outcome report' hwaits hpass hpath hreports' hsame ih =>
    obtain ⟨hsilent, hlast⟩ := ih
    -- Nobody has written a status since, so the status still says what is reported.
    have hstatus : last.status = stored.status := Swapping.status_eq_of_others hothers hlast
    have hcurrent := Versions.currentStatus_congr hstatus
    have hstate : last.state = stored.state := congrArg Request.Status.state hcurrent
    obtain rfl := hreports.eq_of_perm hreports' hsame
    have hquiet : Silent transcript := by
      refine silent_of_reports (hstate ▸ hwaiting) hpass hreports' hheld ?_
      rwa [hcurrent, hstate]
    refine ⟨?_, hlast.trans (others_of_path hpath fun e he => (hquiet e he).not_confirmed)⟩
    rintro pass hmem
    rcases List.mem_append.1 hmem with hmem | hmem
    · exact hsilent pass hmem
    · rw [List.mem_singleton.1 hmem]
      exact hquiet

/-- After a pass in which no call fails and that leaves a request waiting, no pass that reports the
same hold-ups writes anything, and only others change the request. -/
theorem silent_of_waits {first : Request} {others : Request → Request → Prop} {stored : Request}
    {transcripts : List (List Exchange)} {versions : List Request}
    {outcome : Except Failure Action × Request} (hstart : first.status = none)
    (hrun : Runs (Versions.surroundings fun _ => True) settings [first] transcripts versions)
    (hgiven : given ∈ versions)
    (hothers : ∀ before after, others before after → after.status = before.status)
    (hwaiting : given.state = .quiescing ∨ given.state = .reconciling)
    (hpass : Yields (reconcile settings given) transcript outcome)
    (hpath : (around others).Path given transcript stored)
    (hanswered : ∀ exchange ∈ transcript, ¬ Fails exchange) (hstay : stored.state = given.state) :
    ∃ report, Reports settings given transcript report ∧ report.quiesced = false ∧
      ∀ passes last, Waits settings others report.holdUps stored passes last →
        (∀ pass ∈ passes, Silent pass) ∧ Relation.ReflTransGen others stored last := by
  have hwell := Versions.wellFormed_of_runs hstart hrun given hgiven
  have hcurrent := Versions.currentStatus_congr (Swapping.status_eq_lastWritten hothers hpath)
  have hlast : (lastWritten given transcript).state = given.state :=
    (congrArg Request.Status.state hcurrent).symm.trans hstay
  obtain ⟨report, hreports, hheld, hannounced⟩ :=
    exists_report hwell hwaiting hpass hanswered hlast
  refine ⟨report, hreports, hheld, fun passes last hwaits => ?_⟩
  refine hwaits.silent hothers (hstay ▸ hwaiting) hreports hheld ?_
  rwa [hcurrent, hstay]

/-! ## Two sets that hold a save up -/

section Held

/-- Whether an exchange is a call that was answered with a failure. -/
def isFailed : Exchange → Bool
  | ⟨.clock, _⟩ => false
  | ⟨.call c, answer⟩ =>
    match (answer : Except Failure c.Answer) with
    | .ok _ => false
    | .error _ => true

theorem isFailed_iff : isFailed exchange = true ↔ Fails exchange := by
  constructor
  · intro h
    rcases exchange with ⟨_ | c, answer⟩
    · cases h
    · change Except Failure c.Answer at answer
      cases answer with
      | ok => cases h
      | error failure => exact ⟨c, failure, rfl⟩
  · rintro ⟨c, failure, rfl⟩
    rfl

instance : DecidablePred Fails := fun _ => decidable_of_iff _ isFailed_iff

/-- A set that has not reported a state yet. -/
def unfinishedSet (name : String) : Resource where
  metadata := { name := some name }

/-- Some sets, and no objects of other kinds. -/
def onlySets (sets : List Resource) : ManagedKind → List Resource
  | .vmSet => sets
  | _ => []

/-- Lists some sets and nothing else, and stores a status that was made from the stored version. -/
def listSets (sets : List Resource) (now : Instant) :
    (question : Query) → Request → question.Answer × Request
  | .clock, stored => (now, stored)
  | .call (.listManaged _ kind), stored =>
    ((.ok (onlySets sets kind) : Except Failure (List Resource)), stored)
  | .call (.listConfigMaps _ _), stored => ((.ok [] : Except Failure (List ConfigMap)), stored)
  | .call (.listSecrets _ _), stored => ((.ok [] : Except Failure (List Secret)), stored)
  | .call (.updateStatus written), stored => Swapping.write written stored
  | .call c, stored => ((.error (.api "not served") : Except Failure c.Answer), stored)

/-- Others write whatever they like, except the status. -/
def KeepsStatus (before after : Request) : Prop := after.status = before.status

theorem path_listSets (sets : List Resource) (now : Instant) (given : Request) :
    (around KeepsStatus).Path given ((reconcile {} given).transcript (listSets sets now) given)
      ((reconcile {} given).run (listSets sets now) given).2 := by
  refine Dialogue.path_transcript (listSets sets now) (fun question stored => ?_) _ given
  refine ⟨stored, .refl, ?_⟩
  cases question with
  | clock => exact .other (by simp)
  | call c =>
    cases c with
    | updateStatus written => exact Swapping.swaps_write written stored
    | _ => exact .other (by simp)

/-- A pass over a waiting save reports what is listed. -/
theorem Reports.eq_evaluate {sets : List Resource} {now : Instant}
    (hmode : given.spec.mode = .save) (h : Reports {} given
      ((reconcile {} given).transcript (listSets sets now) given) report) :
    report = Quiescence.evaluate (Inventory.gather (onlySets sets) [] []) := by
  have hpath := Dialogue.path_transcript (listSets sets now)
    (R := fun w exchange v => listSets sets now exchange.1 w = (exchange.2, v)) (fun _ _ => rfl)
    (reconcile {} given) given
  generalize (reconcile {} given).transcript (listSets sets now) given = transcript at h hpath
  cases h with
  | @quiescing ns _ _ inventory _ _ _ hcollect =>
    obtain ⟨v, hpath, -⟩ := Respondent.path_append.1 hpath
    have hrun := hcollect.run_eq (listSets sets now) hpath
    have hlisted : (collect {} ns given).run (listSets sets now) given =
      ((.ok (Inventory.gather (onlySets sets) [] []), given), given) := rfl
    cases hrun.symm.trans hlisted
    rfl
  | reconciling hrestore =>
    rw [hmode] at hrestore
    cases hrestore

/-- A set that was provisioned. -/
def finishedSet (name : String) : Resource where
  metadata := { name := some name }
  fields := .ofList [("status", .object [("provisioningStatus",
    .object [("state", .str "Provisioned")])])]

/-- The first pass over the save, with the versions that are stored then. -/
def firstTurn : List Exchange × List Request :=
  Versions.turn Swapping.nightly (onlySets [unfinishedSet "vm-a"]) [] [Swapping.nightly]

/-- The save after its first pass, in which it waits for one set. -/
def waiting : Request := firstTurn.2.headD Swapping.nightly

/-- The pass that comes then, in which it waits for another set. -/
def secondPass : List Exchange :=
  (reconcile {} waiting).transcript (listSets [unfinishedSet "vm-b"] ⟨60, 0⟩) waiting

/-- The save after that pass. -/
def stillWaiting : Request :=
  ((reconcile {} waiting).run (listSets [unfinishedSet "vm-b"] ⟨60, 0⟩) waiting).2

/-- The same save after somebody else has written it. -/
def touched : Request where
  metadata := { stillWaiting.metadata with resourceVersion := some "7" }
  spec := stillWaiting.spec
  status := stillWaiting.status

/-- The pass over it that comes last. It waits for the same set, while the first one is finished. -/
def lastPass : List Exchange :=
  (reconcile {} touched).transcript
    (listSets [finishedSet "vm-a", unfinishedSet "vm-b"] ⟨120, 0⟩) touched

/-- The second pass says in the status which set it waits for, so the last one writes nothing. -/
theorem nightly_silent :
    waiting.currentStatus.conditions.map (·.message) =
        [some "Waiting for controllers to finish: [VmSet: vm-a]"] ∧
      stillWaiting.currentStatus.conditions.map (·.message) =
        [some "Waiting for controllers to finish: [VmSet: vm-b]"] ∧
      Silent lastPass := by
  have hrun : Runs (Versions.surroundings fun _ => True) {} [Swapping.nightly] [firstTurn.1]
      firstTurn.2 :=
    Versions.runs_turn (fun _ => trivial) .start (List.mem_singleton_self Swapping.nightly)
      (onlySets [unfinishedSet "vm-a"]) []
  have hgiven : waiting ∈ firstTurn.2 := by decide +kernel
  have hkeeps : ∀ before after, KeepsStatus before after → after.status = before.status :=
    fun _ _ => id
  have hwaiting : waiting.state = .quiescing := by decide +kernel
  have hanswered : ∀ exchange ∈ secondPass, ¬ Fails exchange := by decide +kernel
  obtain ⟨report, hreports, -, hsilent⟩ := silent_of_waits rfl hrun hgiven hkeeps (.inl hwaiting)
    (Dialogue.yields_transcript _ _ waiting) (path_listSets _ _ waiting) hanswered
    (by decide +kernel)
  -- The last pass reports the same hold-up.
  have hwell : Conditions.WellFormed touched.currentStatus.conditions := by
    constructor <;> decide +kernel
  have hlast : ∀ exchange ∈ lastPass, ¬ Fails exchange := by decide +kernel
  obtain ⟨report', hreports', -, -⟩ := exists_report hwell (.inl (by decide +kernel))
    (Dialogue.yields_transcript _ _ touched) hlast (by decide +kernel)
  have hsame : report' = report := by
    rw [hreports.eq_evaluate (by decide +kernel), hreports'.eq_evaluate (by decide +kernel)]
    decide +kernel
  have hwaits : Waits {} KeepsStatus report.holdUps stillWaiting [lastPass] _ :=
    .pass (.others .start (rfl : KeepsStatus stillWaiting touched))
      (Dialogue.yields_transcript _ _ touched) (path_listSets _ _ touched) hreports'
      (.of_eq (congrArg Quiescence.Report.holdUps hsame))
  exact ⟨by decide +kernel, by decide +kernel, (hsilent _ _ hwaits).1 _ (List.mem_singleton_self _)⟩

end Held

end Saga

end NamespaceBackup
