import NamespaceBackup.Proofs.Journals
import NamespaceBackup.Proofs.Runs

/-!
# The courses of a pass

A transcript of an activity is cut where its parts meet, and what each part did is read off its own
stretch. In this way a transcript of a pass tells which course the pass took: nothing was left to
do, its work succeeded, or it failed with a failure that is left to a later pass, or for good.

## Main definitions

* `Saga.Posts`: the courses of a status write
* `Saga.Course`: the courses of a pass

## Main results

* `Dialogue.Yields.unique`: a dialogue stops at one point of its transcript only
* `Activity.yields_bind`: where two activities meet
* `Saga.posts_of_yields`, `Saga.course_of_yields`: there are no other courses
-/

namespace NamespaceBackup

namespace Dialogue

variable {Question : Type} {Answer : Question → Type} {α : Type}
  {d : Dialogue Question Answer α} {first first' rest rest' : List (Exchange Question Answer)}
  {result result' : α}

@[simp] theorem yields_finish {trace : List (Exchange Question Answer)} :
    (finish result : Dialogue Question Answer α).Yields trace result' ↔
      trace = [] ∧ result' = result := by
  constructor
  · intro h
    cases h
    exact ⟨rfl, rfl⟩
  · rintro ⟨rfl, rfl⟩
    exact .finish result'

@[simp] theorem yields_ask {question : Question}
    {next : Answer question → Dialogue Question Answer α}
    {trace : List (Exchange Question Answer)} :
    (ask question next).Yields trace result ↔
      ∃ answer rest, trace = ⟨question, answer⟩ :: rest ∧ (next answer).Yields rest result := by
  constructor
  · intro h
    cases h with
    | ask h => exact ⟨_, _, rfl, h⟩
  · rintro ⟨answer, rest, rfl, h⟩
    exact .ask h

/-- A dialogue stops at one point of its transcript only, with one result. -/
theorem Yields.unique (h : d.Yields first result) (h' : d.Yields first' result')
    (heq : first ++ rest = first' ++ rest') : first = first' ∧ result = result' ∧ rest = rest' := by
  induction h generalizing first' with
  | finish result =>
    obtain ⟨rfl, rfl⟩ := yields_finish.1 h'
    exact ⟨rfl, rfl, heq⟩
  | ask _ ih =>
    obtain ⟨answer, trace, rfl, hnext⟩ := yields_ask.1 h'
    rw [List.cons_append, List.cons_append, List.cons.injEq] at heq
    obtain ⟨hexchange, htrace⟩ := heq
    cases hexchange
    obtain ⟨rfl, hresult, hrest⟩ := ih hnext htrace
    exact ⟨rfl, hresult, hrest⟩

end Dialogue

/-! ## Transcripts of activities -/

namespace Activity

open Dialogue (Yields)

variable {σ α β : Type} {s t : σ} {trace : List Exchange}

@[simp] theorem yields_pure {value : α} {result : Except Failure α × σ} :
    Yields ((pure value : Activity σ α) s) trace result ↔ trace = [] ∧ result = (.ok value, s) :=
  Dialogue.yields_finish

@[simp] theorem yields_throw {failure : Failure} {result : Except Failure α × σ} :
    Yields ((throw failure : Activity σ α) s) trace result ↔
      trace = [] ∧ result = (.error failure, s) :=
  Dialogue.yields_finish

theorem yields_query {γ : Type} {question : Query} {f : question.Answer → γ} {result : γ} :
    Yields (.ask question fun answer => .finish (f answer)) trace result ↔
      ∃ answer, trace = [⟨question, answer⟩] ∧ result = f answer := by
  rw [Dialogue.yields_ask]
  constructor
  · rintro ⟨answer, rest, rfl, h⟩
    obtain ⟨rfl, rfl⟩ := Dialogue.yields_finish.1 h
    exact ⟨answer, rfl, rfl⟩
  · rintro ⟨answer, rfl, rfl⟩
    exact ⟨answer, [], rfl, .finish _⟩

@[simp] theorem yields_now {result : Except Failure Instant × σ} :
    Yields ((now : Activity σ Instant) s) trace result ↔
      ∃ instant : Instant, trace = [⟨.clock, instant⟩] ∧ result = (.ok instant, s) :=
  yields_query

@[simp] theorem yields_call {c : Call} {result : Except Failure c.Answer × σ} :
    Yields ((call c : Activity σ c.Answer) s) trace result ↔
      ∃ answer : Except Failure c.Answer, trace = [⟨.call c, answer⟩] ∧ result = (answer, s) :=
  yields_query

/-- The second of two activities begins where the first one has succeeded, or both end where the
first one has failed. -/
theorem yields_bind {x : Activity σ α} {f : α → Activity σ β} {result : Except Failure β × σ} :
    Yields ((x >>= f) s) trace result ↔
      (∃ first second value t, trace = first ++ second ∧ Yields (x s) first (.ok value, t) ∧
        Yields (f value t) second result) ∨
      ∃ failure t, Yields (x s) trace (.error failure, t) ∧ result = (.error failure, t) := by
  refine Dialogue.yields_bind.trans ⟨?_, ?_⟩
  · rintro ⟨first, second, ⟨failure | value, t⟩, rfl, hx, hf⟩
    · obtain ⟨rfl, rfl⟩ := Dialogue.yields_finish.1 hf
      rw [List.append_nil]
      exact .inr ⟨failure, t, hx, rfl⟩
    · exact .inl ⟨first, second, value, t, rfl, hx, hf⟩
  · rintro (⟨first, second, value, t, rfl, hx, hf⟩ | ⟨failure, t, hx, rfl⟩)
    · exact ⟨first, second, _, rfl, hx, hf⟩
    · exact ⟨trace, [], _, (List.append_nil _).symm, hx, .finish _⟩

/-- A call comes before the rest of an activity, unless it fails. -/
theorem yields_call_bind {c : Call} {f : c.Answer → Activity σ β} {result : Except Failure β × σ} :
    Yields ((call c >>= f) s) trace result ↔
      ∃ (answer : Except Failure c.Answer) (rest : List Exchange),
        trace = ⟨.call c, answer⟩ :: rest ∧
        ((∃ value, answer = .ok value ∧ Yields (f value s) rest result) ∨
          ∃ failure, answer = .error failure ∧ rest = [] ∧ result = (.error failure, s)) := by
  rw [yields_bind]
  simp only [yields_call]
  constructor
  · rintro (⟨_, rest, value, _, rfl, ⟨_, rfl, ⟨⟩⟩, hf⟩ | ⟨failure, _, ⟨_, rfl, ⟨⟩⟩, rfl⟩)
    · exact ⟨.ok value, rest, rfl, .inl ⟨value, rfl, hf⟩⟩
    · exact ⟨.error failure, [], rfl, .inr ⟨failure, rfl, rfl, rfl⟩⟩
  · rintro ⟨_, rest, rfl, ⟨value, rfl, hf⟩ | ⟨failure, rfl, rfl, rfl⟩⟩
    · exact .inl ⟨_, rest, value, s, rfl, ⟨_, rfl, rfl⟩, hf⟩
    · exact .inr ⟨failure, s, ⟨_, rfl, rfl⟩, rfl⟩

@[simp] theorem yields_get_bind {f : σ → Activity σ β} {result : Except Failure β × σ} :
    Yields ((get >>= f) s) trace result ↔ Yields (f s s) trace result := Iff.rfl

/-- An activity and its outcome go through the same exchanges. -/
theorem yields_outcome_bind {x : Activity σ α} {f : Except Failure α → Activity σ β}
    {result : Except Failure β × σ} :
    Yields ((x.outcome >>= f) s) trace result ↔
      ∃ first second outcome t, trace = first ++ second ∧ Yields (x s) first (outcome, t) ∧
        Yields (f outcome t) second result := by
  have hassoc : (x.outcome >>= f) s = (x s).bind fun result => f result.1 result.2 :=
    Dialogue.bind_assoc (x s) _ _
  rw [hassoc, Dialogue.yields_bind]
  simp only [Prod.exists]

end Activity

/-! ## Status writes -/

namespace Saga

open Dialogue (Yields)

variable {settings : Settings} {given request : Request} {status : Request.Status}
  {message : String} {trace : List Exchange}

/-- The request with a new status, as it is written. -/
def posted (request : Request) (status : Request.Status) (message : String) (now : Instant) :
    Request :=
  { request with status := some (status.announced now message) }

/-- The courses of a status write: it is not needed because only times would change, it is refused,
or the status is stored. -/
inductive Posts (status : Request.Status) (message : String) (request : Request) :
    List Exchange → Except Failure Unit × Request → Prop
  | needless {now : Instant}
    (hagrees : request.currentStatus.agrees (status.announced now message) = true) :
    Posts status message request [⟨.clock, now⟩] (.ok (), request)
  | refused {now : Instant} {failure : Failure}
    (hdiffers : request.currentStatus.agrees (status.announced now message) = false) :
    Posts status message request
      [⟨.clock, now⟩, ⟨.call (.updateStatus (posted request status message now)),
        (.error failure : Except Failure Request)⟩] (.error failure, request)
  | stored {now : Instant} {stored : Request}
    (hdiffers : request.currentStatus.agrees (status.announced now message) = false) :
    Posts status message request
      [⟨.clock, now⟩, ⟨.call (.updateStatus (posted request status message now)),
        (.ok stored : Except Failure Request)⟩] (.ok (), stored)

theorem posts_of_yields {result : Except Failure Unit × Request}
    (h : Yields (writeStatus status message request) trace result) :
    Posts status message request trace result := by
  rw [writeStatus, Activity.yields_get_bind, Activity.yields_bind] at h
  simp only [Activity.yields_now] at h
  rcases h with ⟨_, rest, now, _, rfl, ⟨_, rfl, ⟨⟩⟩, h⟩ | ⟨_, _, ⟨_, -, ⟨⟩⟩, -⟩
  -- A write is asked for only if more than times would change.
  by_cases hagrees : request.currentStatus.agrees (status.announced now message) = true
  · rw [if_pos hagrees, Activity.yields_pure] at h
    obtain ⟨rfl, rfl⟩ := h
    exact .needless hagrees
  · rw [if_neg hagrees] at h
    have hdiffers := Bool.eq_false_iff.2 hagrees
    obtain ⟨_, _, rfl, ⟨stored, rfl, hset⟩ | ⟨failure, rfl, rfl, rfl⟩⟩ :=
      Activity.yields_call_bind.1 h
    · obtain ⟨rfl, rfl⟩ := Dialogue.yields_finish.1 hset
      exact .stored hdiffers
    · exact .refused hdiffers

theorem posts_transition {state : State} {result : Except Failure Unit × Request}
    (h : Yields (transition state message request) trace result) :
    Posts { request.currentStatus with state } message request trace result :=
  posts_of_yields h

/-- Apart from the clock, only the status is asked for. -/
theorem Posts.asked {result : Except Failure Unit × Request}
    (h : Posts status message request trace result) {exchange : Exchange}
    (hexchange : exchange ∈ trace) :
    exchange.1 = .clock ∨ ∃ written : Request,
      exchange.1 = .call (.updateStatus written) ∧ written.state = status.state := by
  cases h with
  | needless => exact .inl (by rw [List.mem_singleton.1 hexchange])
  | refused | stored =>
    rcases List.mem_cons.1 hexchange with rfl | hwrite
    · exact .inl rfl
    · exact .inr ⟨_, by rw [List.mem_singleton.1 hwrite], rfl⟩

/-! ## Passes -/

/-- The courses of a pass. -/
inductive Course (settings : Settings) (given : Request) :
    List Exchange → Except Failure Action × Request → Prop
  /-- Nothing is left to do. -/
  | idle (hend : given.state.isTerminal = true) :
    Course settings given [] (.ok .awaitChange, given)
  /-- The work succeeds. -/
  | worked {work : List Exchange} {copy : Request} (hopen : given.state.isTerminal = false)
    (hwork : Yields (pass settings given.spec.mode given) work (.ok (), copy)) :
    Course settings given work
      (.ok (if copy.state.isTerminal then .awaitChange else .requeue settings.requeueSeconds), copy)
  /-- The work fails in a way that a later pass can get past. -/
  | retried {work : List Exchange} {copy : Request} {failure : Failure}
    (hopen : given.state.isTerminal = false)
    (hwork : Yields (pass settings given.spec.mode given) work (.error failure, copy))
    (htransient : failure.isTransient = true) :
    Course settings given work (.ok (.requeue settings.requeueSeconds), copy)
  /-- The work fails for good, and the error state is written if that can be. -/
  | failed {work ending : List Exchange} {copy copy' : Request} {failure : Failure}
    {outcome : Except Failure Unit} (hopen : given.state.isTerminal = false)
    (hwork : Yields (pass settings given.spec.mode given) work (.error failure, copy))
    (hfatal : failure.isTransient = false)
    (hending : Posts { copy.currentStatus with state := given.spec.mode.errorState } failure.message
      copy ending (outcome, copy')) :
    Course settings given (work ++ ending) (.error failure, copy')

theorem course_of_yields {result : Except Failure Action × Request}
    (h : Yields (reconcile settings given) trace result) : Course settings given trace result := by
  rw [reconcile, Activity.yields_get_bind] at h
  by_cases hend : given.state.isTerminal = true
  · rw [if_pos hend, Activity.yields_pure] at h
    obtain ⟨rfl, rfl⟩ := h
    exact .idle hend
  have hopen := Bool.eq_false_iff.2 hend
  -- What comes after the work depends on its outcome alone.
  rw [if_neg hend, Activity.yields_outcome_bind] at h
  obtain ⟨work, ending, outcome, copy, rfl, hwork, h⟩ := h
  cases outcome with
  | ok =>
    have hworked := Course.worked hopen hwork
    simp only [Activity.yields_get_bind] at h
    split at h
    case isTrue hdone =>
      obtain ⟨rfl, rfl⟩ := Activity.yields_pure.1 h
      rwa [if_pos hdone, ← List.append_nil work] at hworked
    case isFalse hdone =>
      obtain ⟨rfl, rfl⟩ := Activity.yields_pure.1 h
      rwa [if_neg hdone, ← List.append_nil work] at hworked
  | error failure =>
    cases hfailure : failure.isTransient with
    | true =>
      simp only [hfailure, if_true, Activity.yields_pure] at h
      obtain ⟨rfl, rfl⟩ := h
      rw [List.append_nil]
      exact .retried hopen hwork hfailure
    | false =>
      simp only [hfailure] at h
      -- The failure is handed on, whatever becomes of the error state.
      rw [if_neg (by simp), fail, Activity.yields_outcome_bind] at h
      obtain ⟨ending, rest, outcome, copy', rfl, hending, h⟩ := h
      obtain ⟨rfl, rfl⟩ := Activity.yields_throw.1 h
      rw [List.append_nil]
      exact .failed hopen hwork hfailure (posts_of_yields hending)

/-- A pass over which there is something to do begins with its work, and ends with it if that
succeeds. -/
theorem Course.exists_work {result : Except Failure Action × Request}
    (h : Course settings given trace result) (hopen : given.state.isTerminal = false) :
    ∃ work ending outcome copy, trace = work ++ ending ∧
      Yields (pass settings given.spec.mode given) work (outcome, copy) ∧
      (outcome = .ok () → ending = []) := by
  cases h with
  | idle hend =>
    rw [hopen] at hend
    cases hend
  | worked _ hwork => exact ⟨_, [], _, _, (List.append_nil _).symm, hwork, fun _ => rfl⟩
  | retried _ hwork => exact ⟨_, [], _, _, (List.append_nil _).symm, hwork, fun _ => rfl⟩
  | failed _ hwork => exact ⟨_, _, _, _, rfl, hwork, nofun⟩

end Saga

end NamespaceBackup
