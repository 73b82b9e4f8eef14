import NamespaceBackup.Proofs.Courses
import NamespaceBackup.Rest.Client

/-!
# Requests and their replies

A dialogue with a remote server ends at its first failure. A request that cannot be made fails
without being sent; a request that was sent fails if its reply tells of an error, if it cannot be
read, or if there is none. All these failures are left to a later pass.

## Main definitions

* `Rest.understood`: what a reply is taken for
* `Rest.Reply.deniesObject`: the replies that say that an object does not exist

## Main results

* `Rest.yields_bind`: where two dialogues meet
* `Rest.yields_send`: the courses of a request
* `Rest.isTransient_of_understood`: what a reply that is no success is taken for
* `Rest.fetch_eq`, `Rest.get?_eq`, `Rest.course_of_send`: the courses of a request that is read
-/

namespace NamespaceBackup.Rest

open Dialogue (Yields)

variable {α β : Type} {x : Remote α} {f : α → Remote β} {failure : Failure}
  {trace : List (Dialogue.Exchange Question Question.Answer)} {request : Request} {reply : Reply}
  {read : Reader α}

/-! ## Dialogues that may fail -/

@[simp] theorem yields_pure {value : α} {result : Except Failure α} :
    Yields (pure value : Remote α) trace result ↔ trace = [] ∧ result = .ok value :=
  Dialogue.yields_finish

@[simp] theorem yields_throw {result : Except Failure α} :
    Yields (throw failure : Remote α) trace result ↔ trace = [] ∧ result = .error failure :=
  Dialogue.yields_finish

@[simp] theorem yields_ofExcept {outcome result : Except Failure α} :
    Yields (ofExcept outcome : Remote α) trace result ↔ trace = [] ∧ result = outcome := by
  cases outcome <;> exact Dialogue.yields_finish

/-- The second of two dialogues begins where the first one has succeeded, or both end where the
first one has failed. -/
theorem yields_bind {result : Except Failure β} :
    Yields (x >>= f : Remote β) trace result ↔
      (∃ first second value, trace = first ++ second ∧ Yields x first (.ok value) ∧
        Yields (f value) second result) ∨
      ∃ failure, Yields x trace (.error failure) ∧ result = .error failure := by
  refine Dialogue.yields_bind.trans ⟨?_, ?_⟩
  · rintro ⟨first, second, failure | value, rfl, hx, hf⟩
    · obtain ⟨rfl, rfl⟩ := Dialogue.yields_finish.1 hf
      rw [List.append_nil]
      exact .inr ⟨failure, hx, rfl⟩
    · exact .inl ⟨first, second, value, rfl, hx, hf⟩
  · rintro (⟨first, second, value, rfl, hx, hf⟩ | ⟨failure, hx, rfl⟩)
    · exact ⟨first, second, _, rfl, hx, hf⟩
    · exact ⟨trace, [], _, (List.append_nil _).symm, hx, .finish _⟩

/-- What can fail before anything is asked. -/
theorem yields_ofExcept_bind {outcome : Except Failure α} {result : Except Failure β} :
    Yields (ofExcept outcome >>= f : Remote β) trace result ↔
      (∃ value, outcome = .ok value ∧ Yields (f value) trace result) ∨
      ∃ failure, outcome = .error failure ∧ trace = [] ∧ result = .error failure := by
  rw [yields_bind]
  simp only [yields_ofExcept]
  constructor
  · rintro (⟨_, second, value, rfl, ⟨rfl, rfl⟩, hf⟩ | ⟨failure, ⟨rfl, rfl⟩, rfl⟩)
    · exact .inl ⟨value, rfl, hf⟩
    · exact .inr ⟨failure, rfl, rfl, rfl⟩
  · rintro (⟨value, rfl, hf⟩ | ⟨failure, rfl, rfl, rfl⟩)
    · exact .inl ⟨[], trace, value, rfl, ⟨rfl, rfl⟩, hf⟩
    · exact .inr ⟨failure, ⟨rfl, rfl⟩, rfl⟩

/-! ## One request -/

/-- What is sent has the method and the body of the request, and the address up to its fragment. -/
theorem eq_of_sendable {sent : Request} (h : sendable request = .ok sent) :
    sent = { request with uri := sent.uri } := by
  unfold sendable at h
  split at h
  · cases h
    rfl
  · cases h

theorem isTransient_of_sendable (h : sendable request = .error failure) :
    failure.isTransient = true := by
  unfold sendable at h
  split at h <;> cases h
  rfl

theorem isTransient_of_requireName {name : String} (h : requireName name = .error failure) :
    failure.isTransient = true := by
  unfold requireName at h
  split at h <;> cases h
  rfl

/-- A request that can be sent has a reply, and any other fails without being sent. -/
theorem yields_send {result : Except Failure Reply} :
    Yields (send request) trace result ↔
      (∃ (sent : Request) (reply : Reply), sendable request = .ok sent ∧
        trace = [⟨.send sent, reply⟩] ∧ result = .ok reply) ∨
      ∃ failure, sendable request = .error failure ∧ trace = [] ∧ result = .error failure := by
  rw [send, yields_ofExcept_bind]
  constructor
  · rintro (⟨sent, hsent, hask⟩ | h)
    · obtain ⟨reply, _, rfl, hreply⟩ := Dialogue.yields_ask.1 hask
      obtain ⟨rfl, rfl⟩ := Dialogue.yields_finish.1 hreply
      exact .inl ⟨sent, reply, hsent, rfl, rfl⟩
    · exact .inr h
  · rintro (⟨sent, reply, hsent, rfl, rfl⟩ | h)
    · exact .inl ⟨sent, hsent, .ask (.finish _)⟩
    · exact .inr h

/-! ## What a reply is taken for -/

/-- The failure or the value that a reply is taken for. -/
def understood (read : Reader α) : Reply → Except Failure α
  | .broken detail => .error (.api ("ServiceError: " ++ detail))
  | .upgraded _ => decode read ""
  | .response code text =>
    if isError code then .error (ApiError.ofReply code text).failure else decode read text

/-- Whether a reply says that an object does not exist. -/
def Reply.deniesObject : Reply → Bool
  | .response code text => isError code && (ApiError.ofReply code text).isAbsence
  | _ => false

theorem ApiError.isTransient_failure (error : ApiError) : error.failure.isTransient = true := by
  unfold failure
  split
  · rfl
  · split <;> rfl

theorem isTransient_of_decode {text : String} (h : decode read text = .error failure) :
    failure.isTransient = true := by
  unfold decode at h
  split at h <;> cases h
  rfl

/-- Whatever a reply that is no success is taken for, it is left to a later pass. -/
theorem isTransient_of_understood (h : understood read reply = .error failure) :
    failure.isTransient = true := by
  cases reply with
  | broken =>
    cases h
    rfl
  | upgraded =>
    rw [understood] at h
    exact isTransient_of_decode h
  | response code text =>
    rw [understood] at h
    split at h
    · cases h
      exact ApiError.isTransient_failure _
    · exact isTransient_of_decode h

/-- A reply that says that a write came too late, or that an object exists already, is a
conflict. -/
theorem understood_conflict {code : Nat} {text : String} (hcode : isError code = true)
    (herror : (ApiError.ofReply code text).code = 409) :
    understood read (.response code text) =
      .error (.conflict (ApiError.ofReply code text).message) := by
  rw [understood, if_pos hcode, ApiError.failure, if_pos herror]

/-- What a reply with a text is taken for was read from that text. -/
theorem exists_document_of_understood {code : Nat} {text : String} {value : α}
    (hcode : isError code = false) (h : understood read (.response code text) = .ok value) :
    ∃ document, Json.Document.parse text = some document ∧ read document = some value := by
  rw [understood, hcode, if_neg Bool.false_ne_true, decode] at h
  split at h
  case h_1 hread =>
    cases h
    exact Option.bind_eq_some_iff.1 hread
  case h_2 => cases h

/-! ## Requests that are read -/

theorem exchange_bind (f : Except ApiError String → Remote β) :
    (exchange request >>= f) = (do
      match ← send request with
      | .broken detail => throw (.api ("ServiceError: " ++ detail))
      | .upgraded _ => f (.ok "")
      | .response code text =>
        f (if isError code then .error (.ofReply code text) else .ok text)) := by
  rw [exchange, bind_assoc]
  refine congrArg (send request >>= ·) (funext fun reply => ?_)
  cases reply <;> rfl

/-- A request whose reply is read comes to what the reply is taken for. -/
theorem fetch_eq : fetch request read = (do ofExcept (understood read (← send request))) := by
  rw [fetch, exchange_bind]
  refine congrArg (send request >>= ·) (funext fun reply => ?_)
  cases reply with
  | broken | upgraded => rfl
  | response code text =>
    rw [understood]
    by_cases hcode : isError code = true
    · simp only [if_pos hcode]
      rfl
    · simp only [if_neg hcode]

/-- An object that is asked for is absent if the reply says so, and else what the reply is taken
for. -/
theorem get?_eq {ns name : String} {resource : ApiResource} :
    get? ns resource name read = (do
      ofExcept (requireName name)
      let reply ← send ⟨.get, objectUri ns resource name, none⟩
      ofExcept (if reply.deniesObject then .ok none else (understood read reply).map some)) := by
  have hmap (outcome : Except Failure α) :
      (do return some (← ofExcept outcome) : Remote (Option α)) = ofExcept (outcome.map some) := by
    cases outcome <;> rfl
  rw [get?, exchange_bind]
  refine congrArg (ofExcept (requireName name) >>= ·) (funext fun _ => ?_)
  refine congrArg (send _ >>= ·) (funext fun reply => ?_)
  cases reply with
  | broken => rfl
  | upgraded => exact hmap _
  | response code text =>
    rw [understood, Reply.deniesObject]
    by_cases hcode : isError code = true
    · simp only [hcode, if_true, Bool.true_and]
      split
      case isTrue => rfl
      case isFalse => rfl
    · simp only [hcode, Bool.false_and]
      exact hmap _

/-- The courses of a request: it fails before it is sent, or it comes to what its reply says. -/
inductive Course (request : Request) (f : Reply → Except Failure α) :
    List (Dialogue.Exchange Question Question.Answer) → Except Failure α → Prop
  | unsent {failure : Failure} (htransient : failure.isTransient = true) :
    Course request f [] (.error failure)
  | sent {sent : Request} {reply : Reply} (hsent : sendable request = .ok sent) :
    Course request f [⟨.send sent, reply⟩] (f reply)

theorem course_of_send {f : Reply → Except Failure α} {result : Except Failure α}
    (h : Yields (do ofExcept (f (← send request)) : Remote α) trace result) :
    Course request f trace result := by
  rcases yields_bind.1 h with ⟨_, _, reply, rfl, hsend, hreply⟩ | ⟨failure, hsend, rfl⟩
  · rcases yields_send.1 hsend with ⟨sent, reply, hsent, rfl, ⟨⟩⟩ | ⟨_, _, _, ⟨⟩⟩
    obtain ⟨rfl, rfl⟩ := yields_ofExcept.1 hreply
    exact .sent hsent
  · rcases yields_send.1 hsend with ⟨_, _, _, _, ⟨⟩⟩ | ⟨failure, hsent, rfl, ⟨⟩⟩
    exact .unsent (isTransient_of_sendable hsent)

theorem course_of_get {ns name : String} {resource : ApiResource}
    {result : Except Failure (Option α)} (h : Yields (get? ns resource name read) trace result) :
    Course ⟨.get, objectUri ns resource name, none⟩
      (fun reply => if reply.deniesObject then .ok none else (understood read reply).map some)
      trace result := by
  rw [get?_eq, yields_ofExcept_bind] at h
  rcases h with ⟨_, -, h⟩ | ⟨failure, hname, rfl, rfl⟩
  · exact course_of_send h
  · exact .unsent (isTransient_of_requireName hname)

/-- What a request comes to may be dropped. -/
theorem course_of_discard {result : Except Failure Unit}
    (h : Yields (do let _ ← fetch request read : Remote Unit) trace result) :
    Course request (fun reply => (understood read reply).map fun _ => ()) trace result := by
  have heq : (do let _ ← fetch request read : Remote Unit) =
      (do ofExcept ((understood read (← send request)).map fun _ => ())) := by
    rw [fetch_eq, bind_assoc]
    refine congrArg (send request >>= ·) (funext fun reply => ?_)
    cases understood read reply <;> rfl
  exact course_of_send (heq ▸ h)

theorem course_of_create {ns : String} {resource : ApiResource} {content : Json}
    {result : Except Failure Unit} (h : Yields (create ns resource content read) trace result) :
    Course ⟨.post, withParameters (listUri (some ns) resource) [], some ⟨plainJson, content⟩⟩
      (fun reply => (understood read reply).map fun _ => ()) trace result :=
  course_of_discard h

theorem course_of_replace {ns name : String} {resource : ApiResource} {content : Json}
    {result : Except Failure Unit}
    (h : Yields (replace ns resource name content read) trace result) :
    Course ⟨.put, withParameters (objectUri ns resource name) [], some ⟨plainJson, content⟩⟩
      (fun reply => (understood read reply).map fun _ => ()) trace result := by
  rw [replace, yields_ofExcept_bind] at h
  rcases h with ⟨_, -, h⟩ | ⟨failure, hname, rfl, rfl⟩
  · exact course_of_discard h
  · exact .unsent (isTransient_of_requireName hname)

end NamespaceBackup.Rest
