import NamespaceBackup.Proofs.Restoring
import NamespaceBackup.Proofs.Trouble

/-!
# Passes without trouble

Without trouble, a pass is answered by the cluster that it is given: every call is performed, and
every command succeeds, whatever it prints. Parts of a pass that run no command do what they do with
nobody else around, and every status is stored.

## Main definitions

* `Cluster.Obliges`, `Cluster.obliging`: clock and cluster without trouble
* `Saga.Fresh`: the copy in hand is what is stored

## Main results

* `Cluster.ensures_obliging`: what is ensured with nobody else around and without commands
* `Saga.writeStatus_obliging`: every status is stored
-/

namespace NamespaceBackup

open Activity (Asks Ensures)

namespace Cluster

/-- How clock and cluster answer without trouble: a call is performed, and a command succeeds. -/
inductive Obliges (cluster : Cluster) : Exchange → Cluster → Prop
  | clock (instant : Instant) : Obliges cluster ⟨.clock, instant⟩ cluster
  | performed {c : Call} (hc : ∀ ns text, c ≠ .runCommand ns text) :
    Obliges cluster ⟨.call c, (cluster.perform c).1⟩ (cluster.perform c).2
  | commanded (ns text : String) {output : CommandOutput} (h : output.success = true) :
    Obliges cluster
      ⟨.call (.runCommand ns text), (.ok output : Except Failure CommandOutput)⟩ cluster

/-- The terms of a conversation without trouble. -/
abbrev obliging : Terms Query Query.Answer Cluster where
  answers := Obliges

variable {σ α : Type} {s : σ} {cluster : Cluster} {c : Call}

/-- Without trouble, a call that runs no command answers and does what it performs. -/
theorem ensures_call_obliging (hc : ∀ ns text, c ≠ .runCommand ns text)
    {post : Except Failure c.Answer → σ → Cluster → Prop}
    (h : post (cluster.perform c).1 s (cluster.perform c).2) :
    Ensures obliging (Activity.call c : Activity σ c.Answer) s cluster post := by
  refine ⟨trivial, fun answer after hanswer => ?_⟩
  cases hanswer with
  | performed => exact h
  | commanded ns text => exact absurd rfl (hc ns text)

theorem ensures_call_bind_obliging (hc : ∀ ns text, c ≠ .runCommand ns text)
    {f : c.Answer → Activity σ α} {post : Except Failure α → σ → Cluster → Prop}
    (h : Activity.Then obliging f post (cluster.perform c).1 s (cluster.perform c).2) :
    Ensures obliging (Activity.call c >>= f) s cluster post :=
  Activity.ensures_bind.2 (ensures_call_obliging hc h)

/-- Without trouble, nothing is left to do after a change of a machine's membership. -/
theorem ensures_apply_obliging {settings : Settings} {ns address node : String}
    {change : Membership.Change} {post : Except Failure Bool → σ → Cluster → Prop}
    (h : post (.ok true) s cluster) :
    Ensures obliging (Membership.apply settings ns address change node) s cluster post := by
  refine Activity.ensures_call_bind.2 ⟨trivial, fun answer after hanswer => ?_⟩
  cases hanswer with
  | performed hc => exact absurd rfl (hc ns _)
  | commanded _ _ hsuccess =>
    refine Activity.then_ok.2 (Activity.ensures_ofExcept.2 ?_)
    rw [Membership.conclude, if_pos hsuccess]
    exact h

/-- An activity that runs no command does what it does with nobody else around. -/
theorem ensures_obliging {P : Query → Prop} {x : Activity σ α}
    {post : Except Failure α → σ → Cluster → Prop} (hx : Asks P x)
    (hP : ∀ ns text, ¬ P (.call (.runCommand ns text))) (h : Ensures alone x s cluster post) :
    Ensures obliging x s cluster post := by
  refine hx.ensures_of_answers (fun _ _ _ => trivial) ?_ h
  intro cluster exchange after hasked hanswer
  cases hanswer with
  | clock => rfl
  | performed => rfl
  | commanded ns text => exact absurd hasked (hP ns text)

end Cluster

namespace Saga

open Cluster (home obliging)

/-- The copy in hand is what is stored, and asks for what was asked for in the beginning. -/
structure Fresh (first request : Request) (cluster : Cluster) : Prop where
  same : SameCall first request
  stored : cluster.stored first = some request

variable {first request : Request} {cluster after : Cluster} {status : Request.Status}
  {message : String}

/-- What changes nothing but other requests' namespaces leaves the copy as it is stored. -/
theorem Fresh.congr (h : Fresh first request cluster)
    (hspace : (after.space (home first)).requests = (cluster.space (home first)).requests) :
    Fresh first request after where
  same := h.same
  stored := by
    rw [Cluster.stored, hspace]
    exact h.stored

/-- A write succeeds if the request is stored as it was read. -/
theorem Fresh.writeStatus_eq (h : Fresh first request cluster) (status : Request.Status) :
    cluster.writeStatus { request with status := some status } =
      (.ok (withStatus request status), cluster.withSpace (home first)
        { cluster.space (home first) with
          requests := (cluster.space (home first)).requests.insert first.anyName
            (withStatus request status) }) := by
  have hhome : home { request with status := some status } = home first := h.same.home_eq.symm
  have hname : Request.anyName { request with status := some status } = first.anyName :=
    h.same.marker?_eq.2.symm
  have hstored : (cluster.space (home first)).requests.find? first.anyName = some request := h.stored
  simp only [Cluster.writeStatus, hhome, hname, hstored]
  -- What is stored is the copy itself, so their versions agree.
  exact if_neg fun hne => hne rfl

/-- Without trouble, every status is stored, and nothing else changes. -/
theorem writeStatus_obliging (h : Fresh first request cluster) :
    Ensures obliging (writeStatus status message) request cluster fun outcome request' after =>
      outcome = .ok () ∧ Fresh first request' after ∧ request'.state = status.state ∧
        request'.currentStatus.snapshotNames = status.snapshotNames ∧
        Resembles (cluster.space (home first)) (after.space (home first)) := by
  refine ensures_writeStatus.2 ⟨trivial, ?_⟩
  rintro now _ ⟨⟩
  split
  case isTrue hagrees =>
    -- Nothing is written, since the request is in that state already.
    obtain ⟨hstate, hnames, -⟩ := Request.Status.agrees_iff.1 hagrees
    exact ⟨rfl, h, hstate, hnames, .refl _⟩
  case isFalse =>
    refine ⟨trivial, fun answer after hanswer => ?_⟩
    cases hanswer with
    | performed =>
      have hwritten := h.writeStatus_eq (status.announced now message)
      change Written _ request (cluster.writeStatus _).2 (cluster.writeStatus _).1
      rw [hwritten]
      refine ⟨rfl, ⟨h.same.trans (sameCall_withStatus _ _), ?_⟩, rfl, rfl, ?_⟩
      · rw [Cluster.stored, Cluster.space_withSpace, Dict.find?_insert, if_pos rfl]
      · rw [Cluster.space_withSpace]
        exact ⟨_, rfl⟩

theorem transition_obliging {state : State} (h : Fresh first request cluster) :
    Ensures obliging (transition state message) request cluster fun outcome request' after =>
      outcome = .ok () ∧ Fresh first request' after ∧ request'.state = state ∧
        request'.currentStatus.snapshotNames = request.currentStatus.snapshotNames ∧
        Resembles (cluster.space (home first)) (after.space (home first)) :=
  ensures_transition.2 (writeStatus_obliging h)

end Saga

end NamespaceBackup
