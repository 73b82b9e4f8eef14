import Mathlib.Logic.Relation
import NamespaceBackup.Proofs.Copies
import NamespaceBackup.Proofs.Ledger

/-!
# Compare and swap

A status is stored only if it was made from the version that is stored, and gets a new version. So a
pass over any other copy of a request changes nothing, whatever it does. A pass over the stored
request is never refused as stale if nobody else writes it, since it goes on with what was stored
after each of its writes.

## Main definitions

* `Swapping.Swaps`: how a write of the status is answered
* `Swapping.around`: the stored request, which others may write at any time
* `Swapping.nobody`: there is no other writer

## Main results

* `Swapping.eq_of_inHand`: the copy in hand is the stored request, if nobody else writes it
* `Swapping.stale_or_fresh`: a stale copy changes nothing, and a fresh one stays fresh
-/

namespace NamespaceBackup.Swapping

open Dialogue (Yields)
open Ledger (rewritten)
open Saga (Heeds InHand posted)

/-- How a question is answered. A write of the status may be refused for any reason; it is stored
only if it was made from the stored version, and the answer is the request as stored. -/
inductive Swaps (stored : Request) : Exchange → Request → Prop
  | other {exchange : Exchange} (h : ∀ written, exchange.1 ≠ .call (.updateStatus written)) :
    Swaps stored exchange stored
  | refused {written : Request} (failure : Failure) :
    Swaps stored ⟨.call (.updateStatus written), (.error failure : Except Failure Request)⟩ stored
  | swapped {written : Request} {version : String}
    (hmatch : written.metadata.resourceVersion = stored.metadata.resourceVersion)
    (hnew : stored.metadata.resourceVersion ≠ some version) :
    Swaps stored
      ⟨.call (.updateStatus written),
        (.ok (rewritten stored written.status version) : Except Failure Request)⟩
      (rewritten stored written.status version)

/-- The stored request, which others may write before any question is answered. -/
def around (others : Request → Request → Prop) : Respondent Query Query.Answer Request :=
  fun stored exchange after =>
    ∃ current, Relation.ReflTransGen others stored current ∧ Swaps current exchange after

/-- There is no other writer. -/
def nobody (_ _ : Request) : Prop := False

variable {settings : Settings} {others : Request → Request → Prop}
  {copy given stored current after : Request} {exchange : Exchange}
  {journal rest transcript : List Exchange} {outcome : Except Failure Action × Request}

theorem eq_of_others (hnobody : ∀ before after, ¬ others before after)
    (h : Relation.ReflTransGen others stored current) : current = stored := by
  induction h with
  | refl => rfl
  | tail _ hothers => exact absurd hothers (hnobody _ _)

@[simp] theorem around_nobody :
    around nobody stored exchange after ↔ Swaps stored exchange after := by
  constructor
  · rintro ⟨current, hothers, hswaps⟩
    exact eq_of_others (fun _ _ => id) hothers ▸ hswaps
  · intro h
    exact ⟨stored, .refl, h⟩

/-- What confirms no write leaves the request as it is stored. -/
theorem Swaps.eq (h : Swaps stored exchange after) (hunconfirmed : ¬ Saga.Confirmed exchange) :
    after = stored := by
  cases h with
  | other => rfl
  | refused => rfl
  | swapped => exact absurd ⟨_, _, rfl⟩ hunconfirmed

/-- A confirmed write was made from the stored version, and is answered by what is stored now. -/
theorem Swaps.of_stored {written : Request}
    (h : Swaps stored
      ⟨.call (.updateStatus written), (.ok current : Except Failure Request)⟩ after) :
    written.metadata.resourceVersion = stored.metadata.resourceVersion ∧ after = current ∧
      ∃ version, current = rewritten stored written.status version := by
  cases h with
  | other hother => exact absurd rfl (hother _)
  | swapped hmatch => exact ⟨hmatch, rfl, _, rfl⟩

theorem Swaps.heeds (h : Swaps stored exchange after) : Heeds exchange := by
  rintro written answered rfl
  obtain ⟨-, -, version, rfl⟩ := h.of_stored
  rfl

theorem heeds_of_path (hpath : (around others).Path stored transcript after) :
    ∀ exchange ∈ transcript, Heeds exchange := by
  intro exchange hexchange
  obtain ⟨before, after, current, -, hswaps⟩ := hpath.exists_of_mem hexchange
  exact hswaps.heeds

theorem status_eq_of_others
    (hothers : ∀ before after, others before after → after.status = before.status)
    (h : Relation.ReflTransGen others stored current) : current.status = stored.status := by
  induction h with
  | refl => rfl
  | tail _ hlast ih => exact (hothers _ _ hlast).trans ih

/-- What is stored in the end has the status of the last write that was confirmed, if others write
no status. -/
theorem status_eq_lastWritten
    (hothers : ∀ before after, others before after → after.status = before.status)
    (hpath : (around others).Path given transcript stored) :
    stored.status = (Saga.lastWritten given transcript).status := by
  -- The last exchange has written the status, or the status is what it was before.
  induction transcript using List.reverseRecOn generalizing stored with
  | nil =>
    obtain rfl := Respondent.path_nil.1 hpath
    rfl
  | append_singleton transcript exchange ih =>
    obtain ⟨before, hbefore, current, hcurrent, hswaps⟩ := Respondent.path_concat.1 hpath
    by_cases hconfirmed : Saga.Confirmed exchange
    · obtain ⟨written, answered, rfl⟩ := hconfirmed
      obtain ⟨-, rfl, version, rfl⟩ := hswaps.of_stored
      rw [Saga.lastWritten_concat_stored]
      rfl
    · rw [Saga.lastWritten_concat hconfirmed, hswaps.eq hconfirmed,
        status_eq_of_others hothers hcurrent, ih hbefore]

/-! ## The copy in hand

If nobody else writes the request, the copy is the stored request from the first exchange to the
last. If the copy is of another version, no write of the pass is ever stored, so the copy is not
changed either. -/

/-- The copy in hand is the stored request at every moment, if nobody else writes it. -/
theorem eq_of_inHand (hpass : Yields (Saga.reconcile settings given) (journal ++ rest) outcome)
    (hpath : (around nobody).Path given journal stored) (hcopy : InHand given journal copy) :
    copy = stored := by
  refine hcopy.invariant (fun copy stored => copy = stored) hpass hpath rfl ?_ ?_
  · rintro copy _ exchange after rfl hunconfirmed hanswer
    exact ((around_nobody.1 hanswer).eq hunconfirmed).symm
  · rintro copy _ status message now answered after rfl _ hanswer
    exact (around_nobody.1 hanswer).of_stored.2.1.symm

/-- A copy of another version than the stored one stays in hand, and what is stored is changed by
others only. -/
theorem others_of_inHand (hpass : Yields (Saga.reconcile settings given) (journal ++ rest) outcome)
    (hpath : (around others).Path stored journal current)
    (hstale : given.metadata.resourceVersion ≠ stored.metadata.resourceVersion)
    (hothers : ∀ before after, others before after →
      after.metadata.resourceVersion ≠ given.metadata.resourceVersion)
    (hcopy : InHand given journal copy) :
    copy = given ∧ Relation.ReflTransGen others stored current := by
  -- No writer ever goes back to the version of the copy.
  have hnever : ∀ current, Relation.ReflTransGen others stored current →
      given.metadata.resourceVersion ≠ current.metadata.resourceVersion := by
    intro current hchanged
    cases hchanged with
    | refl => exact hstale
    | tail _ hlast => exact (hothers _ _ hlast).symm
  refine hcopy.invariant
    (fun copy current => copy = given ∧ Relation.ReflTransGen others stored current) hpass hpath
    ⟨rfl, .refl⟩ ?_ ?_
  · rintro copy before exchange after ⟨rfl, hchanged⟩ hunconfirmed ⟨between, hbetween, hswaps⟩
    exact ⟨rfl, hswaps.eq hunconfirmed ▸ hchanged.trans hbetween⟩
  · rintro copy before status message now answered after ⟨rfl, hchanged⟩ -
      ⟨between, hbetween, hswaps⟩
    exact absurd hswaps.of_stored.1 (hnever between (hchanged.trans hbetween))

/-- At every moment of a pass: if it was given a copy of another version than the stored one, only
others have changed what is stored; if it was given the stored request and nobody else writes it,
whatever status it writes next is made from the version that is stored. -/
theorem stale_or_fresh
    (hpass : Yields (Saga.reconcile settings given) (journal ++ rest) outcome)
    (hpath : (around others).Path stored journal current) :
    (given.metadata.resourceVersion ≠ stored.metadata.resourceVersion →
      (∀ before after, others before after →
        after.metadata.resourceVersion ≠ given.metadata.resourceVersion) →
      Relation.ReflTransGen others stored current) ∧
    (given = stored → others = nobody → ∀ written answer after,
      rest = ⟨.call (.updateStatus written), answer⟩ :: after →
      written.metadata.resourceVersion = current.metadata.resourceVersion) := by
  constructor
  · intro hstale hothers
    obtain ⟨copy, hcopy⟩ := Saga.exists_inHand hpass
    exact (others_of_inHand hpass hpath hstale hothers hcopy).2
  · rintro rfl rfl written answer after rfl
    -- What is written next is made from the copy in hand, so it has its version.
    obtain ⟨copy, hcopy, status, -, message, now, rfl⟩ :=
      (Saga.writing_of_yields hpass).exists_posted
    obtain rfl := eq_of_inHand hpass hpath hcopy
    rfl

/-! ## A store -/

/-- A save that nobody has worked on yet. -/
def nightly : Request where
  metadata := { name := some "nightly", ns := some "cloud", resourceVersion := some "1" }

/-- A copy of the save from before it was changed. -/
def outdated : Request :=
  rewritten nightly none "0"

/-- Stores a status if it was made from the stored version. -/
def write (written stored : Request) : Except Failure Request × Request :=
  if written.metadata.resourceVersion = stored.metadata.resourceVersion then
    let swapped := rewritten stored written.status
      (stored.metadata.resourceVersion.getD "" ++ "+")
    (.ok swapped, swapped)
  else (.error (.conflict "stale resourceVersion"), stored)

/-- Serves writes of the status, and gives everything else up for good. -/
def respond : (question : Query) → Request → question.Answer × Request
  | .clock, stored => ((default : Instant), stored)
  | .call (.updateStatus written), stored => write written stored
  | .call c, stored => ((.error (.serialization "not served") : Except Failure c.Answer), stored)

theorem swaps_write (written stored : Request) :
    Swaps stored ⟨.call (.updateStatus written), (write written stored).1⟩
      (write written stored).2 := by
  rw [write]
  split
  case isTrue hmatch =>
    refine .swapped hmatch fun hsame => ?_
    -- The new version is longer than the old one.
    have hlength := congrArg (fun version => (version.getD "").length) hsame
    simp [String.length_append] at hlength
  case isFalse => exact .refused _

theorem swaps_respond (question : Query) (stored : Request) :
    Swaps stored ⟨question, (respond question stored).1⟩ (respond question stored).2 := by
  cases question with
  | clock => exact .other (by simp)
  | call c =>
    cases c with
    | updateStatus written => exact swaps_write written stored
    | _ => exact .other (by simp)

theorem path_respond (copy stored : Request) :
    (around nobody).Path stored ((Saga.reconcile {} copy).transcript respond stored)
      ((Saga.reconcile {} copy).run respond stored).2 :=
  Dialogue.path_transcript respond
    (fun question stored => around_nobody.2 (swaps_respond question stored)) _ stored

/-- Whether a question writes the error state of a save. -/
def givesUp : Query → Bool
  | .call (.updateStatus written) => written.state = .saveError
  | _ => false

/-- A pass over the outdated copy changes nothing. One over the stored request writes twice, and its
second write, which gives the save up, is made from what the first one has stored. -/
theorem nightly_stale_or_fresh :
    (outdated.metadata.resourceVersion ≠ nightly.metadata.resourceVersion ∧
      Relation.ReflTransGen nobody nightly ((Saga.reconcile {} outdated).run respond nightly).2) ∧
    ∃ journal written answer after current,
      (Saga.reconcile {} nightly).transcript respond nightly =
        journal ++ ⟨.call (.updateStatus written), answer⟩ :: after ∧
      written.state = .saveError ∧ (around nobody).Path nightly journal current ∧
      written.metadata.resourceVersion = current.metadata.resourceVersion := by
  constructor
  · have hstale : outdated.metadata.resourceVersion ≠ nightly.metadata.resourceVersion := by decide
    have hpass := Dialogue.yields_transcript respond (Saga.reconcile {} outdated) nightly
    rw [← List.append_nil ((Saga.reconcile {} outdated).transcript respond nightly)] at hpass
    refine ⟨hstale, ?_⟩
    exact (stale_or_fresh hpass (path_respond outdated nightly)).1 hstale fun _ _ => False.elim
  · have hany :
        ((Saga.reconcile {} nightly).transcript respond nightly).any (givesUp ·.1) = true := by
      decide +kernel
    obtain ⟨⟨question, answer⟩, hmem, hgivesUp⟩ := List.any_eq_true.1 hany
    obtain ⟨journal, after, hsplit⟩ := List.append_of_mem hmem
    have hpass := Dialogue.yields_transcript respond (Saga.reconcile {} nightly) nightly
    have hpath := path_respond nightly nightly
    rw [hsplit] at hpass hpath
    obtain ⟨current, hbefore, -⟩ := Respondent.path_append.1 hpath
    unfold givesUp at hgivesUp
    split at hgivesUp
    case h_1 written hquestion =>
      obtain rfl := hquestion
      have hstate : written.state = .saveError := by simpa using hgivesUp
      refine ⟨journal, written, answer, after, current, hsplit, hstate, hbefore, ?_⟩
      exact (stale_or_fresh hpass hbefore).2 rfl rfl written answer after rfl
    case h_2 => cases hgivesUp

end NamespaceBackup.Swapping
