import NamespaceBackup.Proofs.Activity

/-!
# Journals

Whatever is answered, an activity leaves a journal of what it asked and was told. A part of an
activity accounts for a stretch of the journal, and whatever is known of the part can be read off
that stretch.

## Main definitions

* `Activity.journaling`: a journal of all exchanges is kept, whatever is answered
* `Activity.Gives`: the exchanges over which an activity succeeds with a value

## Main results

* `Activity.asked_of_yields`: what is ensured of every question on top of a journal holds of every
  question of a transcript
* `Activity.Ensures.traced`: a part of an activity accounts for a stretch of the journal
* `Activity.Ensures.ends`, `Activity.Gives.ends`: what is ensured of an activity holds after the
  exchanges that it went through
-/

namespace NamespaceBackup

namespace Activity

variable {σ τ α ω : Type} {s : σ} {asks : List Exchange → Query → Prop}
  {journal exchanges before after : List Exchange}

/-- The terms on which a journal of all exchanges is kept, whatever is answered. -/
def journaling (asks : List Exchange → Query → Prop) :
    Terms Query Query.Answer (List Exchange) where
  asks := asks
  answers journal exchange journal' := journal' = journal ++ [exchange]

theorem path_journaling (journal exchanges : List Exchange) :
    (journaling asks).answers.Path journal exchanges (journal ++ exchanges) := by
  induction exchanges generalizing journal with
  | nil => simp
  | cons exchange exchanges ih =>
    have hrest := ih (journal ++ [exchange])
    rw [List.append_assoc] at hrest
    exact .cons rfl hrest

/-- What is ensured of every question on top of a journal holds of every question of a
transcript. -/
theorem asked_of_yields {x : Activity σ α} {post : Except Failure α → σ → List Exchange → Prop}
    {question : Query} {answer : question.Answer} {outcome : Except Failure α × σ}
    (h : Ensures (journaling asks) x s [] post)
    (hx : Dialogue.Yields (x s) (before ++ ⟨question, answer⟩ :: after) outcome) :
    asks before question :=
  Dialogue.Ensures.asked h hx (path_journaling [] before)

/-- The exchanges over which an activity succeeds with a value, keeping its own state. -/
def Gives (x : Activity σ α) (s : σ) (exchanges : List Exchange) (value : α) : Prop :=
  Dialogue.Yields (x s) exchanges (.ok value, s)

section Ends

variable {T : Terms Query Query.Answer ω} {w v : ω} {x : Activity σ α}
  {post : Except Failure α → σ → ω → Prop}

/-- What is ensured of an activity holds of its outcome after each of its transcripts. -/
theorem Ensures.ends {outcome : Except Failure α} {s' : σ} (h : Ensures T x s w post)
    (hx : Dialogue.Yields (x s) exchanges (outcome, s')) (hpath : T.answers.Path w exchanges v) :
    post outcome s' v := by
  have hend := Dialogue.Ensures.ends h hx hpath
  exact hend

/-- What is ensured of an activity holds after the exchanges that gave its value. -/
theorem Gives.ends {value : α} (hx : Gives x s exchanges value) (h : Ensures T x s w post)
    (hpath : T.answers.Path w exchanges v) : post (.ok value) s v :=
  Ensures.ends h hx hpath

end Ends

/-- Whatever is answered may take place on terms that only say what is asked. -/
theorem path_only (P : Query → Prop) (exchanges : List Exchange) :
    (Terms.only P : Terms Query Query.Answer Unit).answers.Path () exchanges () := by
  induction exchanges with
  | nil => exact .nil ()
  | cons exchange exchanges ih => exact .cons trivial ih

/-- What may be asked at most is all that was asked. -/
theorem Ensures.questions {P : Query → Prop} {x : Activity σ α}
    {post : Except Failure α → σ → Unit → Prop} {result : Except Failure α × σ}
    (h : Ensures (Terms.only P) x s () post) (hx : Dialogue.Yields (x s) exchanges result) :
    ∀ exchange ∈ exchanges, P exchange.1 := by
  intro exchange hexchange
  obtain ⟨first, rest, rfl⟩ := List.append_of_mem hexchange
  exact Dialogue.Ensures.asked h hx (path_only P first)

/-- What an activity asks at most is all that it did ask, and its own state is what it was. -/
theorem Asks.of_yields {P : Query → Prop} {x : Activity σ α} {outcome : Except Failure α} {s' : σ}
    (hx : Asks P x) (h : Dialogue.Yields (x s) exchanges (outcome, s')) :
    s' = s ∧ ∀ exchange ∈ exchanges, P exchange.1 :=
  ⟨Ensures.ends (hx s) h (path_only P exchanges), Ensures.questions (hx s) h⟩

theorem Asks.of_gives {P : Query → Prop} {x : Activity σ α} {value : α} (hx : Asks P x)
    (h : Gives x s exchanges value) : ∀ exchange ∈ exchanges, P exchange.1 :=
  (hx.of_yields h).2

/-- An activity with a state of its own goes through the same exchanges on its own. -/
theorem gives_within {t t' : τ} {x : Activity τ α} {value : α} :
    Gives (within t x) s exchanges (value, t') ↔
      Dialogue.Yields (x t) exchanges (.ok value, t') := by
  refine Dialogue.yields_bind.trans ⟨?_, fun h => ?_⟩
  · rintro ⟨first, second, ⟨outcome, final⟩, rfl, hx, hfinish⟩
    cases outcome with
    | error failure => cases hfinish
    | ok value' =>
      cases hfinish
      rw [List.append_nil]
      exact hx
  · exact ⟨exchanges, [], _, by simp, h, .finish _⟩

/-- An activity accounts for a stretch of the journal, in which it asks only what it may. -/
theorem Ensures.traced {P : Query → Prop} {x : Activity σ α}
    {post : Except Failure α → σ → Unit → Prop} (h : Ensures (Terms.only P) x s () post)
    (hasks : ∀ journal question, P question → asks journal question) (journal : List Exchange) :
    Ensures (journaling asks) x s journal fun outcome s' journal' => post outcome s' () ∧
      ∃ exchanges, journal' = journal ++ exchanges ∧ (∀ exchange ∈ exchanges, P exchange.1) ∧
        Dialogue.Yields (x s) exchanges (outcome, s') := by
  suffices hd : ∀ (d : Dialogue Query Query.Answer (Except Failure α × σ)) journal,
      d.Ensures (Terms.only P) () (fun result _ => post result.1 result.2 ()) →
      d.Ensures (journaling asks) journal fun result journal' => post result.1 result.2 () ∧
        ∃ exchanges, journal' = journal ++ exchanges ∧ (∀ exchange ∈ exchanges, P exchange.1) ∧
          d.Yields exchanges result from
    hd (x s) journal h
  intro d journal h
  induction d generalizing journal with
  | finish result => exact ⟨h, [], by simp, by simp, .finish result⟩
  | ask question next ih =>
    refine ⟨hasks journal question h.1, ?_⟩
    rintro answer _ rfl
    refine (ih answer _ (h.2 answer () trivial)).mono ?_
    -- The first exchange comes before those that the rest accounts for.
    rintro result journal' ⟨hpost, exchanges, rfl, hquestions, hyields⟩
    refine ⟨hpost, ⟨question, answer⟩ :: exchanges, by simp, ?_, .ask hyields⟩
    intro exchange hexchange
    rcases List.mem_cons.1 hexchange with rfl | hexchange
    · exact h.1
    · exact hquestions exchange hexchange

end Activity

end NamespaceBackup
