/-!
# Dialogues

A dialogue asks questions one after the other, each chosen by the answers so far, and ends with a
result. It says what a pass of a backup wants to know and do; whoever answers is the cluster. The
same dialogue can be held with a cluster in memory, with a remote API, or with an adversary.

## Main definitions

* `Dialogue`: a finite tree of questions
* `Dialogue.bind`: one dialogue after the other
* `Dialogue.run`: a dialogue held with somebody who has a state
* `Dialogue.settledBy`: a dialogue whose every question is settled by another dialogue
* `Dialogue.Yields`: the results that some answers lead to, with the questions asked

## Main results

* `Dialogue.run_bind`, `Dialogue.yields_bind`: what one dialogue after the other does
-/

namespace NamespaceBackup

/-- A tree of questions that ends with a result on every branch. -/
inductive Dialogue (Question : Type) (Answer : Question → Type) (α : Type) : Type where
  /-- Nothing more to ask. -/
  | finish (result : α)
  /-- A question, and what comes after each of its answers. -/
  | ask (question : Question) (next : Answer question → Dialogue Question Answer α)

namespace Dialogue

variable {Question : Type} {Answer : Question → Type} {α β γ σ : Type}

/-- One dialogue after the other. -/
def bind : Dialogue Question Answer α → (α → Dialogue Question Answer β) →
    Dialogue Question Answer β
  | finish result, f => f result
  | ask question next, f => ask question fun answer => (next answer).bind f

instance : Monad (Dialogue Question Answer) where
  pure := finish
  bind := bind

/-- The dialogue that asks one question. -/
def query (question : Question) : Dialogue Question Answer (Answer question) :=
  ask question finish

/-- Holds a dialogue with somebody who has a state. -/
def run (respond : (question : Question) → σ → Answer question × σ) :
    Dialogue Question Answer α → σ → α × σ
  | finish result, state => (result, state)
  | ask question next, state =>
    let (answer, state) := respond question state
    (next answer).run respond state

/-- The dialogue in which every question is settled by a dialogue of other questions. -/
def settledBy {Question' : Type} {Answer' : Question' → Type}
    (settle : (question : Question) → Dialogue Question' Answer' (Answer question)) :
    Dialogue Question Answer α → Dialogue Question' Answer' α
  | finish result => finish result
  | ask question next => (settle question).bind fun answer => (next answer).settledBy settle

/-- A question with the answer it got. -/
abbrev Exchange (Question : Type) (Answer : Question → Type) : Type :=
  (question : Question) × Answer question

/-- `d.Yields trace result`: the answers in `trace` lead `d` to `result`, and the questions in
`trace` are the ones asked. -/
inductive Yields : Dialogue Question Answer α → List (Exchange Question Answer) → α → Prop
  | finish (result : α) : Yields (.finish result) [] result
  | ask {question : Question} {next : Answer question → Dialogue Question Answer α}
      {answer : Answer question} {trace : List (Exchange Question Answer)} {result : α} :
      Yields (next answer) trace result → Yields (.ask question next) (⟨question, answer⟩ :: trace)
        result

@[simp] theorem bind_finish (result : α) (f : α → Dialogue Question Answer β) :
    bind (finish result) f = f result := rfl

@[simp] theorem bind_ask (question : Question)
    (next : Answer question → Dialogue Question Answer α) (f : α → Dialogue Question Answer β) :
    bind (ask question next) f = ask question fun answer => (next answer).bind f := rfl

@[simp] theorem pure_eq_finish (result : α) :
    (pure result : Dialogue Question Answer α) = finish result := rfl

@[simp] theorem bind_eq_bind (d : Dialogue Question Answer α)
    (f : α → Dialogue Question Answer β) : d >>= f = d.bind f := rfl

theorem bind_pure (d : Dialogue Question Answer α) : d.bind finish = d := by
  induction d with
  | finish => rfl
  | ask question next ih => simp [ih]

theorem bind_assoc (d : Dialogue Question Answer α) (f : α → Dialogue Question Answer β)
    (g : β → Dialogue Question Answer γ) :
    (d.bind f).bind g = d.bind fun result => (f result).bind g := by
  induction d with
  | finish => rfl
  | ask question next ih => simp [ih]

instance : LawfulMonad (Dialogue Question Answer) := LawfulMonad.mk' _ bind_pure
  (fun _ _ => rfl) bind_assoc

@[simp] theorem run_finish (respond : (question : Question) → σ → Answer question × σ)
    (result : α) (state : σ) : (finish result).run respond state = (result, state) := rfl

@[simp] theorem run_ask (respond : (question : Question) → σ → Answer question × σ)
    (question : Question) (next : Answer question → Dialogue Question Answer α) (state : σ) :
    (ask question next).run respond state =
      (next (respond question state).1).run respond (respond question state).2 := rfl

theorem run_bind (respond : (question : Question) → σ → Answer question × σ)
    (d : Dialogue Question Answer α) (f : α → Dialogue Question Answer β) (state : σ) :
    (d.bind f).run respond state =
      (f (d.run respond state).1).run respond (d.run respond state).2 := by
  induction d generalizing state with
  | finish => rfl
  | ask question next ih => simp [ih]

theorem yields_bind {d : Dialogue Question Answer α} {f : α → Dialogue Question Answer β}
    {trace : List (Exchange Question Answer)} {result : β} :
    (d.bind f).Yields trace result ↔
      ∃ first second value, trace = first ++ second ∧ d.Yields first value ∧
        (f value).Yields second result := by
  induction d generalizing trace with
  | finish value =>
    refine ⟨fun h => ⟨[], trace, value, rfl, .finish value, h⟩, ?_⟩
    rintro ⟨first, second, _, rfl, hfirst, hsecond⟩
    cases hfirst
    exact hsecond
  | ask question next ih =>
    constructor
    · intro h
      cases h with
      | ask h =>
        obtain ⟨first, second, value, rfl, hfirst, hsecond⟩ := (ih _).1 h
        exact ⟨_ :: first, second, value, rfl, .ask hfirst, hsecond⟩
    · rintro ⟨first, second, value, rfl, hfirst, hsecond⟩
      cases hfirst with
      | ask hfirst => exact .ask ((ih _).2 ⟨_, second, value, rfl, hfirst, hsecond⟩)

end Dialogue

end NamespaceBackup
