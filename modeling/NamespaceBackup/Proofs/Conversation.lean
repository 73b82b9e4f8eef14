import NamespaceBackup.Dialogue

/-!
# Conversations

A dialogue leaves open who answers it. Here the other side is a relation: in a state of the world
an exchange may take place, and leaves another state. What a dialogue does in every conversation
is followed question by question, and holds of each of its transcripts in the end.

## Main definitions

* `Respondent`: which exchanges may take place, and what they leave behind
* `Respondent.Path`: exchanges that take place one after the other
* `Terms`: a respondent together with the questions that it may be asked
* `Dialogue.transcript`: the conversation with somebody who has a state
* `Dialogue.Ensures`: what holds at the end of every conversation on given terms

## Main results

* `Dialogue.ensures_bind`: one dialogue after the other
* `Dialogue.Ensures.ends`, `Dialogue.Ensures.asked`: what was ensured holds of every transcript
* `Dialogue.Ensures.transfer`: terms replaced by others that simulate them
-/

namespace NamespaceBackup

variable {Question : Type} {Answer : Question → Type} {α β ω ω' : Type}

/-- Who answers: the exchanges that may take place in a state of the world, with the state that
each of them leaves. -/
abbrev Respondent (Question : Type) (Answer : Question → Type) (ω : Type) : Type :=
  ω → Dialogue.Exchange Question Answer → ω → Prop

namespace Respondent

variable {R : Respondent Question Answer ω} {w v u : ω}
  {exchange : Dialogue.Exchange Question Answer}
  {trace first rest : List (Dialogue.Exchange Question Answer)}

/-- The exchanges of a transcript may take place one after the other. -/
inductive Path (R : Respondent Question Answer ω) :
    ω → List (Dialogue.Exchange Question Answer) → ω → Prop
  | nil (w : ω) : Path R w [] w
  | cons {w v u : ω} {exchange : Dialogue.Exchange Question Answer}
      {trace : List (Dialogue.Exchange Question Answer)} :
      R w exchange v → Path R v trace u → Path R w (exchange :: trace) u

@[simp] theorem path_nil : R.Path w [] v ↔ v = w := by
  constructor
  · intro h
    cases h
    rfl
  · rintro rfl
    exact .nil v

@[simp] theorem path_cons :
    R.Path w (exchange :: trace) u ↔ ∃ v, R w exchange v ∧ R.Path v trace u := by
  constructor
  · intro h
    cases h with
    | cons hexchange htrace => exact ⟨_, hexchange, htrace⟩
  · rintro ⟨v, hexchange, htrace⟩
    exact .cons hexchange htrace

theorem path_append :
    R.Path w (first ++ rest) u ↔ ∃ v, R.Path w first v ∧ R.Path v rest u := by
  induction first generalizing w with
  | nil => simp
  | cons exchange first ih =>
    simp only [List.cons_append, path_cons, ih]
    constructor
    · rintro ⟨v, hexchange, v', hfirst, hrest⟩
      exact ⟨v', ⟨v, hexchange, hfirst⟩, hrest⟩
    · rintro ⟨v', ⟨v, hexchange, hfirst⟩, hrest⟩
      exact ⟨v, hexchange, v', hfirst, hrest⟩

/-- The last exchange takes place after all others. -/
theorem path_concat :
    R.Path w (trace ++ [exchange]) u ↔ ∃ v, R.Path w trace v ∧ R v exchange u := by
  simp [path_append]

/-- Each exchange took place in some state of the world. -/
theorem Path.exists_of_mem (h : R.Path w trace v) (hmem : exchange ∈ trace) :
    ∃ u u', R u exchange u' := by
  obtain ⟨first, rest, rfl⟩ := List.append_of_mem hmem
  obtain ⟨u, -, hrest⟩ := path_append.1 h
  obtain ⟨u', hexchange, -⟩ := path_cons.1 hrest
  exact ⟨u, u', hexchange⟩

/-- What every exchange of a transcript keeps is kept by all of them. -/
theorem Path.invariant_of_mem (inv : ω → Prop) (h : R.Path w trace v) (hw : inv w)
    (hkept : ∀ w exchange v, exchange ∈ trace → inv w → R w exchange v → inv v) : inv v := by
  induction h with
  | nil => exact hw
  | cons hexchange _ ih =>
    refine ih (hkept _ _ _ (by simp) hw hexchange) fun w exchange v hmem => ?_
    exact hkept w exchange v (by simp [hmem])

/-- What every exchange keeps is kept by all of them. -/
theorem Path.invariant (inv : ω → Prop) (h : R.Path w trace v) (hw : inv w)
    (hkept : ∀ w exchange v, inv w → R w exchange v → inv v) : inv v :=
  h.invariant_of_mem inv hw fun w exchange v _ => hkept w exchange v

/-- Exchanges that leave the world as it is take place in one state of it. -/
theorem Path.of_constant (h : Path (fun w exchange v => v = w ∧ R w exchange w) w trace v) :
    v = w ∧ R.Path w trace w := by
  induction h with
  | nil => exact ⟨rfl, .nil _⟩
  | cons hexchange _ ih =>
    obtain ⟨rfl, hexchange⟩ := hexchange
    exact ⟨ih.1, .cons hexchange ih.2⟩

/-- The respondent beside whom a record of all exchanges is kept. -/
def recorded (R : Respondent Question Answer ω) :
    Respondent Question Answer (ω × List (Dialogue.Exchange Question Answer)) :=
  fun before exchange after =>
    R before.1 exchange after.1 ∧ after.2 = before.2 ++ [exchange]

/-- Keeping a record changes nothing about what may take place. -/
theorem Path.recorded (h : R.Path w trace v)
    (record : List (Dialogue.Exchange Question Answer)) :
    R.recorded.Path (w, record) trace (v, record ++ trace) := by
  induction h generalizing record with
  | nil => simp
  | @cons w v u exchange trace hexchange _ ih =>
    have hrest := ih (record ++ [exchange])
    rw [List.append_assoc] at hrest
    exact .cons ⟨hexchange, rfl⟩ hrest

end Respondent

namespace Dialogue

/-- The questions of a dialogue that is held with somebody who has a state, with the answers. -/
def transcript (respond : (question : Question) → ω → Answer question × ω) :
    Dialogue Question Answer α → ω → List (Exchange Question Answer)
  | finish _, _ => []
  | ask question next, w =>
    let (answer, v) := respond question w
    ⟨question, answer⟩ :: (next answer).transcript respond v

variable (respond : (question : Question) → ω → Answer question × ω)

theorem yields_transcript (d : Dialogue Question Answer α) (w : ω) :
    d.Yields (d.transcript respond w) (d.run respond w).1 := by
  induction d generalizing w with
  | finish result => exact .finish result
  | ask question next ih => exact .ask (ih _ _)

/-- What is answered may take place as long as `inv` is kept. -/
theorem path_transcript_of {R : Respondent Question Answer ω} {inv : ω → Prop}
    (hinv : ∀ question w, inv w →
      R w ⟨question, (respond question w).1⟩ (respond question w).2 ∧ inv (respond question w).2)
    (d : Dialogue Question Answer α) {w : ω} (hw : inv w) :
    R.Path w (d.transcript respond w) (d.run respond w).2 := by
  induction d generalizing w with
  | finish result => exact .nil w
  | ask question next ih => exact .cons (hinv question w hw).1 (ih _ (hinv question w hw).2)

theorem path_transcript {R : Respondent Question Answer ω}
    (hR : ∀ question w, R w ⟨question, (respond question w).1⟩ (respond question w).2)
    (d : Dialogue Question Answer α) (w : ω) :
    R.Path w (d.transcript respond w) (d.run respond w).2 :=
  have hinv (question : Question) (w : ω) (_ : True) :
      R w ⟨question, (respond question w).1⟩ (respond question w).2 ∧ True :=
    ⟨hR question w, trivial⟩
  path_transcript_of respond hinv d trivial

/-- What is answered in one way only leads to one result. -/
theorem Yields.run_eq {d : Dialogue Question Answer α} {trace : List (Exchange Question Answer)}
    {result : α} {w v : ω} (h : d.Yields trace result)
    (hpath : Respondent.Path (fun w exchange v => respond exchange.1 w = (exchange.2, v)) w trace v) :
    d.run respond w = (result, v) := by
  induction h generalizing w with
  | finish result =>
    obtain rfl := Respondent.path_nil.1 hpath
    rfl
  | ask _ ih =>
    obtain ⟨u, hanswer, hpath⟩ := Respondent.path_cons.1 hpath
    rw [run_ask, hanswer]
    exact ih hpath

end Dialogue

/-- The terms of a conversation: what may be asked in a state of the world, and what may be
answered. -/
structure Terms (Question : Type) (Answer : Question → Type) (ω : Type) where
  /-- The questions that may be asked. -/
  asks : ω → Question → Prop := fun _ _ => True
  /-- The exchanges that may take place. -/
  answers : Respondent Question Answer ω

namespace Terms

/-- The terms on which only some questions are asked, whatever is answered. -/
def only (P : Question → Prop) : Terms Question Answer Unit where
  asks _ question := P question
  answers _ _ _ := True

end Terms

namespace Dialogue

variable {T : Terms Question Answer ω} {T' : Terms Question Answer ω'}
  {d : Dialogue Question Answer α} {f : α → Dialogue Question Answer β} {w v : ω}
  {post post' : α → ω → Prop} {trace first rest : List (Exchange Question Answer)} {result : α}
  {exchange : Exchange Question Answer}

/-- On the given terms, a dialogue asks only what it may, and ends as `post` says. -/
def Ensures (T : Terms Question Answer ω) :
    Dialogue Question Answer α → ω → (α → ω → Prop) → Prop
  | finish result, w, post => post result w
  | ask question next, w, post =>
    T.asks w question ∧
      ∀ answer v, T.answers w ⟨question, answer⟩ v → (next answer).Ensures T v post

@[simp] theorem ensures_finish {post : α → ω → Prop} :
    (finish result : Dialogue Question Answer α).Ensures T w post ↔ post result w := Iff.rfl

@[simp] theorem ensures_ask {question : Question}
    {next : Answer question → Dialogue Question Answer α} :
    (ask question next).Ensures T w post ↔ T.asks w question ∧
      ∀ answer v, T.answers w ⟨question, answer⟩ v → (next answer).Ensures T v post := Iff.rfl

/-- A dialogue followed by another ensures what the other ensures after all its results. -/
theorem ensures_bind {post : β → ω → Prop} :
    (d.bind f).Ensures T w post ↔ d.Ensures T w fun result v => (f result).Ensures T v post := by
  induction d generalizing w with
  | finish result => rfl
  | ask question next ih => simp only [bind_ask, ensures_ask, ih]

theorem Ensures.mono (h : d.Ensures T w post) (hpost : ∀ result v, post result v → post' result v) :
    d.Ensures T w post' := by
  induction d generalizing w with
  | finish result => exact hpost result w h
  | ask question next ih => exact ⟨h.1, fun answer v hanswer => ih answer (h.2 answer v hanswer)⟩

/-- What a dialogue ensures in two ways it ensures at once. -/
theorem Ensures.and (h : d.Ensures T w post) (h' : d.Ensures T w post') :
    d.Ensures T w fun result v => post result v ∧ post' result v := by
  induction d generalizing w with
  | finish result => exact ⟨h, h'⟩
  | ask question next ih =>
    exact ⟨h.1, fun answer v hanswer => ih answer (h.2 answer v hanswer) (h'.2 answer v hanswer)⟩

/-- A dialogue that asks only what it may ends in the same way if it may ask anything. -/
theorem Ensures.unasked (h : d.Ensures T w post) : d.Ensures { answers := T.answers } w post := by
  induction d generalizing w with
  | finish result => exact h
  | ask question next ih => exact ⟨trivial, fun answer v hanswer => ih answer (h.2 answer v hanswer)⟩

/-- What a dialogue ensures holds at the end of every conversation. -/
theorem Ensures.ends (h : d.Ensures T w post) (hd : d.Yields trace result)
    (hpath : T.answers.Path w trace v) : post result v := by
  induction hd generalizing w with
  | finish result =>
    cases hpath
    exact h
  | ask _ ih =>
    obtain ⟨_, hexchange, hrest⟩ := Respondent.path_cons.1 hpath
    exact ih (h.2 _ _ hexchange) hrest

/-- Whatever was asked in a conversation was allowed at that moment. -/
theorem Ensures.asked (h : d.Ensures T w post) (hd : d.Yields (first ++ exchange :: rest) result)
    (hpath : T.answers.Path w first v) : T.asks v exchange.1 := by
  induction first generalizing d w with
  | nil =>
    cases hd
    cases hpath
    exact h.1
  | cons _ first ih =>
    obtain ⟨_, hexchange, hrest⟩ := Respondent.path_cons.1 hpath
    cases hd with
    | ask hd => exact ih (h.2 _ _ hexchange) hd hrest

/-- A conversation on terms that others simulate is also one on the others, as long as it asks
nothing that they forbid. -/
theorem Ensures.transfer (rel : ω → ω' → Prop) {w' : ω'}
    (hasks : ∀ w w' question, rel w w' → T.asks w question → T'.asks w' question)
    (hanswers : ∀ w w' exchange v', rel w w' → T.asks w exchange.1 → T'.answers w' exchange v' →
      ∃ v, T.answers w exchange v ∧ rel v v')
    (h : d.Ensures T w post) (hrel : rel w w') :
    d.Ensures T' w' fun result v' => ∃ v, rel v v' ∧ post result v := by
  induction d generalizing w w' with
  | finish result => exact ⟨w, hrel, h⟩
  | ask question next ih =>
    refine ⟨hasks w w' question hrel h.1, fun answer v' hanswer => ?_⟩
    -- What the others answer might have been answered here too.
    obtain ⟨v, hv, hrel'⟩ := hanswers w w' ⟨question, answer⟩ v' hrel h.1 hanswer
    exact ih answer (h.2 answer v hv) hrel'

end Dialogue

end NamespaceBackup
