import NamespaceBackup.Proofs.Activity

/-!
# Activities that are apart

Two activities one after the other may have nothing to do with each other. Each has a part of the
state that all it does depends on, and leaves the parts of the others as they are. Then each of them
does to its part what it would do alone, whatever comes before it, and their order does not matter.

## Main definitions

* `Activity.held`: an activity carried out with somebody who has a state
* `Activity.Respects`: an activity that depends on its part only
* `Activity.Leaves`: an activity that leaves a part as it is
* `Activity.Apart`: activities that depend on parts of their own

## Main results

* `Activity.Respects.bind`, `Activity.Respects.outcome`: the rules
* `Activity.Apart.held_mapM`: activities that are apart do what they would do alone
* `Activity.Apart.exists_parts`: and they succeed together only if each would alone
-/

namespace NamespaceBackup.Activity

variable {σ α β κ ω : Type} (respond : (question : Query) → ω → question.Answer × ω)

/-- Carries out an activity with somebody who has a state: its outcome, and what becomes of its own
state and of theirs. -/
def held (x : Activity σ α) (state : σ × ω) : Except Failure α × σ × ω :=
  let (ended, world) := (x state.1).run respond state.2
  (ended.1, ended.2, world)

/-- The terms of a conversation with somebody who answers in one way only. -/
abbrev answering : Terms Query Query.Answer ω where
  answers w exchange v := respond exchange.1 w = (exchange.2, v)

variable {respond}

/-- What is ensured with somebody is what happens with them. -/
theorem Ensures.of_held {x : Activity σ α} {s : σ} {w : ω} {post : Except Failure α → σ → ω → Prop}
    (h : Ensures (answering respond) x s w post) :
    post (held respond x (s, w)).1 (held respond x (s, w)).2.1 (held respond x (s, w)).2.2 :=
  h.ends (Dialogue.yields_transcript respond _ w)
    (Dialogue.path_transcript respond (fun _ _ => rfl) _ w)

theorem held_bind {x : Activity σ α} {f : α → Activity σ β} {state : σ × ω} :
    held respond (x >>= f) state =
      match held respond x state with
      | (.ok value, between) => held respond (f value) between
      | (.error failure, between) => (.error failure, between) := by
  have hrun : (x >>= f) state.1 = (x state.1).bind fun ended =>
      match ended with
      | (.ok value, s) => f value s
      | (.error failure, s) => .finish (.error failure, s) :=
    congrArg ((x state.1).bind) (funext fun ended => by rcases ended with ⟨_ | _, _⟩ <;> rfl)
  simp only [held, hrun, Dialogue.run_bind]
  split <;> simp_all

theorem held_outcome {x : Activity σ α} {state : σ × ω} :
    held respond x.outcome state = (.ok (held respond x state).1, (held respond x state).2) := by
  simp only [held, outcome, Dialogue.run_bind]
  rfl

theorem held_bind_of_ok {x : Activity σ α} {f : α → Activity σ β} {state : σ × ω} {value : α}
    (h : (held respond x state).1 = .ok value) :
    held respond (x >>= f) state = held respond (f value) (held respond x state).2 := by
  rw [held_bind]
  split
  case h_1 value' between heq =>
    rw [heq] at h ⊢
    cases h
    rfl
  case h_2 failure between heq =>
    rw [heq] at h
    cases h

theorem held_bind_of_error {x : Activity σ α} {f : α → Activity σ β} {state : σ × ω}
    {failure : Failure} (h : (held respond x state).1 = .error failure) :
    held respond (x >>= f) state = (.error failure, (held respond x state).2) := by
  rw [held_bind]
  split
  case h_1 value between heq =>
    rw [heq] at h
    cases h
  case h_2 failure' between heq =>
    rw [heq] at h ⊢
    cases h
    rfl

/-! ## What an activity depends on -/

variable (respond) {same : σ × ω → σ × ω → Prop}

/-- In states whose part in question is the same, an activity ends alike and leaves it the same. -/
def Respects (same : σ × ω → σ × ω → Prop) (x : Activity σ α) : Prop :=
  ∀ a b, same a b →
    (held respond x a).1 = (held respond x b).1 ∧ same (held respond x a).2 (held respond x b).2

/-- An activity leaves the part in question as it is. -/
def Leaves (same : σ × ω → σ × ω → Prop) (x : Activity σ α) : Prop :=
  ∀ a, same a (held respond x a).2

variable {respond}

namespace Respects

protected theorem pure (value : α) : Respects respond same (pure value : Activity σ α) :=
  fun _ _ h => ⟨rfl, h⟩

protected theorem throw (failure : Failure) :
    Respects respond same (throw failure : Activity σ α) :=
  fun _ _ h => ⟨rfl, h⟩

protected theorem bind {x : Activity σ α} {f : α → Activity σ β} (hx : Respects respond same x)
    (hf : ∀ value, Respects respond same (f value)) : Respects respond same (x >>= f) := by
  intro a b hab
  obtain ⟨houtcome, hafter⟩ := hx a b hab
  cases hended : (held respond x a).1 with
  | ok value =>
    rw [held_bind_of_ok hended, held_bind_of_ok (houtcome.symm.trans hended)]
    exact hf value _ _ hafter
  | error failure =>
    rw [held_bind_of_error hended, held_bind_of_error (houtcome.symm.trans hended)]
    exact ⟨rfl, hafter⟩

protected theorem ofExcept (outcome : Except Failure α) :
    Respects respond same (ofExcept outcome : Activity σ α) := by
  cases outcome with
  | ok value => exact .pure value
  | error failure => exact .throw failure

theorem ofExcept_bind {outcome : Except Failure α} {f : α → Activity σ β}
    (hf : ∀ value, outcome = .ok value → Respects respond same (f value)) :
    Respects respond same (ofExcept outcome >>= f) := by
  cases outcome with
  | ok value => exact hf value rfl
  | error failure => exact fun _ _ h => ⟨rfl, h⟩

protected theorem outcome {x : Activity σ α} (hx : Respects respond same x) :
    Respects respond same x.outcome := by
  intro a b hab
  rw [held_outcome, held_outcome, (hx a b hab).1]
  exact ⟨rfl, (hx a b hab).2⟩

theorem modify {change : σ → σ}
    (h : ∀ a b, same a b → same (change a.1, a.2) (change b.1, b.2)) :
    Respects respond same (modify change : Activity σ PUnit) := fun a b hab => ⟨rfl, h a b hab⟩

/-- A call is answered alike and leaves states that are the same. -/
theorem call {c : Call}
    (h : ∀ a b, same a b → (respond (.call c) a.2).1 = (respond (.call c) b.2).1 ∧
      same (a.1, (respond (.call c) a.2).2) (b.1, (respond (.call c) b.2).2)) :
    Respects respond same (Activity.call c : Activity σ c.Answer) := h

end Respects

/-! ## Activities one after the other -/

section mapM

variable {f : κ → Activity σ β} {k : κ} {ks ks' : List κ} {a : σ × ω}

theorem held_mapM_cons_of_ok {y : β} (h : (held respond (f k) a).1 = .ok y) :
    held respond ((k :: ks).mapM f) a =
      ((held respond (ks.mapM f) (held respond (f k) a).2).1.map (y :: ·),
        (held respond (ks.mapM f) (held respond (f k) a).2).2) := by
  rw [List.mapM_cons, held_bind_of_ok h, held_bind]
  split
  case h_1 ys between heq =>
    rw [heq]
    rfl
  case h_2 failure between heq =>
    rw [heq]
    rfl

theorem held_mapM_cons_of_error {failure : Failure}
    (h : (held respond (f k) a).1 = .error failure) :
    held respond ((k :: ks).mapM f) a = (.error failure, (held respond (f k) a).2) := by
  rw [List.mapM_cons, held_bind_of_error h]

/-- What each of some activities leaves as it is, all of them leave so. -/
theorem Leaves.mapM (hsame : Equivalence same) (h : ∀ k ∈ ks, Leaves respond same (f k)) :
    Leaves respond same (ks.mapM f) := by
  intro a
  induction ks generalizing a with
  | nil => exact hsame.refl a
  | cons k ks ih =>
    have hfirst := h k (by simp) a
    cases hended : (held respond (f k) a).1 with
    | ok y =>
      rw [held_mapM_cons_of_ok hended]
      exact hsame.trans hfirst (ih (fun j hj => h j (by simp [hj])) _)
    | error failure =>
      rw [held_mapM_cons_of_error hended]
      exact hfirst

/-- Activities each of which depends on a part of its own, which all others leave as it is. -/
structure Apart (respond : (question : Query) → ω → question.Answer × ω)
    (same : κ → σ × ω → σ × ω → Prop) (f : κ → Activity σ β) (ks : List κ) : Prop where
  equivalence : ∀ k ∈ ks, Equivalence (same k)
  respects : ∀ k ∈ ks, Respects respond (same k) (f k)
  leaves : ks.Pairwise fun j k => Leaves respond (same j) (f k) ∧ Leaves respond (same k) (f j)

namespace Apart

variable {same : κ → σ × ω → σ × ω → Prop}

theorem of_cons (h : Apart respond same f (k :: ks)) : Apart respond same f ks where
  equivalence j hj := h.equivalence j (by simp [hj])
  respects j hj := h.respects j (by simp [hj])
  leaves := (List.pairwise_cons.1 h.leaves).2

/-- After the first of them, all others do what they would have done before it. -/
theorem after_first (h : Apart respond same f (k :: ks)) {j : κ} (hj : j ∈ ks) (a : σ × ω) :
    (held respond (f j) a).1 = (held respond (f j) (held respond (f k) a).2).1 ∧
      same j (held respond (f j) a).2 (held respond (f j) (held respond (f k) a).2).2 :=
  h.respects j (by simp [hj]) _ _ (((List.pairwise_cons.1 h.leaves).1 j hj).2 a)

/-- Activities that are apart succeed if each would alone, and do to their parts what they would do
alone. -/
theorem held_mapM (h : Apart respond same f ks) {block : κ → β}
    (hok : ∀ k ∈ ks, (held respond (f k) a).1 = .ok (block k)) :
    (held respond (ks.mapM f) a).1 = .ok (ks.map block) ∧
      ∀ k ∈ ks, same k (held respond (f k) a).2 (held respond (ks.mapM f) a).2 := by
  induction ks generalizing a with
  | nil => exact ⟨rfl, by simp⟩
  | cons k ks ih =>
    have hlater : ∀ j ∈ ks, (held respond (f j) (held respond (f k) a).2).1 = .ok (block j) :=
      fun j hj => (h.after_first hj a).1.symm.trans (hok j (by simp [hj]))
    obtain ⟨hrest, hparts⟩ := ih h.of_cons hlater
    rw [held_mapM_cons_of_ok (hok k (by simp)), hrest]
    refine ⟨rfl, fun j hj => ?_⟩
    obtain rfl | hj := List.mem_cons.1 hj
    · -- The first one's part is not touched any more.
      have hleaves : Leaves respond (same j) (ks.mapM f) :=
        .mapM (h.equivalence j (by simp)) fun i hi => ((List.pairwise_cons.1 h.leaves).1 i hi).1
      exact hleaves _
    · exact (h.equivalence j (by simp [hj])).trans (h.after_first hj a).2 (hparts j hj)

/-- If activities that are apart succeed one after the other, each of them would alone. -/
theorem isOk_of_mapM (h : Apart respond same f ks) {ys : List β}
    (hok : (held respond (ks.mapM f) a).1 = .ok ys) :
    ∀ k ∈ ks, ∃ y, (held respond (f k) a).1 = .ok y := by
  induction ks generalizing a ys with
  | nil => simp
  | cons k ks ih =>
    cases hended : (held respond (f k) a).1 with
    | error failure =>
      rw [held_mapM_cons_of_error hended] at hok
      cases hok
    | ok y =>
      rw [held_mapM_cons_of_ok hended] at hok
      intro j hj
      obtain rfl | hj := List.mem_cons.1 hj
      · exact ⟨y, hended⟩
      · cases hrest : (held respond (ks.mapM f) (held respond (f k) a).2).1 with
        | error failure =>
          rw [hrest] at hok
          cases hok
        | ok zs =>
          obtain ⟨z, hz⟩ := ih h.of_cons hrest j hj
          exact ⟨z, (h.after_first hj a).1.trans hz⟩

/-- What activities that are apart give one after the other is what each of them gives alone. -/
theorem exists_parts [Inhabited β] (h : Apart respond same f ks) {ys : List β}
    (hok : (held respond (ks.mapM f) a).1 = .ok ys) :
    ∃ block, ys = ks.map block ∧ ∀ k ∈ ks, (held respond (f k) a).1 = .ok (block k) := by
  have hparts : ∀ k ∈ ks, (held respond (f k) a).1 =
      .ok ((held respond (f k) a).1.toOption.getD default) := by
    intro k hk
    obtain ⟨y, hy⟩ := h.isOk_of_mapM hok k hk
    rw [hy]
    rfl
  exact ⟨_, Except.ok.inj (hok.symm.trans (h.held_mapM hparts).1), hparts⟩

end Apart

end mapM

end NamespaceBackup.Activity
