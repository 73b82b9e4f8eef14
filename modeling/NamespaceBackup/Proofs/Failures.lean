import NamespaceBackup.Proofs.Activity

/-!
# Where failures come from

An activity fails because a call was answered with a failure, or for a reason of its own. If no
call is answered with a failure of some sort, and no reason of its own is of that sort, then the
activity does not fail in that way.

## Main definitions

* `Activity.Spares`: an activity does not fail in a bad way

## Main results

* `Activity.Spares.bind`, `Activity.Spares.outcome`, `Activity.Spares.within`,
  `Activity.Spares.forM`, `Activity.Spares.mapM`: the rules
-/

namespace NamespaceBackup.Activity

variable {σ τ α β : Type} {hears : Exchange → Prop} {bad : Failure → Prop}

/-- The terms on which anything may be asked, while `hears` says what may be answered. -/
abbrev hearing (hears : Exchange → Prop) : Terms Query Query.Answer Unit where
  answers _ exchange _ := hears exchange

/-- A transcript in which all that was answered may be answered. -/
theorem path_hearing {transcript : List Exchange} (h : ∀ exchange ∈ transcript, hears exchange) :
    (hearing hears).answers.Path () transcript () := by
  induction transcript with
  | nil => exact .nil ()
  | cons exchange transcript ih =>
    exact .cons (h exchange (by simp)) (ih fun e he => h e (by simp [he]))

/-- No call is answered with a bad failure. -/
def Spared (hears : Exchange → Prop) (bad : Failure → Prop) : Prop :=
  ∀ (c : Call) failure, hears ⟨.call c, (.error failure : Except Failure c.Answer)⟩ → ¬ bad failure

/-- An activity does not fail in a bad way. -/
def Spares (hears : Exchange → Prop) (bad : Failure → Prop) (x : Activity σ α) : Prop :=
  ∀ s, Ensures (hearing hears) x s () fun outcome _ _ => ∀ failure, outcome = .error failure →
    ¬ bad failure

namespace Spares

variable {x : Activity σ α}

protected theorem pure (value : α) : Spares hears bad (pure value : Activity σ α) := fun _ => nofun

protected theorem throw {failure : Failure} (h : ¬ bad failure) :
    Spares hears bad (throw failure : Activity σ α) := by
  rintro s _ ⟨⟩
  exact h

protected theorem modify (change : σ → σ) :
    Spares hears bad (modify change : Activity σ PUnit) := fun _ => nofun

protected theorem get : Spares hears bad (get : Activity σ σ) := fun _ => nofun

protected theorem set (t : σ) : Spares hears bad (set t : Activity σ PUnit) := fun _ => nofun

protected theorem now : Spares hears bad (now : Activity σ Instant) :=
  fun _ => ⟨trivial, fun _ _ _ => nofun⟩

protected theorem ofExcept {outcome : Except Failure α}
    (h : ∀ failure, outcome = .error failure → ¬ bad failure) :
    Spares hears bad (ofExcept outcome : Activity σ α) := fun _ => ensures_ofExcept.2 h

protected theorem call (hspared : Spared hears bad) (c : Call) :
    Spares hears bad (call c : Activity σ c.Answer) := by
  refine fun s => ⟨trivial, fun answer _ hanswer failure heq => ?_⟩
  change answer = .error failure at heq
  subst heq
  exact hspared c failure hanswer

protected theorem bind {f : α → Activity σ β} (hx : Spares hears bad x)
    (hf : ∀ value, Spares hears bad (f value)) : Spares hears bad (x >>= f) := fun s =>
  (hx s).bind (fun value s _ _ => hf value s) fun failure _ _ h failure' heq =>
    h failure' (by cases heq; rfl)

/-- What is known of the value of an activity may be used in the one after it. -/
theorem bind_known {known : α → Prop} {f : α → Activity σ β} (hx : Spares hears bad x)
    (hknown : ∀ s, Ensures (hearing hears) x s () fun outcome _ _ =>
      ∀ value, outcome = .ok value → known value)
    (hf : ∀ value, known value → Spares hears bad (f value)) :
    Spares hears bad (x >>= f) := fun s =>
  ((hx s).and (hknown s)).bind (fun value s _ h => hf value (h.2 value rfl) s)
    fun failure _ _ h failure' heq => h.1 failure' (by cases heq; rfl)

theorem ofExcept_bind {outcome : Except Failure α} {f : α → Activity σ β}
    (h : ∀ failure, outcome = .error failure → ¬ bad failure)
    (hf : ∀ value, outcome = .ok value → Spares hears bad (f value)) :
    Spares hears bad (ofExcept outcome >>= f) := by
  cases outcome with
  | ok value => exact hf value rfl
  | error failure =>
    rintro s _ ⟨⟩
    exact h failure rfl

/-- What failed may be looked at; a failure that is handed on was not a bad one. -/
theorem outcome_bind {f : Except Failure α → Activity σ β} (hx : Spares hears bad x)
    (hf : ∀ outcome, (∀ failure, outcome = .error failure → ¬ bad failure) →
      Spares hears bad (f outcome)) : Spares hears bad (x.outcome >>= f) := fun s =>
  ensures_bind.2 (ensures_outcome.2 ((hx s).mono fun outcome s _ h => hf outcome h s))

protected theorem within {t : τ} {y : Activity τ α} (hy : Spares hears bad y) :
    Spares hears bad (within t y : Activity σ (α × τ)) := by
  refine fun s => ensures_within.2 ((hy t).mono ?_)
  rintro (failure | value) t _ h failure' heq
  · cases heq
    exact h failure rfl
  · cases heq

protected theorem forM {xs : List α} {f : α → Activity σ PUnit}
    (h : ∀ x ∈ xs, Spares hears bad (f x)) : Spares hears bad (xs.forM f) := by
  induction xs with
  | nil => exact .pure PUnit.unit
  | cons x xs ih =>
    change Spares hears bad (f x >>= fun _ => xs.forM f)
    exact (h x (by simp)).bind fun _ => ih fun y hy => h y (by simp [hy])

protected theorem foldlM {xs : List β} {f : α → β → Activity σ α} {init : α}
    (h : ∀ value, ∀ x ∈ xs, Spares hears bad (f value x)) :
    Spares hears bad (xs.foldlM f init) := by
  induction xs generalizing init with
  | nil => exact .pure init
  | cons x xs ih =>
    rw [List.foldlM_cons]
    exact (h init x (by simp)).bind fun value => ih fun value y hy => h value y (by simp [hy])

protected theorem mapM {xs : List α} {f : α → Activity σ β}
    (h : ∀ x ∈ xs, Spares hears bad (f x)) : Spares hears bad (xs.mapM f) := by
  induction xs with
  | nil => exact .pure []
  | cons x xs ih =>
    rw [List.mapM_cons]
    refine (h x (by simp)).bind fun y => ?_
    exact (ih fun z hz => h z (by simp [hz])).bind fun ys => .pure (y :: ys)

end Spares

end NamespaceBackup.Activity
