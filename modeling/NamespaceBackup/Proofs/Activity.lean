import NamespaceBackup.Call
import NamespaceBackup.Proofs.Conversation

/-!
# What activities ensure

An activity is a dialogue with clock and cluster that may fail and has a state of its own. There
is one rule for each way in which activities are put together; with them the calls of a pass are
followed one by one, on whatever terms the cluster answers.

## Main definitions

* `Activity.Ensures`: what holds of outcome, own state and world after an activity
* `Activity.Asks`: which questions an activity asks at most, keeping its own state
* `Activity.Safe`: an activity that asks only what it may, in whatever state
* `Activity.Maintains`: an activity that keeps what holds of its own state

## Main results

* `Activity.ensures_bind`, `Activity.ensures_call`, `Activity.ensures_outcome`,
  `Activity.ensures_within`: the rules
* `Activity.Asks.preserves`, `Activity.Asks.preserves_bind`: what its questions cannot disturb
  survives an activity
* `Activity.Asks.ensures_of_answers`: terms replaced by others that give the same answers
-/

namespace NamespaceBackup

/-- A question to clock or cluster with its answer. -/
abbrev Exchange : Type := Dialogue.Exchange Query Query.Answer

namespace Activity

variable {σ τ α β ω : Type} {T : Terms Query Query.Answer ω} {s : σ} {w : ω}

/-- On the given terms, an activity asks only what it may, and ends as `post` says of its outcome,
its own state and the world. -/
def Ensures (T : Terms Query Query.Answer ω) (x : Activity σ α) (s : σ) (w : ω)
    (post : Except Failure α → σ → ω → Prop) : Prop :=
  Dialogue.Ensures T (x s) w fun outcome v => post outcome.1 outcome.2 v

/-- What holds after the first of two activities, so that `post` holds after both. A failure of
the first is that of both. -/
def Then (T : Terms Query Query.Answer ω) (f : α → Activity σ β)
    (post : Except Failure β → σ → ω → Prop) : Except Failure α → σ → ω → Prop
  | .ok value, s, w => Ensures T (f value) s w post
  | .error failure, s, w => post (.error failure) s w

@[simp] theorem then_ok {f : α → Activity σ β} {post : Except Failure β → σ → ω → Prop}
    {value : α} : Then T f post (.ok value) s w ↔ Ensures T (f value) s w post := Iff.rfl

@[simp] theorem then_error {f : α → Activity σ β} {post : Except Failure β → σ → ω → Prop}
    {failure : Failure} : Then T f post (.error failure) s w ↔ post (.error failure) s w := Iff.rfl

section Rules

variable {post post' : Except Failure α → σ → ω → Prop}

theorem Ensures.mono {x : Activity σ α} (h : Ensures T x s w post)
    (hpost : ∀ outcome s v, post outcome s v → post' outcome s v) : Ensures T x s w post' :=
  Dialogue.Ensures.mono h fun outcome v => hpost outcome.1 outcome.2 v

theorem Ensures.and {x : Activity σ α} (h : Ensures T x s w post) (h' : Ensures T x s w post') :
    Ensures T x s w fun outcome s v => post outcome s v ∧ post' outcome s v :=
  Dialogue.Ensures.and h h'

@[simp] theorem ensures_pure {value : α} :
    Ensures T (pure value : Activity σ α) s w post ↔ post (.ok value) s w := Iff.rfl

@[simp] theorem ensures_throw {failure : Failure} :
    Ensures T (throw failure : Activity σ α) s w post ↔ post (.error failure) s w := Iff.rfl

@[simp] theorem ensures_get {post : Except Failure σ → σ → ω → Prop} :
    Ensures T (get : Activity σ σ) s w post ↔ post (.ok s) s w := Iff.rfl

@[simp] theorem ensures_set {post : Except Failure PUnit → σ → ω → Prop} {t : σ} :
    Ensures T (set t : Activity σ PUnit) s w post ↔ post (.ok ⟨⟩) t w := Iff.rfl

@[simp] theorem ensures_modify {post : Except Failure PUnit → σ → ω → Prop} {change : σ → σ} :
    Ensures T (modify change : Activity σ PUnit) s w post ↔ post (.ok ⟨⟩) (change s) w := Iff.rfl

@[simp] theorem ensures_ofExcept {outcome : Except Failure α} :
    Ensures T (ofExcept outcome : Activity σ α) s w post ↔ post outcome s w := by
  cases outcome <;> rfl

@[simp] theorem ensures_now {post : Except Failure Instant → σ → ω → Prop} :
    Ensures T (now : Activity σ Instant) s w post ↔
      T.asks w .clock ∧ ∀ instant v, T.answers w ⟨.clock, instant⟩ v → post (.ok instant) s v :=
  Iff.rfl

@[simp] theorem ensures_call {c : Call} {post : Except Failure c.Answer → σ → ω → Prop} :
    Ensures T (call c : Activity σ c.Answer) s w post ↔
      T.asks w (.call c) ∧ ∀ answer v, T.answers w ⟨.call c, answer⟩ v → post answer s v :=
  Iff.rfl

@[simp] theorem ensures_bind {x : Activity σ α} {f : α → Activity σ β}
    {post : Except Failure β → σ → ω → Prop} :
    Ensures T (x >>= f) s w post ↔ Ensures T x s w (Then T f post) := by
  refine Dialogue.ensures_bind.trans (iff_of_eq (congrArg _ (funext fun outcome => ?_)))
  rcases outcome with ⟨failure | value, t⟩ <;> rfl

/-- A call before the rest of an activity. -/
theorem ensures_call_bind {c : Call} {f : c.Answer → Activity σ β}
    {post : Except Failure β → σ → ω → Prop} :
    Ensures T (call c >>= f) s w post ↔ T.asks w (.call c) ∧
      ∀ (answer : Except Failure c.Answer) v, T.answers w ⟨.call c, answer⟩ v →
        Then T f post answer s v :=
  ensures_bind.trans ensures_call

@[simp] theorem ensures_outcome {x : Activity σ α}
    {post : Except Failure (Except Failure α) → σ → ω → Prop} :
    Ensures T x.outcome s w post ↔ Ensures T x s w fun outcome => post (.ok outcome) :=
  Dialogue.ensures_bind

@[simp] theorem ensures_within {t : τ} {x : Activity τ α}
    {post : Except Failure (α × τ) → σ → ω → Prop} :
    Ensures T (within t x : Activity σ (α × τ)) s w post ↔
      Ensures T x t w fun outcome t' => post (outcome.map fun value => (value, t')) s :=
  Dialogue.ensures_bind

/-- Two activities, the first of which ensures what the second needs. -/
theorem Ensures.bind {x : Activity σ α} {f : α → Activity σ β}
    {post' : Except Failure β → σ → ω → Prop} (h : Ensures T x s w post)
    (hok : ∀ value s v, post (.ok value) s v → Ensures T (f value) s v post')
    (herror : ∀ failure s v, post (.error failure) s v → post' (.error failure) s v) :
    Ensures T (x >>= f) s w post' := by
  refine ensures_bind.2 (h.mono fun outcome s v hpost => ?_)
  cases outcome with
  | ok value => exact hok value s v hpost
  | error failure => exact herror failure s v hpost

theorem ensures_mapM_cons {x : α} {xs : List α} {f : α → Activity σ β}
    {post : Except Failure (List β) → σ → ω → Prop} :
    Ensures T ((x :: xs).mapM f) s w post ↔
      Ensures T (f x) s w (Then T (fun y => xs.mapM f >>= fun ys => pure (y :: ys)) post) := by
  rw [List.mapM_cons, ensures_bind]

/-- What each of some activities keeps, however it ends, holds after all of them. -/
theorem ensures_mapM {xs : List α} {f : α → Activity σ β} (inv : σ → ω → Prop)
    (h : ∀ x ∈ xs, ∀ s w, inv s w → Ensures T (f x) s w fun _ s' v => inv s' v) (hinv : inv s w) :
    Ensures T (xs.mapM f) s w fun _ s' v => inv s' v := by
  induction xs generalizing s w with
  | nil => exact hinv
  | cons x xs ih =>
    rw [List.mapM_cons]
    refine (h x (by simp) s w hinv).bind (fun y s' v hv => ?_) fun _ _ _ hv => hv
    refine (ih (fun z hz => h z (by simp [hz])) hv).bind ?_ fun _ _ _ hu => hu
    exact fun _ _ _ hu => hu

/-- What the questions of an activity cannot disturb holds after it as before. -/
theorem Ensures.preserves (inv : ω → Prop) {P : Query → Prop} {x : Activity σ α}
    {post : Except Failure α → σ → Unit → Prop} (h : Ensures (Terms.only P) x s () post)
    (hasks : ∀ w question, inv w → P question → T.asks w question)
    (hanswers : ∀ w exchange v, inv w → P exchange.1 → T.answers w exchange v → inv v)
    (hw : inv w) : Ensures T x s w fun outcome s' v => post outcome s' () ∧ inv v :=
  -- The narrow terms have no world of their own, so `inv` alone relates the two.
  (Dialogue.Ensures.transfer (fun _ v => inv v) (fun _ w question => hasks w question)
    (fun _ w exchange v hw hP h => ⟨(), trivial, hanswers w exchange v hw hP h⟩) h hw).mono
    fun _ _ ⟨_, hv, hpost⟩ => ⟨hpost, hv⟩

/-- Terms that allow more questions ensure what narrower ones do. -/
theorem Ensures.widen {P Q : Query → Prop} {x : Activity σ α}
    {post : Except Failure α → σ → Unit → Prop} (h : Ensures (Terms.only P) x s () post)
    (hPQ : ∀ question, P question → Q question) : Ensures (Terms.only Q) x s () post :=
  (h.preserves (fun _ => True) (fun _ question _ => hPQ question) (fun _ _ _ _ _ _ => trivial)
    trivial).mono fun _ _ _ hpost => hpost.1

end Rules

/-! ## Questions that an activity asks at most -/

/-- An activity asks only questions of which `P` holds, and keeps its own state. -/
def Asks (P : Query → Prop) (x : Activity σ α) : Prop :=
  ∀ s, Ensures (Terms.only P) x s () fun _ s' _ => s' = s

namespace Asks

variable {P Q : Query → Prop} {x : Activity σ α}

protected theorem pure (value : α) : Asks P (pure value : Activity σ α) := fun _ => rfl

protected theorem throw (failure : Failure) : Asks P (throw failure : Activity σ α) := fun _ => rfl

protected theorem ofExcept (outcome : Except Failure α) :
    Asks P (ofExcept outcome : Activity σ α) := fun _ => ensures_ofExcept.2 rfl

protected theorem call {c : Call} (h : P (.call c)) : Asks P (call c : Activity σ c.Answer) :=
  fun _ => ⟨h, fun _ _ _ => rfl⟩

protected theorem now (h : P .clock) : Asks P (now : Activity σ Instant) :=
  fun _ => ⟨h, fun _ _ _ => rfl⟩

protected theorem bind {f : α → Activity σ β} (hx : Asks P x) (hf : ∀ value, Asks P (f value)) :
    Asks P (x >>= f) := fun s =>
  (hx s).bind (fun value s' _ hs => (hf value s').mono fun _ _ _ h => h.trans hs)
    fun _ _ _ hs => hs

protected theorem outcome (hx : Asks P x) : Asks P x.outcome := fun s => ensures_outcome.2 (hx s)

protected theorem forM {xs : List α} {f : α → Activity σ PUnit} (h : ∀ x ∈ xs, Asks P (f x)) :
    Asks P (xs.forM f) := by
  induction xs with
  | nil => exact Asks.pure PUnit.unit
  | cons x xs ih =>
    change Asks P (f x >>= fun _ => xs.forM f)
    exact (h x (by simp)).bind fun _ => ih fun y hy => h y (by simp [hy])

protected theorem foldlM {xs : List β} {f : α → β → Activity σ α} {init : α}
    (h : ∀ value, ∀ x ∈ xs, Asks P (f value x)) : Asks P (xs.foldlM f init) := by
  induction xs generalizing init with
  | nil => exact .pure init
  | cons x xs ih =>
    rw [List.foldlM_cons]
    exact (h init x (by simp)).bind fun value => ih fun value y hy => h value y (by simp [hy])

/-- An activity on a state of its own keeps that of the activity around it. -/
protected theorem within {t : τ} {y : Activity τ α} {post : Except Failure α → τ → Unit → Prop}
    (h : Ensures (Terms.only P) y t () post) : Asks P (within t y : Activity σ (α × τ)) :=
  fun _ => ensures_within.2 (h.mono fun _ _ _ _ => rfl)

theorem mono (hx : Asks P x) (h : ∀ question, P question → Q question) : Asks Q x :=
  fun s => (hx s).widen h

/-- What the questions of an activity cannot disturb holds after it as before, and its own state
is what it was. -/
theorem preserves (inv : ω → Prop) (hx : Asks P x)
    (hasks : ∀ w question, inv w → P question → T.asks w question)
    (hanswers : ∀ w exchange v, inv w → P exchange.1 → T.answers w exchange v → inv v)
    (hw : inv w) : Ensures T x s w fun _ s' v => s' = s ∧ inv v :=
  (hx s).preserves inv hasks hanswers hw

/-- An activity ends in the same way on terms on which its questions are answered alike. -/
theorem ensures_of_answers {T' : Terms Query Query.Answer ω}
    {post : Except Failure α → σ → ω → Prop}
    (hx : Asks P x) (hasks : ∀ w question, P question → T'.asks w question)
    (hanswers : ∀ w exchange v, P exchange.1 → T'.answers w exchange v → T.answers w exchange v)
    (h : Ensures T x s w post) : Ensures T' x s w post := by
  suffices hd : ∀ (d : Dialogue Query Query.Answer (Except Failure α × σ)) w,
      (d.Ensures (Terms.only P) () fun _ _ => True) →
      (d.Ensures T w fun result v => post result.1 result.2 v) →
      d.Ensures T' w fun result v => post result.1 result.2 v from
    hd (x s) w ((hx s).mono fun _ _ _ _ => trivial) h
  intro d
  induction d with
  | finish => exact fun _ _ h => h
  | ask question next ih =>
    intro w hasked h
    refine ⟨hasks w question hasked.1, fun answer v hanswer => ?_⟩
    exact ih answer v (hasked.2 answer () trivial)
      (h.2 answer v (hanswers w ⟨question, answer⟩ v hasked.1 hanswer))

/-- An activity whose questions cannot disturb what holds comes before the rest. -/
theorem preserves_bind {f : α → Activity σ β} {post : Except Failure β → σ → ω → Prop}
    (inv : ω → Prop) (hx : Asks P x)
    (hasks : ∀ w question, inv w → P question → T.asks w question)
    (hanswers : ∀ w exchange v, inv w → P exchange.1 → T.answers w exchange v → inv v)
    (hw : inv w) (hf : ∀ value v, inv v → Ensures T (f value) s v post)
    (herror : ∀ failure v, inv v → post (.error failure) s v) : Ensures T (x >>= f) s w post := by
  refine (hx.preserves inv hasks hanswers hw).bind ?_ ?_
  · rintro value _ v ⟨rfl, hv⟩
    exact hf value v hv
  · rintro failure _ v ⟨rfl, hv⟩
    exact herror failure v hv

end Asks

/-! ## Activities that are safe in every state -/

/-- An activity asks only what it may, whatever its own state and that of the world. -/
def Safe (T : Terms Query Query.Answer ω) (x : Activity σ α) : Prop :=
  ∀ s w, Ensures T x s w fun _ _ _ => True

namespace Safe

variable {x : Activity σ α}

theorem of_asks {P : Query → Prop} (hx : Asks P x)
    (hP : ∀ w question, P question → T.asks w question) : Safe T x := fun _ _ =>
  (hx.preserves (fun _ => True) (fun w question _ => hP w question) (fun _ _ _ _ _ _ => trivial)
    trivial).mono fun _ _ _ _ => trivial

/-- What the questions of an activity cannot disturb holds after it as before. -/
theorem preserves {P : Query → Prop} (inv : ω → Prop) (hx : Safe (Terms.only P) x)
    (hasks : ∀ w question, inv w → P question → T.asks w question)
    (hanswers : ∀ w exchange v, inv w → P exchange.1 → T.answers w exchange v → inv v)
    (hw : inv w) : Ensures T x s w fun _ _ v => inv v :=
  ((hx s ()).preserves inv hasks hanswers hw).mono fun _ _ _ h => h.2

protected theorem pure (value : α) : Safe T (pure value : Activity σ α) := fun _ _ => trivial

protected theorem modify (change : σ → σ) : Safe T (modify change : Activity σ PUnit) :=
  fun _ _ => trivial

theorem ofExcept_bind {outcome : Except Failure α} {f : α → Activity σ β}
    (h : ∀ value, outcome = .ok value → Safe T (f value)) : Safe T (ofExcept outcome >>= f) := by
  cases outcome with
  | ok value => exact h value rfl
  | error failure => exact fun _ _ => trivial

protected theorem bind {f : α → Activity σ β} (hx : Safe T x) (hf : ∀ value, Safe T (f value)) :
    Safe T (x >>= f) := fun s w =>
  (hx s w).bind (fun value s v _ => hf value s v) fun _ _ _ _ => trivial

theorem get_bind {f : σ → Activity σ β} (hf : ∀ s, Safe T (f s)) : Safe T (get >>= f) :=
  fun s w => by
    rw [ensures_bind, ensures_get, then_ok]
    exact hf s s w

protected theorem mapM {xs : List α} {f : α → Activity σ β} (h : ∀ x ∈ xs, Safe T (f x)) :
    Safe T (xs.mapM f) := by
  induction xs with
  | nil => exact Safe.pure []
  | cons x xs ih =>
    rw [List.mapM_cons]
    refine (h x (by simp)).bind fun y => ?_
    exact (ih fun z hz => h z (by simp [hz])).bind fun ys => .pure (y :: ys)

end Safe

/-! ## Activities that maintain what holds of their own state -/

/-- An activity asks only what it may, and what holds of its own state holds after it as before,
however it ends. -/
def Maintains (T : Terms Query Query.Answer Unit) (inv : σ → Prop) (x : Activity σ α) : Prop :=
  ∀ s, inv s → Ensures T x s () fun _ s' _ => inv s'

end Activity

end NamespaceBackup
