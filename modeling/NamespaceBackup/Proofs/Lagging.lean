import Mathlib.Data.List.Chain
import NamespaceBackup.Call.Summary
import NamespaceBackup.Proofs.Ledger
import NamespaceBackup.Proofs.Questions

/-!
# Restores behind a lagging cache

A pass decides what to do from its copy of the request, which may be older than what is stored. A
clean restore deletes objects only if its copy says that the namespace is still to be cleaned, and
loads objects only if its copy says that it was cleaned. Copies do not get older from pass to pass,
and no status that is stored leads back to cleaning. So nothing is deleted any more once anything
was loaded, however far the copies are behind and whatever fails.

## Main definitions

* `Saga.Deletes`, `Saga.Loads`: the questions that delete an object, and those that load one
* `Saga.Due`: what a clean restore may ask, by the copy that it was given and the one that it holds
* `Cache`: the stored versions of a request and how far they have been seen
* `Cache.surroundings`: passes that are given the last version seen

## Main results

* `Saga.reconcile_due`: a clean restore asks only what is due
* `Cache.reconcile_sound`: a pass deletes nothing after anything was loaded
* `Cache.not_loads_of_deletes`: nor does a run
-/

namespace NamespaceBackup

/-- Whether a call loads an object. -/
def Call.isApply : Call → Bool
  | applyManaged .. | applyConfigMap .. | applySecret .. => true
  | _ => false

namespace Saga

open Activity (Asks Ensures)

/-! ## What a copy allows -/

/-- The questions that delete an object. -/
def Deletes (question : Query) : Prop := ∃ c, question = .call c ∧ c.isDelete = true

/-- The questions that load an object. -/
def Loads (question : Query) : Prop := ∃ c, question = .call c ∧ c.isApply = true

@[simp] theorem deletes_call {c : Call} : Deletes (.call c) ↔ c.isDelete = true := by
  simp [Deletes]

@[simp] theorem loads_call {c : Call} : Loads (.call c) ↔ c.isApply = true := by
  simp [Loads]

@[simp] theorem not_deletes_clock : ¬ Deletes .clock := by simp [Deletes]

@[simp] theorem not_loads_clock : ¬ Loads .clock := by simp [Loads]

/-- The states of a clean restore in which nothing is deleted any more. -/
def Cleaned (state : State) : Prop := state ≠ .empty ∧ state ≠ .cleaning

instance (state : State) : Decidable (Cleaned state) := inferInstanceAs (Decidable (_ ∧ _))

theorem cleaned_reconciling : Cleaned .reconciling := by decide

theorem cleaned_restored : Cleaned .restored := by decide

/-- What a clean restore may ask that was given a copy in some state, apart from status writes. -/
structure Allows (given : State) (question : Query) : Prop where
  deletes : Deletes question → ¬ Cleaned given
  loads : Loads question → Cleaned given
  unwritten : ∀ written, question ≠ .call (.updateStatus written)

/-- What a clean restore may ask that was given a copy in some state and holds another one by now.
Its status writes do not lead back to cleaning. -/
inductive Due (given : State) (copy : Request) : Query → Prop
  | allowed {question : Query} (h : Allows given question) : Due given copy question
  | write {written : Request} (hmetadata : written.metadata = copy.metadata)
    (hcleaned : Cleaned copy.state → Cleaned written.state) :
    Due given copy (.call (.updateStatus written))

/-- How the copy of a pass changes with an exchange: it becomes what was stored, if the answer says
so, and what was stored has the status that was written. -/
inductive Hands : Request → Exchange → Request → Prop
  | stored {copy written stored : Request} (hstatus : stored.status = written.status) :
    Hands copy ⟨.call (.updateStatus written), (.ok stored : Except Failure Request)⟩ stored
  | refused {copy written : Request} {failure : Failure} :
    Hands copy ⟨.call (.updateStatus written), (.error failure : Except Failure Request)⟩ copy
  | other {copy : Request} {exchange : Exchange}
    (hunwritten : ∀ written, exchange.1 ≠ .call (.updateStatus written)) :
    Hands copy exchange copy

/-- The terms on which a clean restore is held. The world is the copy that the pass holds. -/
abbrev dueTerms (given : State) : Terms Query Query.Answer Request where
  asks := Due given
  answers := Hands

theorem Due.deletes {given : State} {copy : Request} {question : Query}
    (h : Due given copy question) (hdeletes : Deletes question) : ¬ Cleaned given := by
  cases h with
  | allowed h => exact h.deletes hdeletes
  | write => simp [Call.isDelete] at hdeletes

theorem Due.loads {given : State} {copy : Request} {question : Query} (h : Due given copy question)
    (hloads : Loads question) : Cleaned given := by
  cases h with
  | allowed h => exact h.loads hloads
  | write => simp [Call.isApply] at hloads

section Shapes

variable {given : State} {ns name selector reason : String} {inventory : Inventory}
  {content : Bundle.Content} {settings : Settings} {imaging : Imaging.Request}
  {task : Imaging.Task} {machines : List String} {question : Query}

theorem allows_clock : Allows given .clock := by
  constructor <;> simp

theorem allows_getBundle : Allows given (.call (.getBundle ns name)) := by
  constructor <;> simp [Call.isDelete, Call.isApply]

theorem allows_of_isListing (h : Inventory.IsListing ns selector question) :
    Allows given question := by
  cases h <;> constructor <;> simp [Call.isDelete, Call.isApply]

theorem allows_of_isDeletion (hgiven : ¬ Cleaned given)
    (h : Inventory.IsDeletion ns inventory question) : Allows given question := by
  cases h <;> constructor <;> simp [hgiven, Call.isApply]

theorem allows_of_isLoading (hgiven : Cleaned given) (h : IsLoading ns reason content question) :
    Allows given question := by
  cases h <;> constructor <;> simp [hgiven, Call.isDelete]

theorem allows_of_isImaging (h : Imaging.IsImaging settings imaging task machines question) :
    Allows given question := by
  cases h with
  | list => constructor <;> simp [Call.isDelete, Call.isApply]
  | handle h => cases h <;> constructor <;> simp [Call.isDelete, Call.isApply]

end Shapes

/-! ## The phases of a clean restore -/

section Phases

variable {given : State} {copy : Request} {settings : Settings} {ns : String} {bundle : Bundle}

/-- The world is still the copy of the pass. -/
def Held {α : Type} (_ : Except Failure α) (copy held : Request) : Prop := held = copy

/-- What only asks allowed questions comes before the rest of a pass. -/
theorem asks_bind_due {α β : Type} {P : Query → Prop} {x : Pass α} {f : α → Pass β} (hx : Asks P x)
    (hP : ∀ question, P question → Allows given question)
    (hf : ∀ value, Ensures (dueTerms given) (f value) copy copy Held) :
    Ensures (dueTerms given) (x >>= f) copy copy Held := by
  refine hx.preserves_bind (· = copy) (fun w question _ hq => .allowed (hP question hq)) ?_ rfl ?_ ?_
  · rintro w exchange v hw hq hhands
    cases hhands with
    | stored => exact absurd rfl ((hP _ hq).unwritten _)
    | refused => exact hw
    | other => exact hw
  · rintro value _ rfl
    exact hf value
  · rintro failure _ rfl
    exact rfl

theorem ofExcept_bind_due {α β : Type} {outcome : Except Failure α} {f : α → Pass β}
    (hf : ∀ value, Ensures (dueTerms given) (f value) copy copy Held) :
    Ensures (dueTerms given) (ofExcept outcome >>= f) copy copy Held := by
  cases outcome with
  | ok value => exact hf value
  | error failure => exact rfl

/-- A status write that does not lead back to cleaning is due. If it succeeds, the copy has the
state that was written. -/
theorem writeStatus_due {status : Request.Status} (h : Cleaned copy.state → Cleaned status.state)
    (message : String) :
    Ensures (dueTerms given) (writeStatus status message) copy copy fun outcome copy' held =>
      held = copy' ∧ (outcome = .ok () → copy'.state = status.state) := by
  refine ensures_writeStatus.2 ⟨.allowed allows_clock, fun now held hhands => ?_⟩
  obtain rfl : held = copy := by
    generalize hexchange : (⟨.clock, now⟩ : Exchange) = exchange at hhands
    cases hhands with
    | other => rfl
    | _ => cases hexchange
  split
  case isTrue hagrees =>
    obtain ⟨hstate, -⟩ := Request.Status.agrees_iff.1 hagrees
    exact ⟨rfl, fun _ => hstate⟩
  case isFalse =>
    refine ⟨.write rfl h, fun answer held hhands => ?_⟩
    cases hhands with
    | stored hstatus =>
      refine ⟨rfl, fun _ => ?_⟩
      rw [Request.state, Request.currentStatus, hstatus]
      rfl
    | refused => exact ⟨rfl, by simp⟩
    | other hunwritten => exact absurd rfl (hunwritten _)

theorem writeStatus_held {status : Request.Status} (h : Cleaned copy.state → Cleaned status.state)
    (message : String) :
    Ensures (dueTerms given) (writeStatus status message) copy copy Held :=
  (writeStatus_due h message).mono fun _ _ _ hheld => hheld.1

theorem transition_held {state : State} (h : Cleaned copy.state → Cleaned state)
    (message : String) : Ensures (dueTerms given) (transition state message) copy copy Held := by
  refine ensures_transition.2 (writeStatus_held ?_ message)
  exact h

/-- Cleaning is due as long as the copy that was given says so. -/
theorem clean_due (hgiven : ¬ Cleaned given) (hstate : copy.state = .cleaning) :
    Ensures (dueTerms given) (clean settings ns) copy copy Held := by
  have hcopy : ¬ Cleaned copy.state := fun h => h.2 hstate
  refine asks_bind_due (Inventory.collect_asks ns _) (fun _ => allows_of_isListing) fun inventory => ?_
  refine asks_bind_due (Inventory.clear_asks ns inventory) (fun _ => allows_of_isDeletion hgiven)
    fun cleared => ?_
  cases cleared <;> exact transition_held (fun h => absurd h hcopy) _

/-- Loading is due once the copy that was given says that the namespace was cleaned. -/
theorem load_due (hgiven : Cleaned given) :
    Ensures (dueTerms given) (load settings ns bundle) copy copy Held := by
  rw [load, Activity.ensures_bind, Activity.ensures_get, Activity.then_ok]
  refine asks_bind_due (loadObjects_asks ns _ bundle.content)
    (fun _ => allows_of_isLoading hgiven) fun _ => ?_
  have hfinish : ∀ status, Ensures (dueTerms given) (finishLoad bundle status) copy copy Held :=
    fun status => writeStatus_held (fun _ => cleaned_reconciling) _
  by_cases himages : copy.spec.includeImages = true
  · rw [if_pos himages]
    refine ofExcept_bind_due fun marker => ?_
    refine asks_bind_due (Imaging.within_runPass_asks _ _ _ _ _ _) (fun _ => allows_of_isImaging)
      fun (pending, recorded) => ?_
    dsimp only
    by_cases hpending : pending.isEmpty = true
    · rw [if_pos hpending]
      exact hfinish _
    · rw [if_neg hpending]
      refine writeStatus_held ?_ _
      exact id
  · rw [if_neg himages]
    exact hfinish _

/-- Waiting for the controllers neither deletes nor loads anything. -/
theorem awaitRestored_due :
    Ensures (dueTerms given) (awaitRestored settings ns bundle) copy copy Held := by
  refine asks_bind_due (Inventory.collect_asks ns _) (fun _ => allows_of_isListing) fun inventory => ?_
  by_cases hquiesced : (Quiescence.evaluateRestored bundle.content inventory).quiesced = true
  · rw [if_pos hquiesced, Activity.ensures_bind, Activity.ensures_get, Activity.then_ok]
    refine asks_bind_due (Asks.now (P := (· = .clock)) rfl) ?_ fun now => ?_
    · rintro _ rfl
      exact allows_clock
    · exact writeStatus_held (fun _ => cleaned_restored) _
  · rw [if_neg hquiesced]
    exact transition_held (fun _ => cleaned_reconciling) _

/-- Past the empty state, a clean restore works on the phase that its copy is in. -/
theorem restorePhase_due (hclean : copy.state = .cleaning → ¬ Cleaned given)
    (hload : copy.state = .loading → Cleaned given) :
    Ensures (dueTerms given) (restorePhase settings ns bundle) copy copy Held :=
  ensures_restorePhase (fun hstate => clean_due (hclean hstate) hstate)
    (fun hstate => load_due (hload hstate)) (fun _ => awaitRestored_due)
    fun _ _ _ _ => rfl

/-- A clean restore that starts goes on with cleaning. -/
theorem restoreFrom_due (hmode : copy.spec.mode = .cleanRestore) :
    Ensures (dueTerms copy.state) (restoreFrom settings ns bundle) copy copy Held := by
  rw [ensures_restoreFrom, if_pos hmode]
  split
  case isTrue hempty =>
    -- The copy that was given is before cleaning, so cleaning is due although the copy changes.
    have hgiven : ¬ Cleaned copy.state := fun h => h.1 hempty
    have hstart : Ensures (dueTerms copy.state)
        (transition .cleaning "Removing managed objects") copy copy fun outcome copy' held =>
          held = copy' ∧ (outcome = .ok () → copy'.state = .cleaning) :=
      ensures_transition.2 (writeStatus_due (fun h => absurd h hgiven) _)
    refine hstart.bind ?_ fun _ _ _ h => h.1
    rintro _ _ started ⟨rfl, hstate⟩
    have hcleaning : started.state = .cleaning := hstate rfl
    exact restorePhase_due (fun _ => hgiven) (by simp [hcleaning])
  case isFalse =>
    -- The copy of the phase is the one that was given.
    refine restorePhase_due (fun hstate h => h.2 hstate) fun hstate => ?_
    rw [hstate]
    decide

/-- A clean restore asks only what is due. -/
theorem reconcile_due (hmode : copy.spec.mode = .cleanRestore) :
    Ensures (dueTerms copy.state) (reconcile settings) copy copy fun _ copy' held =>
      held = copy' := by
  refine ensures_reconcile (fun _ => rfl) fun _ => ?_
  have hpass : Ensures (dueTerms copy.state) (pass settings .cleanRestore) copy copy Held := by
    refine ensures_restorePass.2 ?_
    refine ofExcept_bind_due fun ns => ?_
    refine asks_bind_due (sourceBundle_asks ns) ?_ fun bundle => restoreFrom_due hmode
    rintro _ ⟨name, rfl⟩
    exact allows_getBundle
  rw [hmode]
  refine hpass.mono fun outcome copy' held hheld => ?_
  obtain rfl : held = copy' := hheld
  cases outcome with
  | ok => exact rfl
  | error failure =>
    refine ⟨fun _ => rfl, fun _ => ?_⟩
    exact transition_held (fun _ => by decide) _

end Phases

end Saga

/-! ## How far the versions have been seen -/

/-- The stored versions of a request, and those of them that have been seen. -/
structure Cache where
  /-- All stored versions, the newest first. -/
  ledger : Ledger
  /-- The versions up to the last one seen. -/
  seen : Ledger
  seen_suffix : seen <:+ ledger

namespace Cache

open Activity (Ensures)
open Saga (Cleaned Deletes Due Hands Loads)

/-- A request that was just stored has been seen. -/
def ofRequest (request : Request) : Cache := ⟨[request], [request], List.suffix_refl _⟩

/-- How a question is answered: as by a ledger, except that a failure may hide that a status was
stored. -/
inductive Answers : Ledger → Exchange → Ledger → Prop
  | told {ledger ledger' : Ledger} {exchange : Exchange}
    (h : Ledger.surroundings.answers ledger exchange ledger') : Answers ledger exchange ledger'
  | hidden {ledger ledger' : Ledger} {written stored : Request} (failure : Failure)
    (h : Ledger.surroundings.answers ledger
      ⟨.call (.updateStatus written), (.ok stored : Except Failure Request)⟩ ledger') :
    Answers ledger
      ⟨.call (.updateStatus written), (.error failure : Except Failure Request)⟩ ledger'

/-- Passes over one request, each given the last version that was seen, while others write it at any
time. Between two passes newer versions may be seen, or not. -/
def surroundings : Saga.Surroundings Cache where
  answers cache exchange cache' :=
    Answers cache.ledger exchange cache'.ledger ∧ cache'.seen = cache.seen
  gives cache request := ∃ older, cache.seen = request :: older
  between cache cache' := Ledger.Edits cache.ledger cache'.ledger ∧ cache.seen <:+ cache'.seen

/-! ## Ledgers that do not lead back -/

/-- The versions of a clean restore, none of which leads back to cleaning. -/
structure Forward (ledger : Ledger) : Prop where
  cleaned : ledger.Pairwise fun newer older => Cleaned older.state → Cleaned newer.state
  mode : ∀ request ∈ ledger, request.spec.mode = .cleanRestore
  /-- Versions of one number are in one state. -/
  versions : ∀ a ∈ ledger, ∀ b ∈ ledger,
    a.metadata.resourceVersion = b.metadata.resourceVersion → a.state = b.state

variable {settings : Settings} {given : State} {request current newer copy : Request}
  {ledger ledger' older later : Ledger} {version : String} {cache cache' : Cache}
  {exchange : Exchange} {earlier before : List Exchange}

theorem Forward.cons (h : Forward (current :: older))
    (hcleaned : Cleaned current.state → Cleaned newer.state)
    (hmode : newer.spec.mode = current.spec.mode)
    (hversion : newer.metadata.resourceVersion = some version)
    (hunused : Ledger.Unused version (current :: older)) : Forward (newer :: current :: older) where
  cleaned := by
    refine List.pairwise_cons.2 ⟨fun old hold hcleaned' => hcleaned ?_, h.cleaned⟩
    rcases List.mem_cons.1 hold with rfl | hold
    · exact hcleaned'
    · exact List.rel_of_pairwise_cons h.cleaned hold hcleaned'
  mode := by
    intro request hrequest
    rcases List.mem_cons.1 hrequest with rfl | hrequest
    · exact hmode.trans (h.mode current (by simp))
    · exact h.mode request hrequest
  versions := Ledger.eq_of_version_eq_cons h.versions hversion hunused

/-- What others write leads nowhere, and removes no version. -/
theorem Forward.edits (h : Forward ledger) (hedits : Ledger.Edits ledger ledger') :
    Forward ledger' ∧ ledger ⊆ ledger' := by
  induction hedits with
  | none => exact ⟨h, List.Subset.refl _⟩
  | @edit current edited older version _ hstatus hmode hversion hunused ih =>
    have hstate : edited.state = current.state := by
      rw [Request.state, Request.currentStatus, hstatus]
      rfl
    exact ⟨ih.1.cons (fun hcleaned => hstate ▸ hcleaned) hmode hversion hunused,
      List.Subset.trans ih.2 (List.subset_cons_self _ _)⟩

/-- A status that is due does not lead back, since the version on top of which it is stored is in
the state of the copy. -/
theorem Forward.write (h : Forward (current :: older)) (hcopy : copy ∈ current :: older)
    {written : Request} (hdue : Due given copy (.call (.updateStatus written)))
    (hmatch : written.metadata.resourceVersion = current.metadata.resourceVersion)
    (hunused : Ledger.Unused version (current :: older)) :
    Forward (Ledger.rewritten current written.status version :: current :: older) := by
  cases hdue with
  | allowed hallows => exact absurd rfl (hallows.unwritten _)
  | write hmetadata hcleaned =>
    have hstate : copy.state = current.state :=
      h.versions _ hcopy current (by simp) (hmetadata ▸ hmatch)
    exact h.cons (fun hcurrent => hcleaned (hstate ▸ hcurrent)) rfl rfl hunused

/-- No answer to what is due leads back, whether or not the pass is told what happened. -/
theorem Answers.forward (h : Answers ledger exchange ledger') (hledger : Forward ledger)
    (hcopy : copy ∈ ledger) (hdue : Due given copy exchange.1) :
    ∃ copy', Hands copy exchange copy' ∧ Forward ledger' ∧ copy' ∈ ledger' := by
  cases h with
  | told h =>
    obtain ⟨between, hedits, hanswer⟩ := h
    obtain ⟨hbetween, hsub⟩ := hledger.edits hedits
    cases hanswer with
    | other hother => exact ⟨copy, .other hother, hbetween, hsub hcopy⟩
    | refused failure => exact ⟨copy, .refused, hbetween, hsub hcopy⟩
    | stored hmatch hunused =>
      exact ⟨_, .stored rfl, hbetween.write (hsub hcopy) hdue hmatch hunused, by simp⟩
  | hidden failure h =>
    -- The pass keeps its copy, which is still a version below the one that was stored.
    obtain ⟨between, hedits, hanswer⟩ := h
    obtain ⟨hbetween, hsub⟩ := hledger.edits hedits
    cases hanswer with
    | other hother => exact absurd rfl (hother _)
    | stored hmatch hunused =>
      exact ⟨copy, .refused, hbetween.write (hsub hcopy) hdue hmatch hunused,
        List.mem_cons_of_mem _ (hsub hcopy)⟩

/-! ## Passes and runs -/

/-- Where a run stands: no version leads back, and the last one seen is past cleaning if anything
was loaded. -/
structure Sound (earlier : List Exchange) (cache : Cache) : Prop where
  forward : Forward cache.ledger
  seen : ∃ request older, cache.seen = request :: older ∧
    ((∃ exchange ∈ earlier, Loads exchange.1) → Cleaned request.state)

/-- Once a version was past cleaning, so are all that are seen after it. -/
theorem Sound.between (h : Sound earlier cache) (hbetween : surroundings.between cache cache') :
    Sound earlier cache' := by
  obtain ⟨hedits, hsuffix⟩ := hbetween
  have hforward := (h.forward.edits hedits).1
  obtain ⟨request, older, hseen, hcleaned⟩ := h.seen
  have hrequest : request ∈ cache'.seen := hsuffix.subset (by simp [hseen])
  have hpairwise := hforward.cleaned.sublist cache'.seen_suffix.sublist
  cases hseen' : cache'.seen with
  | nil => simp [hseen'] at hrequest
  | cons newer later =>
    -- What was seen last before is seen last still, or has newer versions in front of it.
    rw [hseen'] at hrequest hpairwise
    refine ⟨hforward, newer, later, hseen', fun hloaded => ?_⟩
    rcases List.mem_cons.1 hrequest with rfl | hrequest
    · exact hcleaned hloaded
    · exact List.rel_of_pairwise_cons hpairwise hrequest (hcleaned hloaded)

/-- What may be asked if nothing is deleted after anything was loaded. -/
def DeletesFirst (earlier : List Exchange) (after : Cache × List Exchange) (question : Query) :
    Prop :=
  Deletes question → ∀ exchange ∈ earlier ++ after.2, ¬ Loads exchange.1

/-- A pass deletes nothing after anything was loaded. -/
theorem reconcile_sound (h : Sound earlier cache) (hgives : surroundings.gives cache request) :
    Ensures ⟨DeletesFirst earlier, surroundings.answers.recorded⟩ (Saga.reconcile settings)
      request (cache, []) fun _ _ after => Sound (earlier ++ after.2) after.1 := by
  obtain ⟨older, hgiven⟩ := hgives
  obtain ⟨request', older', hseen, hcleaned⟩ := h.seen
  obtain ⟨rfl, rfl⟩ := List.cons.inj (hseen.symm.trans hgiven)
  have hheld : request' ∈ cache.ledger := cache.seen_suffix.subset (by simp [hseen])
  have hdue : Ensures (Saga.dueTerms request'.state) (Saga.reconcile settings) request' request'
      fun _ copy held => held = copy := Saga.reconcile_due (h.forward.mode _ hheld)
  -- The copy of the pass is a stored version, and what was loaded in the pass is as the copy that
  -- was given allows.
  refine (Dialogue.Ensures.transfer
    (fun copy after => Forward after.1.ledger ∧ copy ∈ after.1.ledger ∧
      after.1.seen = cache.seen ∧ ∀ exchange ∈ after.2, Loads exchange.1 → Cleaned request'.state)
    ?_ ?_ hdue ⟨h.forward, hheld, rfl, by simp⟩).mono ?_
  · rintro copy after question ⟨-, -, -, hloads⟩ hdue hdeletes exchange hexchange hexchange'
    refine hdue.deletes hdeletes ?_
    rcases List.mem_append.1 hexchange with hexchange | hexchange
    · exact hcleaned ⟨exchange, hexchange, hexchange'⟩
    · exact hloads exchange hexchange hexchange'
  · rintro copy after exchange after' ⟨hforward, hcopy, hsame, hloads⟩ hdue
      ⟨⟨hanswers, hunseen⟩, hjournal⟩
    obtain ⟨copy', hhands, hforward', hcopy'⟩ := hanswers.forward hforward hcopy hdue
    refine ⟨copy', hhands, hforward', hcopy', hunseen.trans hsame, fun e he => ?_⟩
    rw [hjournal] at he
    rcases List.mem_append.1 he with he | he
    · exact hloads e he
    · rw [List.mem_singleton.1 he]
      exact hdue.loads
  · rintro _ after ⟨copy, ⟨hforward, -, hsame, hloads⟩, -⟩
    refine ⟨hforward, request', older', hsame.trans hseen, ?_⟩
    rintro ⟨exchange, hexchange, hexchange'⟩
    rcases List.mem_append.1 hexchange with hexchange | hexchange
    · exact hcleaned ⟨exchange, hexchange, hexchange'⟩
    · exact hloads exchange hexchange hexchange'

/-- In a run of a clean restore, however far the copies of its passes are behind, nothing is deleted
after anything was loaded. -/
theorem not_loads_of_deletes {first : Request} {transcripts : List (List Exchange)}
    (hmode : first.spec.mode = .cleanRestore)
    (hrun : Saga.Runs surroundings settings (ofRequest first) transcripts cache) {question : Query}
    (hasked : Saga.Asked transcripts earlier before question) (hdeletes : Deletes question) :
    ∀ exchange ∈ earlier ++ before, ¬ Loads exchange.1 := by
  have hstart : Sound [] (ofRequest first) := by
    refine ⟨⟨List.pairwise_singleton _ _, ?_, ?_⟩, first, [], rfl, by simp⟩
    · simp [ofRequest, hmode]
    · simp [ofRequest]
  obtain ⟨u, hfirst⟩ := hrun.asked Sound DeletesFirst hstart
    (fun _ _ _ h hbetween => h.between hbetween) (fun _ _ _ h hgives => reconcile_sound h hgives)
    hasked
  exact hfirst hdeletes

/-! ## A run -/

/-- All versions but the newest ones have been seen. -/
def behind (ledger : Ledger) (unseen : Nat) : Cache :=
  ⟨ledger, ledger.drop unseen, List.drop_suffix _ _⟩

/-- The only object of a namespace, which is also in its bundle. -/
def options : ConfigMap where
  metadata := { name := some "options" }

def nightly : Bundle where
  metadata := { name := some "nightly" }
  content := { configMaps := [options] }

def rollback : Request where
  metadata := { name := some "rollback", ns := some "cloud", resourceVersion := some "1" }
  spec := { mode := .cleanRestore, restoreSource := some "nightly" }

/-- Serves a ledger, the bundle and a namespace in which some config maps are left. -/
def respond (left : List ConfigMap) : (question : Query) → Cache → question.Answer × Cache
  | .clock, cache => ((default : Instant), cache)
  | .call (.updateStatus request), cache =>
    ((Ledger.write request cache.ledger).1,
      ⟨(Ledger.write request cache.ledger).2, cache.seen,
        cache.seen_suffix.trans (Ledger.suffix_write request cache.ledger)⟩)
  | .call (.getBundle _ _), cache =>
    ((.ok (some nightly) : Except Failure (Option Bundle)), cache)
  | .call (.listManaged _ _), cache => ((.ok [] : Except Failure (List Resource)), cache)
  | .call (.listConfigMaps _ _), cache => ((.ok left : Except Failure (List ConfigMap)), cache)
  | .call (.listSecrets _ _), cache => ((.ok [] : Except Failure (List Secret)), cache)
  | .call (.deleteConfigMap _ _), cache => ((.ok () : Except Failure Unit), cache)
  | .call (.applyConfigMap _ _), cache => ((.ok () : Except Failure Unit), cache)
  | .call c, cache => ((.error (.api "not served") : Except Failure c.Answer), cache)

theorem answers_respond (left : List ConfigMap) (question : Query) (cache : Cache) :
    surroundings.answers cache ⟨question, (respond left question cache).1⟩
      (respond left question cache).2 := by
  cases question with
  | clock => exact ⟨.told ⟨_, .none, .other (by simp)⟩, rfl⟩
  | call c =>
    cases c with
    | updateStatus request => exact ⟨.told ⟨_, .none, Ledger.answers_write _ _⟩, rfl⟩
    | _ => exact ⟨.told ⟨_, .none, .other (by simp)⟩, rfl⟩

/-- A pass that is given a version with some newer ones. -/
def turn (left : List ConfigMap) (unseen : Nat) (cache : Cache) : List Exchange × Cache :=
  let cache := behind cache.ledger unseen
  let request := cache.seen.headD rollback
  ((Saga.reconcile {} request).transcript (respond left) cache,
    ((Saga.reconcile {} request).run (respond left) cache).2)

theorem runs_turn {transcripts : List (List Exchange)} {unseen : Nat} (left : List ConfigMap)
    (hrun : Saga.Runs surroundings {} (ofRequest rollback) transcripts cache)
    (hseen : cache.seen <:+ cache.ledger.drop unseen) (hne : cache.ledger.drop unseen ≠ []) :
    Saga.Runs surroundings {} (ofRequest rollback) (transcripts ++ [(turn left unseen cache).1])
      (turn left unseen cache).2 := by
  refine hrun.pass_transcript (answers_respond left) ⟨.none, hseen⟩ ⟨(cache.ledger.drop unseen).tail, ?_⟩
  obtain ⟨request, older, hcons⟩ := List.exists_cons_of_ne_nil hne
  simp [behind, hcons]

/-- The second pass does not know that the first one has gone on after its first write. -/
def turns : List (List Exchange) × Cache :=
  let first := turn [options] 0 (ofRequest rollback)
  let second := turn [options] 1 first.2
  let third := turn [] 0 second.2
  let fourth := turn [] 0 third.2
  ([first.1, second.1, third.1, fourth.1], fourth.2)

/-- The second pass deletes what it finds although it is behind, and the fourth one loads. -/
theorem turns_delete_first :
    turns.1.map (fun transcript =>
        (transcript.any (·.1 = .call (.deleteConfigMap "cloud" "options")),
          transcript.any (·.1 = .call (.applyConfigMap "cloud" (options.reloaded "cloud"))))) =
      [(true, false), (true, false), (false, false), (false, true)] ∧
    ∀ earlier before question, Saga.Asked turns.1 earlier before question → Deletes question →
      ∀ exchange ∈ earlier ++ before, ¬ Loads exchange.1 := by
  have hrun : Saga.Runs surroundings {} (ofRequest rollback) turns.1 turns.2 := by
    refine runs_turn [] (runs_turn [] (runs_turn [options] (runs_turn [options] .start ?_ ?_)
      ?_ ?_) ?_ ?_) ?_ ?_
    all_goals decide +kernel
  refine ⟨by decide +kernel, fun _ _ _ hasked hdeletes => ?_⟩
  exact not_loads_of_deletes rfl hrun hasked hdeletes

end Cache

end NamespaceBackup
