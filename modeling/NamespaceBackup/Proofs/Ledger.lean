import NamespaceBackup.Proofs.Runs
import NamespaceBackup.Proofs.Track

/-!
# The ledger of a request

All versions of a request that were ever stored, the newest first. A status is written only on top
of the version that the writer has seen, and every write issues a version never used before; who
holds an older copy is refused. Others may write the request too, but not its status, and they do
not change what it asks for.

## Main definitions

* `Ledger`: the stored versions
* `Ledger.Edits`: what others write
* `Ledger.Answers`: how writes of the status are answered; all else may be answered in any way
* `Ledger.surroundings`: passes that are given the stored request or any older copy
* `Ledger.OnTrack`: a ledger whose versions follow the track of a mode

## Main results

* `Ledger.writeStatus_reaches`, `Ledger.transition_reaches`: writes that lead on keep a ledger on
  its track
* `Ledger.asks_atWork`: so does everything that writes no status
-/

namespace NamespaceBackup

/-- The stored versions of a request, the newest first. -/
abbrev Ledger : Type := List Request

namespace Ledger

/-- No stored version is the given one. -/
def Unused (version : String) (ledger : Ledger) : Prop :=
  ∀ request ∈ ledger, request.metadata.resourceVersion ≠ some version

/-- A request as stored with a new status under a new version. -/
def rewritten (request : Request) (status : Option Request.Status) (version : String) : Request :=
  { request with
    metadata := { request.metadata with resourceVersion := some version }
    status := status }

/-- What others write: anything but the status and the mode. -/
inductive Edits (before : Ledger) : Ledger → Prop
  | none : Edits before before
  | edit {current edited : Request} {older : Ledger} {version : String} :
    Edits before (current :: older) → edited.status = current.status →
    edited.spec.mode = current.spec.mode →
    edited.metadata.resourceVersion = some version → Unused version (current :: older) →
    Edits before (edited :: current :: older)

/-- How a question is answered. A write of the status is refused for any reason, or it is stored;
it is stored only if the copy that it was made from is the stored one. -/
inductive Answers : Ledger → Exchange → Ledger → Prop
  | other {ledger : Ledger} {exchange : Exchange}
    (h : ∀ request, exchange.1 ≠ .call (.updateStatus request)) : Answers ledger exchange ledger
  | refused {ledger : Ledger} {request : Request} (failure : Failure) :
    Answers ledger
      ⟨.call (.updateStatus request), (.error failure : Except Failure Request)⟩ ledger
  | stored {current request : Request} {older : Ledger} {version : String}
    (hmatch : request.metadata.resourceVersion = current.metadata.resourceVersion)
    (hunused : Unused version (current :: older)) :
    Answers (current :: older)
      ⟨.call (.updateStatus request),
        (.ok (rewritten current request.status version) : Except Failure Request)⟩
      (rewritten current request.status version :: current :: older)

/-- Passes over one request, each given some version of it, while others write it at any time. -/
def surroundings : Saga.Surroundings Ledger where
  answers ledger exchange ledger' :=
    ∃ between, Edits ledger between ∧ Answers between exchange ledger'
  gives ledger request := request ∈ ledger
  between := Edits

/-! ## A cluster that knows nothing but the request -/

/-- A version longer than all that were used. -/
def nextVersion (ledger : Ledger) : String :=
  ledger.foldr (fun request text => request.metadata.resourceVersion.getD "" ++ text) "+"

theorem unused_nextVersion (ledger : Ledger) : Unused (nextVersion ledger) ledger := by
  have hpos : ∀ ledger, 0 < (nextVersion ledger).length := by
    intro ledger
    induction ledger with
    | nil => decide
    | cons current older ih =>
      rw [nextVersion, List.foldr_cons, String.length_append]
      exact Nat.lt_add_left _ ih
  have hlonger : ∀ request ∈ ledger,
      (request.metadata.resourceVersion.getD "").length < (nextVersion ledger).length := by
    induction ledger with
    | nil => simp
    | cons current older ih =>
      intro request hrequest
      rw [nextVersion, List.foldr_cons, String.length_append]
      rcases List.mem_cons.1 hrequest with rfl | hrequest
      · exact Nat.lt_add_of_pos_right (hpos older)
      · exact Nat.lt_add_left _ (ih request hrequest)
  -- A version that was used cannot be longer than itself.
  intro request hrequest hversion
  have hlength := hlonger request hrequest
  rw [hversion] at hlength
  exact Nat.lt_irrefl _ hlength

/-- Stores a status if its copy is the newest version. -/
def write (request : Request) : Ledger → Except Failure Request × Ledger
  | [] => (.error (.notFound request.anyName), [])
  | current :: older =>
    if request.metadata.resourceVersion = current.metadata.resourceVersion then
      let stored := rewritten current request.status (nextVersion (current :: older))
      (.ok stored, stored :: current :: older)
    else (.error (.conflict "stale resourceVersion"), current :: older)

/-- Serves writes of the status and nothing else, while the clock stands still. -/
def respond : (question : Query) → Ledger → question.Answer × Ledger
  | .clock, ledger => ((default : Instant), ledger)
  | .call (.updateStatus request), ledger => write request ledger
  | .call c, ledger => ((.error (.api "not served") : Except Failure c.Answer), ledger)

theorem answers_write (request : Request) (ledger : Ledger) :
    Answers ledger ⟨.call (.updateStatus request), (write request ledger).1⟩
      (write request ledger).2 := by
  cases ledger with
  | nil => exact .refused _
  | cons current older =>
    rw [write]
    split
    case isTrue hmatch => exact .stored hmatch (unused_nextVersion _)
    case isFalse => exact .refused _

/-- Nothing that was stored is lost. -/
theorem suffix_write (request : Request) (ledger : Ledger) : ledger <:+ (write request ledger).2 := by
  cases ledger with
  | nil => exact List.suffix_refl _
  | cons current older =>
    rw [write]
    split
    case isTrue => exact List.suffix_cons _ _
    case isFalse => exact List.suffix_refl _

theorem answers_respond (question : Query) (ledger : Ledger) :
    surroundings.answers ledger ⟨question, (respond question ledger).1⟩
      (respond question ledger).2 := by
  refine ⟨ledger, .none, ?_⟩
  cases question with
  | clock => exact .other (by simp)
  | call c =>
    cases c with
    | updateStatus request => exact answers_write request ledger
    | _ => exact .other (by simp)

/-! ## Ledgers on a track -/

/-- How one version of a request leads to the next: by a step of the track, with a history that
goes on with the old one, and not at all once nothing more is to be done. -/
structure Precedes (mode : Mode) (older newer : Request) : Prop where
  /-- The track leads from state to state. -/
  leads : mode.Leads older.state newer.state
  /-- The history goes on with the old one. -/
  history : older.currentStatus.conditions.map (·.typeName) <+:
    newer.currentStatus.conditions.map (·.typeName)
  /-- A status at an end of the track stays as it is. -/
  final : older.state.isTerminal = true → newer.currentStatus = older.currentStatus

/-- A ledger that follows a track: each version leads to the next newer one, each status tells an
itinerary, and a version number stands for one status. -/
structure OnTrack (mode : Mode) (ledger : Ledger) : Prop where
  /-- Every version leads to the one that was stored after it. -/
  chain : ledger.IsChain fun newer older => Precedes mode older newer
  /-- Every version is of the mode and tells an itinerary of it. -/
  follows : ∀ request ∈ ledger, request.spec.mode = mode ∧ request.currentStatus.Follows mode
  /-- Versions of one number have one status. -/
  versions : ∀ a ∈ ledger, ∀ b ∈ ledger,
    a.metadata.resourceVersion = b.metadata.resourceVersion → a.currentStatus = b.currentStatus

variable {mode : Mode} {ledger ledger' older : Ledger} {current request newer : Request}
  {version : String}

theorem onTrack_singleton (hmode : request.spec.mode = mode) (hstatus : request.status = none) :
    OnTrack mode [request] where
  chain := .singleton request
  follows := by
    simp only [List.mem_singleton, forall_eq]
    refine ⟨hmode, ?_⟩
    rw [Request.currentStatus, hstatus]
    exact Request.Status.follows_default mode
  versions := by simp

/-- The number of a new version is not that of any older one, so whatever the number of a version
tells about it goes on being told. -/
theorem eq_of_version_eq_cons {α : Type} {f : Request → α}
    (h : ∀ a ∈ ledger, ∀ b ∈ ledger,
      a.metadata.resourceVersion = b.metadata.resourceVersion → f a = f b)
    (hversion : newer.metadata.resourceVersion = some version) (hunused : Unused version ledger) :
    ∀ a ∈ newer :: ledger, ∀ b ∈ newer :: ledger,
      a.metadata.resourceVersion = b.metadata.resourceVersion → f a = f b := by
  intro a ha b hb hab
  rcases List.mem_cons.1 ha with ha' | ha' <;> rcases List.mem_cons.1 hb with hb' | hb'
  · rw [ha', hb']
  · exact absurd (hab.symm.trans (ha' ▸ hversion)) (hunused b hb')
  · exact absurd (hab.trans (hb' ▸ hversion)) (hunused a ha')
  · exact h a ha' b hb' hab

/-- A new version goes on with a ledger, if the newest one leads to it. -/
theorem OnTrack.cons (h : OnTrack mode (current :: older)) (hprecedes : Precedes mode current newer)
    (hmode : newer.spec.mode = mode) (hfollows : newer.currentStatus.Follows mode)
    (hversion : newer.metadata.resourceVersion = some version)
    (hunused : Unused version (current :: older)) : OnTrack mode (newer :: current :: older) where
  chain := List.isChain_cons_cons.2 ⟨hprecedes, h.chain⟩
  follows := by
    intro request hrequest
    rcases List.mem_cons.1 hrequest with rfl | hrequest
    · exact ⟨hmode, hfollows⟩
    · exact h.follows request hrequest
  versions := eq_of_version_eq_cons h.versions hversion hunused

/-- What others write keeps a ledger on its track and removes no version. -/
theorem OnTrack.edits (h : OnTrack mode ledger) (hedits : Edits ledger ledger') :
    OnTrack mode ledger' ∧ ledger ⊆ ledger' := by
  induction hedits with
  | none => exact ⟨h, List.Subset.refl _⟩
  | @edit current edited older version _ hstatus hmode hversion hunused ih =>
    obtain ⟨hmode', hfollows⟩ := ih.1.follows current (by simp)
    have hsame : edited.currentStatus = current.currentStatus :=
      congrArg (Option.getD · ({} : Request.Status)) hstatus
    have hprecedes : Precedes mode current edited := by
      refine ⟨.inl (congrArg (·.state) hsame.symm), ?_, fun _ => hsame⟩
      exact hsame ▸ List.prefix_refl _
    exact ⟨ih.1.cons hprecedes (hmode.trans hmode') (hsame ▸ hfollows) hversion hunused,
      List.Subset.trans ih.2 (List.subset_cons_self _ _)⟩

/-! ## Passes on a track -/

/-- The terms on which a pass is held. -/
abbrev terms : Terms Query Query.Answer Ledger where
  answers := surroundings.answers

/-- A pass at work: its copy is a version of a ledger on its track, and there is still something
to do. -/
structure AtWork (mode : Mode) (request : Request) (ledger : Ledger) : Prop where
  onTrack : OnTrack mode ledger
  held : request ∈ ledger
  isOpen : request.state.isTerminal = false

namespace AtWork

theorem mode_eq (h : AtWork mode request ledger) : request.spec.mode = mode :=
  (h.onTrack.follows request h.held).1

theorem follows (h : AtWork mode request ledger) : request.currentStatus.Follows mode :=
  (h.onTrack.follows request h.held).2

theorem not_completed (h : AtWork mode request ledger) :
    ¬ request.currentStatus.completionTimestamp.isSome = true := by
  rw [h.follows.completed]
  have hopen := h.isOpen
  rintro (hgoal | hgoal) <;> rw [Request.state, hgoal] at hopen <;> cases hopen

/-- What others write does not disturb a pass. -/
theorem edits (h : AtWork mode request ledger) (hedits : Edits ledger ledger') :
    AtWork mode request ledger' :=
  have hledger := h.onTrack.edits hedits
  ⟨hledger.1, hledger.2 h.held, h.isOpen⟩

end AtWork

theorem Answers.eq {exchange : Exchange} (h : Answers ledger exchange ledger')
    (hne : ∀ request, exchange.1 ≠ .call (.updateStatus request)) : ledger' = ledger := by
  cases h with
  | other => rfl
  | refused => exact absurd rfl (hne _)
  | stored => exact absurd rfl (hne _)

/-- What writes no status does not disturb a pass. -/
theorem asks_atWork {α : Type} {P : Query → Prop} {x : Saga.Pass α} (hx : Activity.Asks P x)
    (hP : ∀ request, ¬ P (.call (.updateStatus request))) (h : AtWork mode request ledger) :
    Activity.Ensures terms x request ledger fun _ request' ledger' =>
      request' = request ∧ AtWork mode request ledger' := by
  refine hx.preserves (AtWork mode request) (fun _ _ _ _ => trivial) ?_ h
  rintro ledger exchange ledger' h hexchange ⟨between, hedits, hanswer⟩
  have heq : ledger' = between :=
    hanswer.eq fun request hrequest => hP request (hrequest ▸ hexchange)
  exact heq ▸ h.edits hedits

/-- What holds after a status was written, or not. -/
def Reaches (mode : Mode) (state : State) : Except Failure Unit → Request → Ledger → Prop
  | .ok _, request, ledger => OnTrack mode ledger ∧ request ∈ ledger ∧ request.state = state
  | .error _, request, ledger => AtWork mode request ledger

/-- Writing a status that its copy leads to keeps a ledger on its track. -/
theorem writeStatus_reaches {status : Request.Status} (h : AtWork mode request ledger)
    (hleads : mode.Leads request.state status.state) (hne : status.state ≠ .empty)
    (hconditions : status.conditions = request.currentStatus.conditions)
    (hcompleted : status.completionTimestamp.isSome = true ↔ Request.Status.IsGoal status.state)
    (message : String) :
    Activity.Ensures terms (Saga.writeStatus status message) request ledger
      (Reaches mode status.state) := by
  refine Saga.ensures_writeStatus.2 ⟨trivial, ?_⟩
  rintro now ledger' ⟨between, hedits, hclock⟩
  obtain rfl : ledger' = between := hclock.eq (by simp)
  have h := h.edits hedits
  by_cases hagrees : request.currentStatus.agrees (status.announced now message) = true
  · -- Nothing is written, but the status already says what it should.
    rw [if_pos hagrees]
    obtain ⟨hstate, -⟩ := Request.Status.agrees_iff.1 hagrees
    exact ⟨h.onTrack, h.held, hstate⟩
  · rw [if_neg hagrees]
    refine ⟨trivial, ?_⟩
    rintro answer ledger'' ⟨between, hedits, hanswer⟩
    have h := h.edits hedits
    cases hanswer with
    | other hother => exact absurd rfl (hother _)
    | refused failure => exact h
    | @stored current _ older version hmatch hunused =>
      -- The copy has the number of the stored version, so it has its status too.
      have hstatus : request.currentStatus = current.currentStatus :=
        h.onTrack.versions _ h.held current (by simp) hmatch
      obtain ⟨hmode, hfollows⟩ := h.onTrack.follows current (by simp)
      have hopen : current.state.isTerminal = false := by
        rw [Request.state, ← hstatus]
        exact h.isOpen
      rw [Request.state, hstatus] at hleads
      obtain ⟨hfollows', hhistory⟩ := hfollows.announced hleads hne
        (hconditions.trans (congrArg _ hstatus)) hcompleted now message
      refine ⟨h.onTrack.cons ⟨hleads, hhistory, ?_⟩ hmode hfollows' rfl hunused, by simp, rfl⟩
      intro hterminal
      rw [hopen] at hterminal
      cases hterminal

/-- Going to a state that is no goal, from one in which there is still something to do. -/
theorem transition_reaches {state : State} (h : AtWork mode request ledger)
    (hleads : mode.Leads request.state state) (hne : state ≠ .empty)
    (hgoal : ¬ Request.Status.IsGoal state) (message : String) :
    Activity.Ensures terms (Saga.transition state message) request ledger (Reaches mode state) := by
  have hleads : mode.Leads request.state { request.currentStatus with state }.state := hleads
  have hwrite := writeStatus_reaches h hleads hne rfl (iff_of_false h.not_completed hgoal)
    message
  exact Saga.ensures_transition.2 hwrite

end Ledger

end NamespaceBackup
