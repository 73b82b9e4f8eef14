import NamespaceBackup.Proofs.Runs

/-!
# Versions without order

All versions of a request that were ever stored, the newest first. Here nothing is said about who
may write: a status may be stored although its writer has not seen the newest version, and a write
that is answered with a failure may have been stored nonetheless. What every status says that a
pass writes, every version says.

## Main definitions

* `Request.IsVersionOf`: a version of a request
* `Versions.surroundings`: passes that are given any version, while others write the request
* `Versions.Tells`: terms under which the versions are stored in a world
* `Versions.Held`: what a pass knows about its copy and all versions
* `Versions.turn`: a pass in a cluster that accepts whatever is asked

## Main results

* `Versions.Tells.quiet`, `Versions.Tells.writeStatus`: a status that says what all say may be
  written, and all else changes nothing
-/

namespace NamespaceBackup

/-- A version of a request: whatever is said in it, it is about the same object and the same mode. -/
structure Request.IsVersionOf (first request : Request) : Prop where
  name : request.metadata.name = first.metadata.name
  ns : request.metadata.ns = first.metadata.ns
  created : request.metadata.creationTimestamp = first.metadata.creationTimestamp
  mode : request.spec.mode = first.spec.mode

theorem Request.IsVersionOf.refl (request : Request) : request.IsVersionOf request :=
  ⟨rfl, rfl, rfl, rfl⟩

theorem Request.IsVersionOf.marker {first request : Request} (h : first.IsVersionOf request) :
    request.marker? = first.marker? := by
  rw [Request.marker?, Request.marker?, h.created, h.name]

namespace Versions

open Activity (Ensures)

/-- What others write: anything that is a version still, except the status. -/
inductive Edits (P : Request → Prop) (before : List Request) : List Request → Prop
  | none : Edits P before before
  | edit {current edited : Request} {older : List Request} :
    Edits P before (current :: older) → edited.status = current.status → P edited →
    Edits P before (edited :: current :: older)

/-- How a question is answered. A status is stored or not, and the pass may be told that it failed
in either case. -/
inductive Answers (P : Request → Prop) : List Request → Exchange → List Request → Prop
  | other {versions : List Request} {exchange : Exchange}
    (h : ∀ written, exchange.1 ≠ .call (.updateStatus written)) :
    Answers P versions exchange versions
  | refused {versions : List Request} {written : Request} (failure : Failure) :
    Answers P versions
      ⟨.call (.updateStatus written), (.error failure : Except Failure Request)⟩ versions
  | stored {versions : List Request} {written stored : Request}
    (hstatus : stored.status = written.status) (hstored : P stored) :
    Answers P versions
      ⟨.call (.updateStatus written), (.ok stored : Except Failure Request)⟩ (stored :: versions)
  | hidden {versions : List Request} {written stored : Request} (failure : Failure)
    (hstatus : stored.status = written.status) (hstored : P stored) :
    Answers P versions
      ⟨.call (.updateStatus written), (.error failure : Except Failure Request)⟩
      (stored :: versions)

/-- Passes over one request, each given some version of it, while others write it at any time. -/
def surroundings (P : Request → Prop) : Saga.Surroundings (List Request) where
  answers versions exchange versions' :=
    ∃ between, Edits P versions between ∧ Answers P between exchange versions'
  gives versions request := request ∈ versions
  between := Edits P

variable {ω : Type} {T : Terms Query Query.Answer ω} {view : ω → List Request}
  {P : Request → Prop} {Q : Request.Status → Prop} {versions versions' : List Request}
  {exchange : Exchange} {request : Request} {w v : ω}

theorem currentStatus_congr {a b : Request} (h : a.status = b.status) :
    a.currentStatus = b.currentStatus := by
  rw [Request.currentStatus, h]
  rfl

/-- What others write says what all versions say. -/
theorem Edits.all (h : Edits P versions versions') (hall : ∀ r ∈ versions, P r ∧ Q r.currentStatus) :
    versions ⊆ versions' ∧ ∀ r ∈ versions', P r ∧ Q r.currentStatus := by
  induction h with
  | none => exact ⟨List.Subset.refl _, hall⟩
  | @edit current edited older _ hstatus hedited ih =>
    refine ⟨List.Subset.trans ih.1 (List.subset_cons_self _ _), fun r hr => ?_⟩
    rcases List.mem_cons.1 hr with rfl | hr
    · exact ⟨hedited, currentStatus_congr hstatus ▸ (ih.2 current (by simp)).2⟩
    · exact ih.2 r hr

theorem Edits.all_of (h : Edits P versions versions') (hall : ∀ r ∈ versions, P r) :
    ∀ r ∈ versions', P r := fun r hr =>
  ((h.all (Q := fun _ => True) fun r hr => ⟨hall r hr, trivial⟩).2 r hr).1

/-- Whatever is answered, all versions say what is written. -/
theorem Answers.all (h : Answers P versions exchange versions')
    (hall : ∀ r ∈ versions, P r ∧ Q r.currentStatus)
    (hwritten : ∀ written, exchange.1 = .call (.updateStatus written) → Q written.currentStatus) :
    versions ⊆ versions' ∧ ∀ r ∈ versions', P r ∧ Q r.currentStatus := by
  have hcons : ∀ {written stored : Request}, stored.status = written.status → P stored →
      Q written.currentStatus →
      versions ⊆ stored :: versions ∧ ∀ r ∈ stored :: versions, P r ∧ Q r.currentStatus := by
    intro written stored hstatus hstored hwritten
    refine ⟨List.subset_cons_self _ _, fun r hr => ?_⟩
    rcases List.mem_cons.1 hr with rfl | hr
    · exact ⟨hstored, currentStatus_congr hstatus ▸ hwritten⟩
    · exact hall r hr
  -- What was stored is a version in the same way, whether or not the pass is told so.
  cases h with
  | other => exact ⟨List.Subset.refl _, hall⟩
  | refused => exact ⟨List.Subset.refl _, hall⟩
  | stored hstatus hstored => exact hcons hstatus hstored (hwritten _ rfl)
  | hidden failure hstatus hstored => exact hcons hstatus hstored (hwritten _ rfl)

/-- The stored request is a version. -/
theorem version_of_answers {written stored : Request}
    (h : (surroundings P).answers versions
      ⟨.call (.updateStatus written), (.ok stored : Except Failure Request)⟩ versions') :
    P stored := by
  obtain ⟨between, -, hanswers⟩ := h
  cases hanswers with
  | other hother => exact absurd rfl (hother _)
  | stored _ hstored => exact hstored

/-- The stored request says what was written. -/
theorem status_eq_of_answers {written stored : Request}
    (h : (surroundings P).answers versions
      ⟨.call (.updateStatus written), (.ok stored : Except Failure Request)⟩ versions') :
    stored.status = written.status := by
  obtain ⟨between, -, hanswers⟩ := h
  cases hanswers with
  | other hother => exact absurd rfl (hother _)
  | stored hstatus => exact hstatus

/-- All versions of a run are versions of the request that it started with. -/
theorem all_of_runs {settings : Settings} {first : Request} {transcripts : List (List Exchange)}
    (h : Saga.Runs (surroundings P) settings [first] transcripts versions) (hfirst : P first) :
    ∀ r ∈ versions, P r := by
  refine h.kept (fun versions => ∀ r ∈ versions, P r) (by simpa using hfirst)
    (fun _ _ hall hedits => hedits.all_of hall) ?_
  rintro versions exchange versions' hall ⟨between, hedits, hanswers⟩ r hr
  have hbetween := hedits.all_of hall
  exact ((hanswers.all (Q := fun _ => True) (fun r hr => ⟨hbetween r hr, trivial⟩)
    fun _ _ => trivial).2 r hr).1

/-! ## What a pass knows -/

/-- What all versions say in a world, and what else is known of it. -/
structure Sound (view : ω → List Request) (P : Request → Prop) (Q : ω → Request.Status → Prop)
    (inv : ω → Prop) (w : ω) : Prop where
  all : ∀ r ∈ view w, P r ∧ Q w r.currentStatus
  inv : inv w

/-- What a pass knows: its copy is one of the versions. -/
structure Held (view : ω → List Request) (P : Request → Prop) (Q : ω → Request.Status → Prop)
    (inv : ω → Prop) (request : Request) (w : ω) : Prop extends Sound view P Q inv w where
  held : request ∈ view w

variable {Q : ω → Request.Status → Prop} {inv : ω → Prop}

/-- What is known goes on to hold after an exchange, if all versions say what was written. -/
theorem Sound.answered (h : Sound view P Q inv w)
    (hanswers : (surroundings P).answers (view w) exchange (view v)) (hinv : inv v)
    (hkept : ∀ status, Q w status → Q v status)
    (hwritten : ∀ written, exchange.1 = .call (.updateStatus written) →
      Q w written.currentStatus) : view w ⊆ view v ∧ Sound view P Q inv v := by
  obtain ⟨between, hedits, hanswers⟩ := hanswers
  have hall : ∀ r ∈ view w, P r ∧ Q v r.currentStatus :=
    fun r hr => (h.all r hr).imp_right (hkept _)
  obtain ⟨hsub, hbetween⟩ := hedits.all hall
  obtain ⟨hsub', hafter⟩ := hanswers.all hbetween fun written heq => hkept _ (hwritten written heq)
  exact ⟨List.Subset.trans hsub hsub', hafter, hinv⟩

/-- The copy of a pass is still a version after an exchange that writes no status. -/
theorem Held.answered (h : Held view P Q inv request w)
    (hanswers : (surroundings P).answers (view w) exchange (view v)) (hinv : inv v)
    (hkept : ∀ status, Q w status → Q v status)
    (hunwritten : ∀ written, exchange.1 ≠ .call (.updateStatus written)) :
    Held view P Q inv request v := by
  obtain ⟨hsub, hsound⟩ := h.toSound.answered hanswers hinv hkept
    fun written heq => absurd heq (hunwritten written)
  exact ⟨hsound, hsub h.held⟩

/-- The questions that make no bundle. -/
def IsCalm (question : Query) : Prop := ∀ ns bundle, question ≠ .call (.createBundle ns bundle)

/-- The versions are stored in a world, and while no bundle is made, what is known of the world goes
on to hold, and what a status may say is not taken back. -/
structure Tells (T : Terms Query Query.Answer ω) (view : ω → List Request) (P : Request → Prop)
    (Q : ω → Request.Status → Prop) (inv : ω → Prop) : Prop where
  asks : ∀ w question, Sound view P Q inv w → IsCalm question → T.asks w question
  answers : ∀ w exchange v, T.answers w exchange v →
    (surroundings P).answers (view w) exchange (view v)
  kept : ∀ w exchange v, inv w → IsCalm exchange.1 → T.answers w exchange v →
    inv v ∧ ∀ status, Q w status → Q v status

theorem Tells.quiet (h : Tells T view P Q inv) (hheld : Held view P Q inv request w)
    (hcalm : IsCalm exchange.1) (hunwritten : ∀ written, exchange.1 ≠ .call (.updateStatus written))
    (hanswer : T.answers w exchange v) : Held view P Q inv request v :=
  have hkept := h.kept w exchange v hheld.inv hcalm hanswer
  hheld.answered (h.answers w exchange v hanswer) hkept.1 hkept.2 hunwritten

theorem Tells.clock (h : Tells T view P Q inv) (hheld : Held view P Q inv request w)
    {now : Instant} (hanswer : T.answers w ⟨.clock, now⟩ v) : Held view P Q inv request v := by
  have hcalm : IsCalm .clock := by simp [IsCalm]
  have hunwritten : ∀ written, (Query.clock) ≠ .call (.updateStatus written) := by simp
  exact h.quiet hheld hcalm hunwritten hanswer

/-- What was stored is a version. -/
theorem Tells.mem_of_stored (h : Tells T view P Q inv) {written stored : Request}
    (hanswer : T.answers w
      ⟨.call (.updateStatus written), (.ok stored : Except Failure Request)⟩ v) :
    stored ∈ view v := by
  obtain ⟨between, -, hanswers⟩ := h.answers w _ v hanswer
  generalize view v = versions at hanswers
  cases hanswers with
  | other hother => exact absurd rfl (hother _)
  | stored => simp

/-- A status that says what all versions say may be written, whatever becomes of it. -/
theorem Tells.writeStatus (h : Tells T view P Q inv) {status : Request.Status} {message : String}
    (hheld : Held view P Q inv request w) (hstatus : ∀ now, Q w (status.announced now message)) :
    Ensures T (Saga.writeStatus status message) request w fun _ request v =>
      Held view P Q inv request v := by
  have hclock : IsCalm .clock := by simp [IsCalm]
  have hwrite : ∀ written, IsCalm (.call (.updateStatus written)) := by simp [IsCalm]
  refine Saga.ensures_writeStatus.2 ⟨h.asks w _ hheld.toSound hclock, fun now v hanswer => ?_⟩
  have hv := h.clock hheld hanswer
  have hstatus := (h.kept w _ v hheld.inv hclock hanswer).2 _ (hstatus now)
  split
  · exact hv
  · refine ⟨h.asks v _ hv.toSound (hwrite _), fun answer u hanswer => ?_⟩
    obtain ⟨hinv, hkept⟩ := h.kept v _ u hv.inv (hwrite _) hanswer
    obtain ⟨hsub, hsound⟩ := hv.toSound.answered (h.answers v _ u hanswer) hinv hkept (by
      rintro written heq
      cases heq
      exact hstatus)
    cases answer with
    | ok stored => exact ⟨hsound, h.mem_of_stored hanswer⟩
    | error failure => exact ⟨hsound, hsub hv.held⟩

/-! ## An obliging cluster -/

/-- A machine that is up and kept running. -/
def running : Resource where
  fields := .ofList [("spec", .object [("runStrategy", .str Machine.rerunOnFailure)]),
    ("status", .object [("ready", .bool true)])]

/-- Lists some objects and some markers and no bundle, has every machine running, and accepts
whatever is asked. -/
def respond (first : Request) (objects : ManagedKind → List Resource) (markers : List Resource) :
    (question : Query) → List Request → question.Answer × List Request
  | .clock, versions => ((default : Instant), versions)
  | .call (.listManaged _ kind), versions =>
    ((.ok (objects kind) : Except Failure (List Resource)), versions)
  | .call (.listConfigMaps _ _), versions => ((.ok [] : Except Failure (List ConfigMap)), versions)
  | .call (.listSecrets _ _), versions => ((.ok [] : Except Failure (List Secret)), versions)
  | .call (.listMarkers _ _ _), versions => ((.ok markers : Except Failure (List Resource)), versions)
  | .call (.getMachine _ _), versions =>
    ((.ok (some running) : Except Failure (Option Resource)), versions)
  | .call (.patchMachine _ _ _), versions => ((.ok () : Except Failure Unit), versions)
  | .call (.createMarker _ _ _), versions => ((.ok () : Except Failure Unit), versions)
  | .call (.runCommand _ _), versions =>
    ((.ok { success := true } : Except Failure CommandOutput), versions)
  | .call (.findBundle _ _), versions => ((.ok none : Except Failure (Option Bundle)), versions)
  | .call (.createBundle _ _), versions => ((.ok () : Except Failure Unit), versions)
  | .call (.updateStatus written), versions =>
    ((.ok { first with status := written.status } : Except Failure Request),
      { first with status := written.status } :: versions)
  | .call c, versions => ((.error (.api "not served") : Except Failure c.Answer), versions)

theorem answers_respond {first : Request} (hfirst : ∀ status, P { first with status })
    (objects : ManagedKind → List Resource) (markers : List Resource) (question : Query)
    (versions : List Request) :
    (surroundings P).answers versions
      ⟨question, (respond first objects markers question versions).1⟩
      (respond first objects markers question versions).2 := by
  refine ⟨versions, .none, ?_⟩
  cases question with
  | clock => exact .other (by simp)
  | call c =>
    cases c with
    | updateStatus written => exact .stored rfl (hfirst _)
    | _ => exact .other (by simp)

/-- A pass over the newest version, with what is listed by then. -/
def turn (first : Request) (objects : ManagedKind → List Resource) (markers : List Resource)
    (versions : List Request) : List Exchange × List Request :=
  let pass := Saga.reconcile {} (versions.headD first)
  (pass.transcript (respond first objects markers) versions,
    (pass.run (respond first objects markers) versions).2)

theorem runs_turn {first : Request} (hfirst : ∀ status, P { first with status })
    {transcripts : List (List Exchange)} {start : List Request}
    (h : Saga.Runs (surroundings P) {} start transcripts versions)
    (hnewest : versions.headD first ∈ versions) (objects : ManagedKind → List Resource)
    (markers : List Resource) :
    Saga.Runs (surroundings P) {} start (transcripts ++ [(turn first objects markers versions).1])
      (turn first objects markers versions).2 :=
  h.pass_transcript (answers_respond hfirst objects markers) .none hnewest

end Versions

end NamespaceBackup
