import NamespaceBackup.Proofs.Collect
import NamespaceBackup.Proofs.Runs

/-!
# Invariants of a pass

Apart from its one visit to the machines, a pass lists, deletes, loads, looks for bundles and writes
statuses. What none of this disturbs, and what the visit to the machines keeps, is an invariant of
every pass. It may speak of the machines that were recorded during the pass, which a status write
makes lasting.

## Main definitions

* `Saga.IsPlain`: the questions that are neither about machines nor write a status
* `Saga.Keeps`: what makes a property an invariant of every pass

## Main results

* `Saga.Keeps.reconcile`: an invariant holds after a pass as before
-/

namespace NamespaceBackup.Saga

open Activity (Asks Ensures)

/-- The questions that are neither about machines nor write a status. -/
def IsPlain : Query → Prop
  | .clock => True
  | .call (.updateStatus _) | .call (.getMachine ..) | .call (.patchMachine ..)
  | .call (.listMarkers ..) | .call (.createMarker ..) | .call (.runCommand ..) => False
  | .call _ => True

section Questions

variable {question : Query}

theorem IsPlain.ne_updateStatus (h : IsPlain question) (written : Request) :
    question ≠ .call (.updateStatus written) := by
  rintro rfl
  exact h

theorem IsPlain.not_orders {user node : String} {change : Membership.Change}
    (h : IsPlain question) : ¬ Membership.Orders user change node question := by
  refine Membership.not_orders_of_ne fun ns text heq => ?_
  rw [heq] at h
  exact h

end Questions

section Plain

variable {ns selector name marker reason : String} {inventory : Inventory}
  {content : Bundle.Content} {settings : Settings} {snapshotNames : Dict String} {question : Query}

theorem isPlain_of_isListing (h : Inventory.IsListing ns selector question) : IsPlain question := by
  cases h <;> trivial

theorem isPlain_of_isDeletion (h : Inventory.IsDeletion ns inventory question) :
    IsPlain question := by
  cases h <;> trivial

theorem isPlain_of_isLoading (h : IsLoading ns reason content question) : IsPlain question := by
  cases h <;> trivial

theorem isPlain_of_isBundling
    (h : IsBundling settings ns name marker inventory snapshotNames question) :
    IsPlain question := by
  cases h <;> trivial

end Plain

variable {ω : Type} {T : Terms Query Query.Answer ω} {settings : Settings} {mode : Mode}
  {inv : Dict String → Request → ω → Prop} {failed : Request → ω → Prop}
  {listed : ManagedKind → List Resource → Prop} {recorded : Dict String} {request : Request} {w : ω}
  {ns : String}

/-- What makes a property an invariant of every pass. It is a property of the machines that are
recorded at the moment, of the copy of the pass and of the world; `failed` is what is left of it
when something has failed, and `listed` says what a save may find listed of each kind, or a restore
in its bundle. -/
structure Keeps (T : Terms Query Query.Answer ω) (settings : Settings) (mode : Mode)
    (inv : Dict String → Request → ω → Prop) (failed : Request → ω → Prop)
    (listed : ManagedKind → List Resource → Prop) : Prop where
  /-- What was recorded may be lost. -/
  failed_of_inv : ∀ recorded request w, inv recorded request w → failed request w
  asks : ∀ recorded request w question, inv recorded request w → IsPlain question →
    T.asks w question
  plain : ∀ recorded request w exchange v, inv recorded request w → IsPlain exchange.1 →
    T.answers w exchange v → inv recorded request v
  managed : mode = .save → ∀ w ns kind (objects : List Resource) v,
    T.answers w ⟨.call (.listManaged ns kind), (.ok objects : Except Failure (List Resource))⟩ v →
    listed kind objects
  bundled : mode.isRestore = true → ∀ w ns name (bundle : Bundle) v,
    T.answers w
      ⟨.call (.getBundle ns name), (.ok (some bundle) : Except Failure (Option Bundle))⟩ v →
    ∀ kind : ManagedKind, listed kind (bundle.content.objects kind.name)
  /-- The visit to the machines. -/
  imaging : ∀ request w imaging task sets planes,
    inv request.currentStatus.snapshotNames request w → listed .vmSet sets →
    listed .controlPlane planes →
    Ensures T (Imaging.runPass settings imaging task sets (isFencing planes.head?))
      request.currentStatus.snapshotNames w fun outcome recorded v =>
        match outcome with
        | .ok _ => inv recorded request v
        | .error _ => failed request v
  /-- A write of the status, which makes lasting what was recorded. -/
  write : ∀ request (status : Request.Status) w, inv status.snapshotNames request w →
    T.asks w (.call (.updateStatus { request with status := some status })) ∧
    ∀ (answer : Except Failure Request) v,
      T.answers w ⟨.call (.updateStatus { request with status := some status }), answer⟩ v →
      match answer with
      | .ok stored => inv stored.currentStatus.snapshotNames stored v
      | .error _ => failed request v
  asks_clock : ∀ request w, failed request w → T.asks w .clock
  clock : ∀ request w (now : Instant) v, failed request w → T.answers w ⟨.clock, now⟩ v →
    failed request v
  /-- A write of the status after a failure, with the machines that were recorded before. -/
  write_failed : ∀ request (status : Request.Status) w, failed request w →
    status.snapshotNames = request.currentStatus.snapshotNames →
    T.asks w (.call (.updateStatus { request with status := some status })) ∧
    ∀ (answer : Except Failure Request) v,
      T.answers w ⟨.call (.updateStatus { request with status := some status }), answer⟩ v →
      match answer with
      | .ok stored => failed stored v
      | .error _ => failed request v

namespace Keeps

/-- The invariant after a part of a pass, or what is left of it. -/
def Holds (inv : Dict String → Request → ω → Prop) (failed : Request → ω → Prop) {α : Type} :
    Except Failure α → Request → ω → Prop
  | .ok _, request, w => inv request.currentStatus.snapshotNames request w
  | .error _, request, w => failed request w

theorem writeStatus (h : Keeps T settings mode inv failed listed) {status : Request.Status}
    (hinv : inv status.snapshotNames request w) (message : String) :
    Ensures T (Saga.writeStatus status message) request w (Holds inv failed) := by
  refine ensures_writeStatus.2 ⟨h.asks _ _ _ _ hinv trivial, fun now v hclock => ?_⟩
  have hv := h.plain _ _ w ⟨.clock, now⟩ v hinv trivial hclock
  by_cases hagrees : request.currentStatus.agrees (status.announced now message) = true
  · rw [if_pos hagrees]
    -- Nothing is written, since the same machines are recorded already.
    have hnames : request.currentStatus.snapshotNames = status.snapshotNames :=
      (Request.Status.agrees_iff.1 hagrees).2.1
    rw [Holds, hnames]
    exact hv
  · rw [if_neg hagrees]
    obtain ⟨hasks, hwrite⟩ := h.write request (status.announced now message) v hv
    refine ⟨hasks, fun answer u hanswer => ?_⟩
    have hu := hwrite answer u hanswer
    cases answer <;> exact hu

theorem transition (h : Keeps T settings mode inv failed listed) {state : State}
    (hinv : inv request.currentStatus.snapshotNames request w) (message : String) :
    Ensures T (Saga.transition state message) request w (Holds inv failed) := by
  refine ensures_transition.2 (h.writeStatus ?_ message)
  exact hinv

/-- A part that asks only plain questions comes before the rest of a pass. -/
theorem plain_bind {α β : Type} {P : Query → Prop} {x : Pass α} {f : α → Pass β}
    (h : Keeps T settings mode inv failed listed) (hx : Asks P x)
    (hP : ∀ question, P question → IsPlain question) (hinv : inv recorded request w)
    (hf : ∀ value v, inv recorded request v → Ensures T (f value) request v (Holds inv failed)) :
    Ensures T (x >>= f) request w (Holds inv failed) := by
  refine hx.preserves_bind (inv recorded request) ?_ ?_ hinv hf fun _ _ hv => ?_
  · exact fun w question hw hq => h.asks _ _ w question hw (hP _ hq)
  · exact fun w exchange v hw hq hv => h.plain _ _ w exchange v hw (hP _ hq) hv
  · exact h.failed_of_inv _ _ _ hv

theorem ofExcept_bind {α β : Type} {outcome : Except Failure α} {f : α → Pass β}
    (h : Keeps T settings mode inv failed listed) (hinv : inv recorded request w)
    (hf : ∀ value, Ensures T (f value) request w (Holds inv failed)) :
    Ensures T (ofExcept outcome >>= f) request w (Holds inv failed) := by
  cases outcome with
  | ok value => exact hf value
  | error failure => exact h.failed_of_inv _ _ _ hinv

/-- What is collected comes from lists that were answered. -/
theorem collect_bind {β : Type} {f : Inventory → Pass β}
    (h : Keeps T settings mode inv failed listed) (hinv : inv recorded request w)
    (hf : ∀ inventory v,
      (mode = .save → ∀ kind : ManagedKind, listed kind (inventory.objects kind.name)) →
      inv recorded request v → Ensures T (f inventory) request v (Holds inv failed)) :
    Ensures T (collect settings ns >>= f) request w (Holds inv failed) := by
  have hlisted : Inventory.Listed T ns settings.managedSelector (inv recorded request)
      (fun kind objects => mode = .save → listed kind objects) (fun _ => True) fun _ => True := by
    refine ⟨fun w question hw hq => ?_, fun w exchange v hw hq hv => ?_, ?_, ?_, ?_⟩
    · exact h.asks _ _ w question hw (isPlain_of_isListing hq)
    · exact h.plain _ _ w exchange v hw (isPlain_of_isListing hq) hv
    · exact fun w kind objects v _ hv hsave => h.managed hsave w ns kind objects v hv
    · exact fun _ _ _ _ _ => trivial
    · exact fun _ _ _ _ _ => trivial
  refine (Inventory.collect_ensures hlisted hinv).bind ?_ ?_
  · rintro inventory _ v ⟨rfl, hv, lists, cs, ss, hlists, -, -, rfl⟩
    refine hf _ v (fun hsave kind => ?_) hv
    rw [Inventory.objects_gather]
    exact hlists kind hsave
  · rintro failure _ v ⟨rfl, hv⟩
    exact h.failed_of_inv _ _ _ hv

theorem sourceBundle_bind {β : Type} {f : Bundle → Pass β}
    (h : Keeps T settings mode inv failed listed) (hrestore : mode.isRestore = true)
    (hinv : inv request.currentStatus.snapshotNames request w)
    (hf : ∀ bundle v, (∀ kind : ManagedKind, listed kind (bundle.content.objects kind.name)) →
      inv request.currentStatus.snapshotNames request v →
      Ensures T (f bundle) request v (Holds inv failed)) :
    Ensures T (sourceBundle ns >>= f) request w (Holds inv failed) := by
  refine Activity.ensures_bind.2 ?_
  rw [sourceBundle, Activity.ensures_bind, Activity.ensures_get, Activity.then_ok]
  dsimp only
  cases request.spec.fault? with
  | some fault => exact h.failed_of_inv _ _ _ hinv
  | none =>
    refine Activity.ensures_bind.2 ⟨h.asks _ _ _ _ hinv trivial, ?_⟩
    intro (answer : Except Failure (Option Bundle)) v hanswer
    have hv := h.plain _ _ w _ v hinv (by exact trivial) hanswer
    rcases answer with failure | (_ | bundle)
    · exact h.failed_of_inv _ _ _ hv
    · exact h.failed_of_inv _ _ _ hv
    · exact hf bundle v (h.bundled hrestore _ _ _ bundle v hanswer) hv

/-- The visit to the machines comes before the rest of a pass. -/
theorem imaging_bind {β : Type} {imaging : Imaging.Request} {task : Imaging.Task}
    {sets planes : List Resource} {f : List String × Dict String → Pass β}
    (h : Keeps T settings mode inv failed listed)
    (hinv : inv request.currentStatus.snapshotNames request w) (hsets : listed .vmSet sets)
    (hplanes : listed .controlPlane planes)
    (hf : ∀ pending recorded v, inv recorded request v →
      Ensures T (f (pending, recorded)) request v (Holds inv failed)) :
    Ensures T (Activity.within request.currentStatus.snapshotNames
        (Imaging.runPass settings imaging task sets (isFencing planes.head?)) >>= f) request w
      (Holds inv failed) := by
  rw [Activity.ensures_bind, Activity.ensures_within]
  refine (h.imaging request w imaging task sets planes hinv hsets hplanes).mono
    fun outcome recorded v hv => ?_
  cases outcome with
  | ok pending => exact hf pending recorded v hv
  | error failure => exact hv

/-! ## Saving -/

theorem quiesce (h : Keeps T settings mode inv failed listed)
    (hinv : inv request.currentStatus.snapshotNames request w) :
    Ensures T (Saga.quiesce settings) request w (Holds inv failed) := by
  refine h.ofExcept_bind hinv fun ns => h.collect_bind hinv fun inventory v _ hv => ?_
  by_cases hquiesced : (Quiescence.evaluate inventory).quiesced = true
  · rw [if_pos hquiesced]
    exact h.transition hv _
  · rw [if_neg hquiesced]
    exact h.transition hv _

theorem finishSave (h : Keeps T settings mode inv failed listed) {name marker : String}
    {inventory : Inventory} {status : Request.Status} (hinv : inv status.snapshotNames request w) :
    Ensures T (Saga.finishSave settings ns name marker inventory status) request w
      (Holds inv failed) := by
  refine h.plain_bind (ensureBundle_asks settings ns name marker inventory status.snapshotNames)
    (fun _ => isPlain_of_isBundling) hinv fun bundleName v hv => ?_
  refine h.plain_bind (Asks.now (P := IsPlain) trivial) (fun _ hplain => hplain) hv
    fun now u hu => ?_
  refine h.writeStatus ?_ _
  exact hu

theorem save (h : Keeps T settings mode inv failed listed) (hsave : mode = .save)
    (hinv : inv request.currentStatus.snapshotNames request w) :
    Ensures T (Saga.save settings) request w (Holds inv failed) := by
  rw [Saga.save, Activity.ensures_bind, Activity.ensures_get, Activity.then_ok]
  refine h.ofExcept_bind hinv fun ns => h.ofExcept_bind hinv fun marker => ?_
  refine h.collect_bind hinv fun inventory v hlisted hv => ?_
  by_cases himages : request.spec.includeImages = true
  · rw [if_pos himages]
    refine h.imaging_bind hv (hlisted hsave .vmSet) (hlisted hsave .controlPlane)
      fun pending recorded v hv => ?_
    dsimp only
    by_cases hpending : pending.isEmpty = true
    · rw [if_pos hpending]
      exact h.finishSave hv
    · rw [if_neg hpending]
      refine h.writeStatus ?_ _
      exact hv
  · rw [if_neg himages]
    exact h.finishSave hv

theorem savePass (h : Keeps T settings mode inv failed listed) (hsave : mode = .save)
    (hinv : inv request.currentStatus.snapshotNames request w) :
    Ensures T (Saga.savePass settings) request w (Holds inv failed) := by
  have hphase : ∀ request w, inv request.currentStatus.snapshotNames request w →
      Ensures T (savePhase settings) request w (Holds inv failed) := fun request w hinv =>
    ensures_savePhase (fun _ => h.quiesce hinv) (fun _ => h.save hsave hinv)
      fun _ _ _ => h.failed_of_inv _ _ _ hinv
  rw [ensures_savePass]
  split
  case isTrue =>
    exact (h.transition hinv _).bind (fun _ request v hv => hphase request v hv) fun _ _ _ hv => hv
  case isFalse => exact hphase request w hinv

/-! ## Restoring -/

theorem clean (h : Keeps T settings mode inv failed listed)
    (hinv : inv request.currentStatus.snapshotNames request w) :
    Ensures T (Saga.clean settings ns) request w (Holds inv failed) := by
  refine h.collect_bind hinv fun inventory v _ hv => ?_
  refine h.plain_bind (Inventory.clear_asks ns inventory) (fun _ => isPlain_of_isDeletion) hv
    fun cleared v hv => ?_
  cases cleared <;> exact h.transition hv _

theorem load (h : Keeps T settings mode inv failed listed) {bundle : Bundle}
    (hbundle : ∀ kind : ManagedKind, listed kind (bundle.content.objects kind.name))
    (hinv : inv request.currentStatus.snapshotNames request w) :
    Ensures T (Saga.load settings ns bundle) request w (Holds inv failed) := by
  rw [Saga.load, Activity.ensures_bind, Activity.ensures_get, Activity.then_ok]
  refine h.plain_bind (loadObjects_asks ns _ bundle.content) (fun _ => isPlain_of_isLoading) hinv
    fun _ v hv => ?_
  by_cases himages : request.spec.includeImages = true
  · rw [if_pos himages]
    refine h.ofExcept_bind hv fun marker => ?_
    refine h.imaging_bind hv (hbundle .vmSet) (hbundle .controlPlane)
      fun pending recorded v hv => ?_
    dsimp only
    by_cases hpending : pending.isEmpty = true
    · rw [if_pos hpending]
      refine h.writeStatus ?_ _
      exact hv
    · rw [if_neg hpending]
      refine h.writeStatus ?_ _
      exact hv
  · rw [if_neg himages]
    refine h.writeStatus ?_ _
    exact hv

theorem awaitRestored (h : Keeps T settings mode inv failed listed) {bundle : Bundle}
    (hinv : inv request.currentStatus.snapshotNames request w) :
    Ensures T (Saga.awaitRestored settings ns bundle) request w (Holds inv failed) := by
  refine h.collect_bind hinv fun inventory v _ hv => ?_
  by_cases hquiesced : (Quiescence.evaluateRestored bundle.content inventory).quiesced = true
  · rw [if_pos hquiesced, Activity.ensures_bind, Activity.ensures_get, Activity.then_ok]
    refine h.plain_bind (Asks.now (P := IsPlain) trivial) (fun _ hplain => hplain) hv
      fun now v hv => ?_
    refine h.writeStatus ?_ _
    exact hv
  · rw [if_neg hquiesced]
    exact h.transition hv _

theorem restorePass (h : Keeps T settings mode inv failed listed)
    (hrestore : mode.isRestore = true)
    (hinv : inv request.currentStatus.snapshotNames request w) :
    Ensures T (Saga.restorePass settings) request w (Holds inv failed) := by
  rw [ensures_restorePass]
  refine h.ofExcept_bind hinv fun ns =>
    h.sourceBundle_bind hrestore hinv fun bundle v hbundle hv => ?_
  have hphase : ∀ request w, inv request.currentStatus.snapshotNames request w →
      Ensures T (restorePhase settings ns bundle) request w (Holds inv failed) :=
    fun request w hinv =>
      ensures_restorePhase (fun _ => h.clean hinv) (fun _ => h.load hbundle hinv)
        (fun _ => h.awaitRestored hinv) fun _ _ _ _ => h.failed_of_inv _ _ _ hinv
  have hstarted : ∀ state message, Ensures T
      (Saga.transition state message >>= fun _ => restorePhase settings ns bundle) request v
      (Holds inv failed) := fun state message =>
    (h.transition hv _).bind (fun _ request v hv => hphase request v hv) fun _ _ _ hv => hv
  rw [ensures_restoreFrom]
  split
  case isTrue =>
    split
    case isTrue => exact hstarted _ _
    case isFalse => exact hstarted _ _
  case isFalse => exact hphase request v hv

/-! ## The whole pass -/

/-- Putting a request into an error state keeps what is left after a failure. -/
theorem transition_failed (h : Keeps T settings mode inv failed listed) (state : State)
    (message : String) (hfailed : failed request w) :
    Ensures T (Saga.transition state message) request w fun _ request v => failed request v := by
  -- The copy has the machines that were recorded before whatever failed.
  refine ensures_transition.2 (ensures_writeStatus.2 ⟨h.asks_clock _ _ hfailed, ?_⟩)
  intro now v hclock
  have hv := h.clock _ _ now v hfailed hclock
  split
  · exact hv
  · obtain ⟨hasks, hwrite⟩ := h.write_failed request (Request.Status.announced
      { request.currentStatus with state } now message) v hv rfl
    refine ⟨hasks, fun answer u hanswer => ?_⟩
    have hu := hwrite answer u hanswer
    cases answer <;> exact hu

/-- What is left of an invariant after a failure holds after every pass, however it ends. -/
theorem reconcile (h : Keeps T settings mode inv failed listed) (hmode : request.spec.mode = mode)
    (hinv : inv request.currentStatus.snapshotNames request w) :
    Ensures T (Saga.reconcile settings) request w fun _ request v => failed request v := by
  subst hmode
  have hpass : Ensures T (pass settings request.spec.mode) request w (Holds inv failed) := by
    cases hmode : request.spec.mode with
    | save => exact h.savePass hmode hinv
    | restore => exact h.restorePass (by rw [hmode]; rfl) hinv
    | cleanRestore => exact h.restorePass (by rw [hmode]; rfl) hinv
  refine ensures_reconcile (fun _ => h.failed_of_inv _ _ _ hinv) fun _ => ?_
  refine hpass.mono fun outcome request' v hv => ?_
  cases outcome with
  | ok => exact h.failed_of_inv _ _ _ hv
  | error failure => exact ⟨fun _ => hv, fun _ => h.transition_failed _ _ hv⟩

end Keeps

end NamespaceBackup.Saga
