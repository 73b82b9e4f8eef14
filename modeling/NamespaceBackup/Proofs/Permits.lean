import NamespaceBackup.Proofs.Collect
import NamespaceBackup.Proofs.Runs

/-!
# Terms that permit a pass

A pass asks questions of few shapes, so terms permit every pass if they permit these shapes. Which of
them it asks depends on its copy of the request, on the sets of machines that it was told of, and on
the bundle that it was given, and all of this may be made use of.

## Main definitions

* `Saga.Lives`: a namespace in which requests of some sort live
* `Saga.Permits`: terms that permit what every pass asks
* `Saga.PermitsSave`, `Saga.PermitsRestore`: terms that permit a save, or a restore apart from its
  deletions

## Main results

* `Saga.PermitsSave.savePass`, `Saga.PermitsRestore.restorePass`, `Saga.Permits.reconcile`: a pass on
  such terms maintains what holds of its copy
-/

namespace NamespaceBackup.Saga

open Activity (Asks Ensures Maintains)

/-- A namespace in which some request lives that is as `inv` says. -/
def Lives (inv : Request → Prop) (ns : String) : Prop :=
  ∃ copy, inv copy ∧ requestNamespace copy = .ok ns

/-- Terms that permit what every pass asks, while its copy is as `inv` says. That the request is in the
cleaning state may not be written at will. -/
structure Permits (T : Terms Query Query.Answer Unit) (settings : Settings) (inv : Request → Prop) :
    Prop where
  clock : T.asks () .clock
  listing : ∀ ns question, Inventory.IsListing ns settings.managedSelector question →
    T.asks () question
  status : ∀ copy (status : Request.Status), inv copy →
    status.state = copy.state ∨ status.state ≠ .cleaning →
    inv { copy with status := some status }
  write : ∀ written, inv written → T.asks () (.call (.updateStatus written)) ∧
    ∀ stored, T.answers () ⟨.call (.updateStatus written),
      (.ok stored : Except Failure Request)⟩ () → inv stored

/-- Terms that permit a save. -/
structure PermitsSave (T : Terms Query Query.Answer Unit) (settings : Settings)
    (inv : Request → Prop) : Prop extends Permits T settings inv where
  bundling : ∀ copy ns marker inventory recorded question, inv copy → Lives inv ns →
    requestMarker copy = .ok marker →
    IsBundling settings ns copy.anyName marker inventory recorded question → T.asks () question
  /-- The machines that are visited are those of the sets that are listed. -/
  imaging : ∀ copy ns marker sets question, inv copy → Lives inv ns →
    requestMarker copy = .ok marker →
    T.answers () ⟨.call (.listManaged ns .vmSet), (.ok sets : Except Failure (List Resource))⟩ () →
    Imaging.IsImaging settings ⟨ns, copy.anyName, marker⟩ .save (sets.flatMap MachineSet.members)
      question → T.asks () question

/-- A bundle that may be found. -/
def Finds (T : Terms Query Query.Answer Unit) (ns : String) (bundle : Bundle) : Prop :=
  ∃ source, T.answers () ⟨.call (.getBundle ns source),
    (.ok (some bundle) : Except Failure (Option Bundle))⟩ ()

/-- Terms that permit a restore, apart from its deletions. -/
structure PermitsRestore (T : Terms Query Query.Answer Unit) (settings : Settings)
    (inv : Request → Prop) : Prop extends Permits T settings inv where
  source : ∀ ns source, Lives inv ns → T.asks () (.call (.getBundle ns source))
  loading : ∀ ns reason bundle question, Lives inv ns → Finds T ns bundle →
    IsLoading ns reason bundle.content question → T.asks () question
  imaging : ∀ copy ns marker bundle question, inv copy → Lives inv ns →
    requestMarker copy = .ok marker → Finds T ns bundle →
    Imaging.IsImaging settings ⟨ns, copy.anyName, marker⟩
      (.restore bundle.anyName bundle.content.snapshotNames)
      ((bundle.content.objects ManagedKind.vmSet.name).flatMap MachineSet.members) question →
    T.asks () question

variable {T : Terms Query Query.Answer Unit} {settings : Settings} {inv : Request → Prop}
  {copy : Request} {ns name marker : String} {state : State} {message : String} {α β : Type}

/-- What is asked before the rest of a pass leaves its copy as it is. -/
theorem asks_bind_maintained {P : Query → Prop} {x : Pass α} {f : α → Pass β} (hx : Asks P x)
    (hP : ∀ question, P question → T.asks () question) (hcopy : inv copy)
    (hf : ∀ value, Ensures T (f value) copy () fun _ copy' _ => inv copy') :
    Ensures T (x >>= f) copy () fun _ copy' _ => inv copy' :=
  hx.preserves_bind (fun _ => True) (fun _ question _ => hP question) (fun _ _ _ _ _ _ => trivial)
    trivial (fun value _ _ => hf value) fun _ _ _ => hcopy

theorem bind_maintained {x : Pass α} {f : α → Pass β}
    (hx : Ensures T x copy () fun _ copy' _ => inv copy') (hf : ∀ value, Maintains T inv (f value)) :
    Ensures T (x >>= f) copy () fun _ copy' _ => inv copy' :=
  hx.bind (fun value copy' _ => hf value copy') fun _ _ _ hkept => hkept

theorem ofExcept_bind_maintained {outcome : Except Failure α} {f : α → Pass β} (hcopy : inv copy)
    (hf : ∀ value, outcome = .ok value → Ensures T (f value) copy () fun _ copy' _ => inv copy') :
    Ensures T (ofExcept outcome >>= f) copy () fun _ copy' _ => inv copy' := by
  cases outcome with
  | ok value => exact hf value rfl
  | error failure => exact hcopy

namespace Permits

variable (h : Permits T settings inv) (hcopy : inv copy)

include h hcopy

/-- Writes a status under which the request would still be as it was. -/
theorem writeStatus_of {status : Request.Status}
    (hstatus : ∀ now, inv { copy with status := some (status.announced now message) }) :
    Ensures T (writeStatus status message) copy () fun _ copy' _ => inv copy' := by
  refine ensures_writeStatus.2 ⟨h.clock, fun now _ _ => ?_⟩
  split
  · exact hcopy
  · obtain ⟨hasks, hstored⟩ := h.write _ (hstatus now)
    refine ⟨hasks, ?_⟩
    rintro (failure | stored) _ hanswer
    · exact hcopy
    · exact hstored stored hanswer

theorem writeStatus {status : Request.Status}
    (hstate : status.state = copy.state ∨ status.state ≠ .cleaning) :
    Ensures T (writeStatus status message) copy () fun _ copy' _ => inv copy' :=
  h.writeStatus_of hcopy fun now => h.status copy (status.announced now message) hcopy hstate

theorem transition (hstate : state = copy.state ∨ state ≠ .cleaning) :
    Ensures T (transition state message) copy () fun _ copy' _ => inv copy' :=
  ensures_transition.2 (h.writeStatus hcopy hstate)

theorem now_bind {f : Instant → Pass α}
    (hf : ∀ now, Ensures T (f now) copy () fun _ copy' _ => inv copy') :
    Ensures T (Activity.now >>= f) copy () fun _ copy' _ => inv copy' :=
  asks_bind_maintained (.now (P := (· = .clock)) rfl) (fun _ heq => heq ▸ h.clock) hcopy hf

theorem collect_bind {f : Inventory → Pass α}
    (hf : ∀ inventory, Ensures T (f inventory) copy () fun _ copy' _ => inv copy') :
    Ensures T (collect settings ns >>= f) copy () fun _ copy' _ => inv copy' :=
  asks_bind_maintained (Inventory.collect_asks ns _) (h.listing ns) hcopy hf

/-- What is deleted must be permitted for the request in question. -/
theorem clean (hstate : copy.state = .cleaning)
    (hdeletion : ∀ inventory question, Inventory.IsDeletion ns inventory question →
      T.asks () question) :
    Ensures T (clean settings ns) copy () fun _ copy' _ => inv copy' := by
  refine h.collect_bind hcopy fun inventory => ?_
  refine asks_bind_maintained (Inventory.clear_asks ns inventory) (hdeletion inventory) hcopy
    fun cleared => ?_
  split
  · exact h.transition hcopy (.inr (by simp))
  · exact h.transition hcopy (.inl hstate.symm)

/-- What follows the work of a pass maintains what holds of its copy if the work does. -/
theorem reconcile (hpass : Ensures T (pass settings copy.spec.mode) copy () fun _ copy' _ =>
      inv copy') :
    Ensures T (reconcile settings) copy () fun _ copy' _ => inv copy' := by
  refine ensures_reconcile (fun _ => hcopy) fun _ => hpass.mono fun outcome copy' _ hcopy' => ?_
  cases outcome with
  | ok => exact hcopy'
  | error failure =>
    refine ⟨fun _ => hcopy', fun _ => h.transition hcopy' (.inr ?_)⟩
    cases copy.spec.mode <;> decide

end Permits

namespace PermitsSave

variable (h : PermitsSave T settings inv) (hcopy : inv copy)

include h hcopy

theorem quiesce : Ensures T (quiesce settings) copy () fun _ copy' _ => inv copy' := by
  rw [Saga.quiesce, Activity.ensures_bind, Activity.ensures_get, Activity.then_ok]
  refine ofExcept_bind_maintained hcopy fun ns _ => h.collect_bind hcopy fun inventory => ?_
  dsimp only
  split <;> exact h.transition hcopy (.inr (by simp))

theorem finishSave (hns : Lives inv ns) (hmarker : requestMarker copy = .ok marker)
    {inventory : Inventory} {status : Request.Status} :
    Ensures T (finishSave settings ns copy.anyName marker inventory status) copy ()
      fun _ copy' _ => inv copy' := by
  refine asks_bind_maintained (ensureBundle_asks _ _ _ _ _ _)
    (fun question => h.bundling copy ns marker _ _ question hcopy hns hmarker) hcopy fun _ => ?_
  exact h.now_bind hcopy fun _ => h.writeStatus hcopy (.inr (by simp))

/-- An inventory that is collected has sets of machines that were listed. -/
theorem collect_listed :
    Ensures T (collect settings ns) copy () fun outcome copy' _ => copy' = copy ∧
      ∀ inventory, outcome = .ok inventory → T.answers () ⟨.call (.listManaged ns .vmSet),
        (.ok inventory.vmSets : Except Failure (List Resource))⟩ () := by
  have hlisted : Inventory.Listed T ns settings.managedSelector (fun _ => True)
      (fun kind objects => T.answers () ⟨.call (.listManaged ns kind),
        (.ok objects : Except Failure (List Resource))⟩ ()) (fun _ => True) fun _ => True :=
    ⟨fun _ question _ => h.listing ns question, fun _ _ _ _ _ _ => trivial,
      fun _ _ _ _ _ hanswer => hanswer, fun _ _ _ _ _ => trivial, fun _ _ _ _ _ => trivial⟩
  refine (Inventory.collect_ensures hlisted trivial).mono ?_
  rintro (failure | collected) copy' _ hgathers
  · exact ⟨hgathers.1, nofun⟩
  · obtain ⟨rfl, -, lists, cs, ss, hlists, -, -, rfl⟩ := hgathers
    refine ⟨rfl, ?_⟩
    rintro _ ⟨⟩
    rw [Inventory.vmSets, Inventory.objects_gather]
    exact hlists .vmSet

theorem save : Ensures T (save settings) copy () fun _ copy' _ => inv copy' := by
  rw [Saga.save, Activity.ensures_bind, Activity.ensures_get, Activity.then_ok]
  refine ofExcept_bind_maintained hcopy fun ns hns => ?_
  refine ofExcept_bind_maintained hcopy fun marker hmarker => ?_
  have hlives : Lives inv ns := ⟨copy, hcopy, hns⟩
  refine (h.collect_listed hcopy).bind ?_ fun _ _ _ hkept => hkept.1 ▸ hcopy
  rintro inventory _ _ ⟨rfl, hlisted⟩
  dsimp only
  split
  · refine asks_bind_maintained (Imaging.within_runPass_asks _ _ _ _ _ _)
      (fun question => h.imaging _ ns marker _ question hcopy hlives hmarker (hlisted _ rfl)) hcopy
      fun (pending, recorded) => ?_
    dsimp only
    split
    · exact h.finishSave hcopy hlives hmarker
    · exact h.writeStatus hcopy (.inl rfl)
  · exact h.finishSave hcopy hlives hmarker

omit hcopy in
/-- A pass of a save maintains what holds of its copy. -/
theorem savePass : Maintains T inv (savePass settings) := by
  have hphase : Maintains T inv (savePhase settings) := fun copy hcopy =>
    ensures_savePhase (fun _ => h.quiesce hcopy) (fun _ => h.save hcopy) fun _ _ _ => hcopy
  intro copy hcopy
  refine ensures_savePass.2 ?_
  split
  · exact bind_maintained (h.transition hcopy (.inr (by simp))) fun _ => hphase
  · exact hphase copy hcopy

end PermitsSave

namespace PermitsRestore

variable {bundle : Bundle} (h : PermitsRestore T settings inv) (hcopy : inv copy)

include h hcopy

theorem load (hns : Lives inv ns) (hbundle : Finds T ns bundle) :
    Ensures T (load settings ns bundle) copy () fun _ copy' _ => inv copy' := by
  rw [Saga.load, Activity.ensures_bind, Activity.ensures_get, Activity.then_ok]
  refine asks_bind_maintained (loadObjects_asks ns _ bundle.content)
    (fun question => h.loading ns _ bundle question hns hbundle) hcopy fun _ => ?_
  have hfinish : ∀ status, Ensures T (finishLoad bundle status) copy () fun _ copy' _ => inv copy' :=
    fun _ => h.writeStatus hcopy (.inr (by simp))
  dsimp only
  split
  · refine ofExcept_bind_maintained hcopy fun marker hmarker => ?_
    refine asks_bind_maintained (Imaging.within_runPass_asks _ _ _ _ _ _)
      (fun question => h.imaging copy ns marker bundle question hcopy hns hmarker hbundle) hcopy
      fun (pending, recorded) => ?_
    dsimp only
    split
    · exact hfinish _
    · exact h.writeStatus hcopy (.inl rfl)
  · exact hfinish _

theorem awaitRestored :
    Ensures T (awaitRestored settings ns bundle) copy () fun _ copy' _ => inv copy' := by
  refine h.collect_bind hcopy fun inventory => ?_
  dsimp only
  split
  · rw [Activity.ensures_bind, Activity.ensures_get, Activity.then_ok]
    exact h.now_bind hcopy fun _ => h.writeStatus hcopy (.inr (by simp))
  · exact h.transition hcopy (.inr (by simp))

/-- Past the empty state, a restore maintains what holds of its copy if its deletions do. -/
theorem restorePhase (hns : Lives inv ns) (hbundle : Finds T ns bundle)
    (hclean : copy.state = .cleaning →
      Ensures T (clean settings ns) copy () fun _ copy' _ => inv copy') :
    Ensures T (restorePhase settings ns bundle) copy () fun _ copy' _ => inv copy' :=
  ensures_restorePhase hclean (fun _ => h.load hcopy hns hbundle) (fun _ => h.awaitRestored hcopy)
    fun _ _ _ _ => hcopy

omit hcopy in
/-- A bundle that a restore goes on with was found. -/
theorem sourceBundle (hns : Lives inv ns) :
    Ensures T (sourceBundle ns) copy () fun outcome copy' _ => copy' = copy ∧
      ∀ bundle, outcome = .ok bundle → Finds T ns bundle := by
  rw [Saga.sourceBundle]
  simp only [Activity.ensures_bind, Activity.ensures_get, Activity.then_ok]
  split
  · exact ⟨rfl, by rintro _ ⟨⟩⟩
  · refine Activity.ensures_call_bind.2 ⟨h.source ns _ hns, ?_⟩
    rintro (failure | (_ | bundle)) _ hanswer
    · exact ⟨rfl, by rintro _ ⟨⟩⟩
    · exact ⟨rfl, by rintro _ ⟨⟩⟩
    · refine ⟨rfl, ?_⟩
      rintro _ ⟨⟩
      exact ⟨_, hanswer⟩

/-- A pass of a restore maintains what holds of its copy if its deletions do, and if a clean restore
that begins may say so. -/
theorem restorePass
    (hbegin : copy.spec.mode = .cleanRestore → copy.state = .empty → ∀ status : Request.Status,
      inv { copy with status := some status })
    (hclean : ∀ copy ns, inv copy → Lives inv ns → copy.state = .cleaning →
      Ensures T (clean settings ns) copy () fun _ copy' _ => inv copy') :
    Ensures T (restorePass settings) copy () fun _ copy' _ => inv copy' := by
  rw [ensures_restorePass]
  refine ofExcept_bind_maintained hcopy fun ns hns => ?_
  have hlives : Lives inv ns := ⟨copy, hcopy, hns⟩
  refine (h.sourceBundle hlives).bind ?_ fun _ _ _ hkept => hkept.1 ▸ hcopy
  rintro bundle _ _ ⟨rfl, hbundle⟩
  have hphase : Maintains T inv (Saga.restorePhase settings ns bundle) := fun copy hcopy =>
    h.restorePhase hcopy hlives (hbundle bundle rfl) (hclean copy ns hcopy hlives)
  refine ensures_restoreFrom.2 ?_
  split
  case isTrue hempty =>
    split
    case isTrue hmode =>
      refine bind_maintained (ensures_transition.2 ?_) fun _ => hphase
      exact h.writeStatus_of hcopy fun _ => hbegin hmode hempty _
    case isFalse => exact bind_maintained (h.transition hcopy (.inr (by simp))) fun _ => hphase
  case isFalse => exact hphase _ hcopy

end PermitsRestore

end NamespaceBackup.Saga
