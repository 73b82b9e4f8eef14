import NamespaceBackup.Proofs.Recording
import NamespaceBackup.Proofs.Runs

/-!
# Invariants of a save

All that a save does to its bundle and to the status of being saved happens at the end of a pass, in
one place. Everything else that a pass asks is quiet, or it writes a status that says something
else. At the end, if images are included, every member of every set that was collected has a
snapshot, since nobody is pending.

## Main definitions

* `Bundle.Content.Covers`: every machine of a saved set has a snapshot
* `Saga.IsQuiet`: the questions that neither write a status nor are about bundles
* `Saga.Grown`: the snapshots that a pass may have added to those of its copy
* `Saga.SaveKeeps`: what makes a property an invariant of every pass of a save

## Main results

* `Saga.ensures_ensureBundle`: a bundle is found, or it is made
* `Saga.SaveKeeps.reconcile`: an invariant holds after a pass as before
-/

namespace NamespaceBackup

/-- Every member of every saved set of machines has a snapshot. -/
def Bundle.Content.Covers (content : Bundle.Content) : Prop :=
  ∀ set ∈ content.objects ManagedKind.vmSet.name, ∀ machine ∈ MachineSet.members set,
    content.snapshotNames.contains machine = true

namespace Saga

open Activity (Asks Ensures)

/-- The questions that neither write a status nor are about bundles. -/
def IsQuiet : Query → Prop
  | .call (.updateStatus _) | .call (.findBundle ..) | .call (.createBundle ..)
  | .call (.getBundle ..) => False
  | _ => True

theorem IsQuiet.ne_createBundle {question : Query} (h : IsQuiet question) (ns : String)
    (bundle : Bundle) : question ≠ .call (.createBundle ns bundle) := by
  rintro rfl
  exact h

theorem IsQuiet.ne_updateStatus {question : Query} (h : IsQuiet question) (written : Request) :
    question ≠ .call (.updateStatus written) := by
  rintro rfl
  exact h

section Shapes

variable {ns selector : String} {settings : Settings} {imaging : Imaging.Request}
  {task : Imaging.Task} {machines : List String} {question : Query}

theorem isQuiet_of_isListing (h : Inventory.IsListing ns selector question) :
    IsQuiet question := by
  cases h <;> trivial

theorem isQuiet_of_isImaging (h : Imaging.IsImaging settings imaging task machines question) :
    IsQuiet question := by
  cases h with
  | list => trivial
  | handle h => cases h <;> trivial

end Shapes

/-- The snapshots that a pass may have added to those of its copy: each is named for its machine and
the marker of the request. -/
def Grown (request : Request) (names : Dict String) : Prop :=
  ∀ machine name, names.find? machine = some name →
    request.currentStatus.snapshotNames.find? machine = some name ∨
      ∃ marker, request.marker? = some marker ∧ name = machine ++ "-" ++ marker

theorem Grown.refl (request : Request) : Grown request request.currentStatus.snapshotNames :=
  fun _ _ h => .inl h

variable {ω : Type} {T : Terms Query Query.Answer ω} {settings : Settings}
  {held : Request → ω → Prop} {request : Request} {w : ω} {ns : String}

/-- Makes the bundle of a request, under a name of the present second. -/
def makeBundle (settings : Settings) (ns name marker : String) (inventory : Inventory)
    (names : Dict String) : Pass String := do
  let now ← Activity.now
  Activity.call <| .createBundle ns <|
    newBundle settings ns name marker (name ++ "-" ++ toString now.seconds) inventory names
  return name ++ "-" ++ toString now.seconds

/-- The name of a bundle that was made is that under which it was made. -/
theorem ensures_makeBundle {name marker : String} {inventory : Inventory} {names : Dict String}
    {post : Except Failure String → Request → ω → Prop} (hclock : T.asks w .clock)
    (hcreate : ∀ (now : Instant) v, T.answers w ⟨.clock, now⟩ v →
      ∀ bundle, bundle = newBundle settings ns name marker (name ++ "-" ++ toString now.seconds)
        inventory names →
      T.asks v (.call (.createBundle ns bundle)) ∧
      ∀ (answer : Except Failure Unit) u, T.answers v ⟨.call (.createBundle ns bundle), answer⟩ u →
        post (answer.map fun _ => bundle.anyName) request u) :
    Ensures T (makeBundle settings ns name marker inventory names) request w post := by
  refine ⟨hclock, fun now v hnow => ?_⟩
  obtain ⟨hasks, hanswers⟩ := hcreate now v hnow _ rfl
  refine ⟨hasks, fun answer u hanswer => ?_⟩
  have hpost := hanswers answer u hanswer
  cases answer <;> exact hpost

/-- A bundle is made only if none is found. -/
theorem ensures_ensureBundle {name marker : String} {inventory : Inventory} {names : Dict String}
    {post : Except Failure String → Request → ω → Prop}
    (hasks : T.asks w (.call (.findBundle ns (settings.markerSelector marker))))
    (hanswers : ∀ (answer : Except Failure (Option Bundle)) v,
      T.answers w ⟨.call (.findBundle ns (settings.markerSelector marker)), answer⟩ v →
      match answer with
      | .ok (some bundle) => post (.ok bundle.anyName) request v
      | .ok none => Ensures T (makeBundle settings ns name marker inventory names) request v post
      | .error failure => post (.error failure) request v) :
    Ensures T (ensureBundle settings ns name marker inventory names) request w post := by
  refine Activity.ensures_call_bind.2 ⟨hasks, fun answer v hanswer => ?_⟩
  have hpost := hanswers answer v hanswer
  rcases answer with failure | (_ | bundle) <;> exact hpost

theorem marker?_of_requestMarker {marker : String} (h : requestMarker request = .ok marker) :
    request.marker? = some marker := by
  rw [requestMarker] at h
  split at h
  case h_1 hmarker =>
    cases h
    exact hmarker
  case h_2 => cases h

/-- What makes a property of the copy of a pass and of the world an invariant of every pass of a
save. -/
structure SaveKeeps (T : Terms Query Query.Answer ω) (settings : Settings)
    (held : Request → ω → Prop) : Prop where
  asks : ∀ request w question, held request w → IsQuiet question → T.asks w question
  quiet : ∀ request w exchange v, held request w → IsQuiet exchange.1 →
    T.answers w exchange v → held request v
  /-- A status that does not say that the request is saved. -/
  write : ∀ request (status : Request.Status) message w, held request w → status.state ≠ .saved →
    status.conditions = request.currentStatus.conditions → Grown request status.snapshotNames →
    Ensures T (writeStatus status message) request w fun _ request v => held request v
  /-- The end of a save, at which everybody has a snapshot if images are included. -/
  finish : ∀ request ns marker inventory names w, held request w → request.state = .saving →
    request.metadata.ns = some ns → request.marker? = some marker → Grown request names →
    (request.spec.includeImages = true → (inventory.toBundle names).Covers) →
    Ensures T (finishSave settings ns request.anyName marker inventory
        { request.currentStatus with snapshotNames := names }) request w
      fun _ request v => held request v

namespace SaveKeeps

theorem transition (h : SaveKeeps T settings held) {state : State} (hne : state ≠ .saved)
    (message : String) (hheld : held request w) :
    Ensures T (Saga.transition state message) request w fun _ request v => held request v :=
  ensures_transition.2 (h.write request { request.currentStatus with state } message w hheld hne rfl
    (.refl request))

/-- A part that asks only quiet questions comes before the rest of a pass. -/
theorem quiet_bind {α β : Type} {P : Query → Prop} {x : Pass α} {f : α → Pass β}
    (h : SaveKeeps T settings held) (hx : Asks P x) (hP : ∀ question, P question → IsQuiet question)
    (hheld : held request w)
    (hf : ∀ value v, held request v → Ensures T (f value) request v fun _ request v =>
      held request v) :
    Ensures T (x >>= f) request w fun _ request v => held request v := by
  refine hx.preserves_bind (held request) ?_ ?_ hheld hf fun _ _ hv => hv
  · exact fun w question hw hq => h.asks _ w question hw (hP _ hq)
  · exact fun w exchange v hw hq hv => h.quiet _ w exchange v hw (hP _ hq) hv

theorem ofExcept_bind {α β : Type} {outcome : Except Failure α} {f : α → Pass β}
    (hheld : held request w)
    (hf : ∀ value, outcome = .ok value →
      Ensures T (f value) request w fun _ request v => held request v) :
    Ensures T (ofExcept outcome >>= f) request w fun _ request v => held request v := by
  cases outcome with
  | ok value => exact hf value rfl
  | error failure => exact hheld

theorem quiesce (h : SaveKeeps T settings held) (hheld : held request w) :
    Ensures T (Saga.quiesce settings) request w fun _ request v => held request v := by
  refine ofExcept_bind hheld fun ns _ => ?_
  refine h.quiet_bind (Inventory.collect_asks ns _) (fun _ => isQuiet_of_isListing) hheld
    fun inventory v hv => ?_
  by_cases hquiesced : (Quiescence.evaluate inventory).quiesced = true
  · rw [if_pos hquiesced]
    exact h.transition (by decide) _ hv
  · rw [if_neg hquiesced]
    exact h.transition (by decide) _ hv

/-- The visit to the machines adds to the snapshots. If it leaves nobody pending, then every member
of every set has one. -/
theorem takeImages_bind {β : Type} {name marker : String} {inventory : Inventory}
    {f : List String × Dict String → Pass β} (h : SaveKeeps T settings held)
    (hmarker : request.marker? = some marker) (hheld : held request w)
    (hf : ∀ pending names v, held request v → Grown request names →
      (pending.isEmpty = true → (inventory.toBundle names).Covers) →
      Ensures T (f (pending, names)) request v fun _ request v => held request v) :
    Ensures T (takeImages settings ns name marker inventory request.currentStatus.snapshotNames >>= f)
      request w fun _ request v => held request v := by
  have hsub : ∀ set ∈ inventory.vmSets,
      MachineSet.members set ⊆ inventory.vmSets.flatMap MachineSet.members :=
    fun set hset machine hmachine => List.mem_flatMap.2 ⟨set, hset, hmachine⟩
  refine Activity.ensures_bind.2 (Activity.ensures_within.2 ?_)
  refine ((Imaging.runPass_accounts hsub).preserves (held request)
    (fun w question hw hq => h.asks _ w question hw (isQuiet_of_isImaging hq))
    (fun w exchange v hw hq hv => h.quiet _ w exchange v hw (isQuiet_of_isImaging hq) hv)
    hheld).mono ?_
  rintro (failure | pending) names v ⟨haccounts, hv⟩
  · exact hv
  · refine hf pending names v hv (fun machine name hname => ?_) fun hempty set hset machine hm => ?_
    · refine (haccounts.1.added machine name hname).imp_right fun hadded => ⟨marker, hmarker, ?_⟩
      exact (Except.ok.inj hadded).symm
    · have hpending : machine ∉ pending := by simp [List.isEmpty_iff.1 hempty]
      have hmember : machine ∈ inventory.vmSets.flatMap MachineSet.members := hsub set hset hm
      exact (haccounts.2 machine hmember).resolve_left hpending

theorem save (h : SaveKeeps T settings held) (hheld : held request w)
    (hstate : request.state = .saving) :
    Ensures T (Saga.save settings) request w fun _ request v => held request v := by
  rw [Saga.save, Activity.ensures_bind, Activity.ensures_get, Activity.then_ok]
  refine ofExcept_bind hheld fun ns hns => ofExcept_bind hheld fun marker hmarker => ?_
  have hns := requestNamespace_eq_ok.1 hns
  have hmarker := marker?_of_requestMarker hmarker
  refine h.quiet_bind (Inventory.collect_asks ns _) (fun _ => isQuiet_of_isListing) hheld
    fun inventory v hv => ?_
  by_cases himages : request.spec.includeImages = true
  · rw [if_pos himages]
    refine h.takeImages_bind hmarker hv fun pending names v hv hgrown hcovers => ?_
    dsimp only
    by_cases hpending : pending.isEmpty = true
    · rw [if_pos hpending]
      exact h.finish _ ns marker inventory names v hv hstate hns hmarker hgrown
        fun _ => hcovers hpending
    · rw [if_neg hpending]
      refine h.write _ _ _ v hv ?_ rfl hgrown
      rw [show request.currentStatus.state = .saving from hstate]
      decide
  · rw [if_neg himages]
    exact h.finish _ ns marker inventory _ v hv hstate hns hmarker (.refl request)
      fun h => absurd h himages

theorem savePass (h : SaveKeeps T settings held) (hheld : held request w) :
    Ensures T (Saga.savePass settings) request w fun _ request v => held request v := by
  have hphase : ∀ request w, held request w →
      Ensures T (savePhase settings) request w fun _ request v => held request v :=
    fun request w hheld =>
      ensures_savePhase (fun _ => h.quiesce hheld) (h.save hheld) fun _ _ _ => hheld
  rw [ensures_savePass]
  split
  case isTrue =>
    exact (h.transition (by decide) _ hheld).bind (fun _ request v hv => hphase request v hv)
      fun _ _ _ hv => hv
  case isFalse => exact hphase request w hheld

/-- An invariant of a save holds after every pass, however it ends. -/
theorem reconcile (h : SaveKeeps T settings held) (hmode : request.spec.mode = .save)
    (hheld : held request w) :
    Ensures T (Saga.reconcile settings) request w fun _ request v => held request v := by
  refine ensures_reconcile (fun _ => hheld) fun _ => ?_
  rw [hmode]
  refine (h.savePass hheld).mono fun outcome request' v hv => ?_
  cases outcome with
  | ok => exact hv
  | error failure => exact ⟨fun _ => hv, fun _ => h.transition (by decide) _ hv⟩

end SaveKeeps

end Saga

end NamespaceBackup
