import NamespaceBackup.Proofs.Clearing
import NamespaceBackup.Proofs.Reload
import NamespaceBackup.Proofs.Runs

/-!
# Passes of a clean restore

With nobody else around, what a pass of a clean restore does depends on the state of the request and
on what the namespace holds: it deletes what is managed, or finds nothing and goes on, loads its
bundle, or waits for the controllers. Everything about whole runs follows from that.

## Main definitions

* `Saga.restoring`: the surroundings of a restore with nobody else around
* `Saga.Restores`, `Saga.Underway`: a clean restore of a bundle, as it is stored
* `Saga.Advances`: what a pass does to the state of the request and to the namespace

## Main results

* `Saga.writeStatus_alone`: with nobody else around every write succeeds
* `Saga.reconcile_advances`: every pass advances
* `Saga.Runs.advances`: what every advance keeps holds after every run
-/

namespace NamespaceBackup.Saga

open Activity (Ensures)
open Cluster (alone)

/-- The surroundings of a restore with nobody else around: every pass is given the request as it is
stored. -/
def restoring (ns name : String) : Surroundings Cluster where
  answers := Cluster.Performs
  gives cluster request := (cluster.space ns).requests.find? name = some request
  between before after := after = before

/-- A request of a name is a clean restore of a bundle, without the images of machines. -/
structure Restores (ns name : String) (bundle : Bundle) (request : Request) : Prop where
  name : request.anyName = name
  ns : request.metadata.ns = some ns
  mode : request.spec.mode = .cleanRestore
  images : request.spec.includeImages = false
  source : request.spec.restoreSource = some bundle.anyName

/-- A clean restore of a bundle is stored as a pass has it, and the bundle is there. -/
structure Underway (ns name : String) (bundle : Bundle) (request : Request) (space : Space) :
    Prop where
  restores : Restores ns name bundle request
  stored : space.requests.find? name = some request
  bundle : space.bundles.find? bundle.anyName = some bundle

variable {settings : Settings} {ns name : String} {bundle : Bundle}
  {request : Request} {cluster : Cluster} {status : Request.Status} {message : String}

/-- Two namespaces hold the same but for their requests. -/
def Resembles (before after : Space) : Prop := ∃ requests, after = { before with requests }

namespace Resembles

variable {before after later : Space}

protected theorem refl (space : Space) : Resembles space space := ⟨_, rfl⟩

theorem trans (h : Resembles before after) (h' : Resembles after later) :
    Resembles before later := by
  obtain ⟨_, rfl⟩ := h
  obtain ⟨requests, rfl⟩ := h'
  exact ⟨requests, rfl⟩

theorem inventory_eq (h : Resembles before after) (selector : String) :
    after.inventory selector = before.inventory selector := by
  obtain ⟨_, rfl⟩ := h
  rfl

theorem named (h : Resembles before after) (hnamed : before.Named) : after.Named := by
  obtain ⟨_, rfl⟩ := h
  exact ⟨hnamed.managed, hnamed.configMaps, hnamed.secrets⟩

end Resembles

/-! ## Status writes -/

/-- A request with a new status, as it is stored by a write. -/
def withStatus (request : Request) (status : Request.Status) : Request :=
  { request with
    metadata :=
      { request.metadata with
        resourceVersion := some (Cluster.nextVersion request.metadata.resourceVersion) }
    status := some status }

theorem Restores.withStatus (h : Restores ns name bundle request) (status : Request.Status) :
    Restores ns name bundle (withStatus request status) :=
  ⟨h.name, h.ns, h.mode, h.images, h.source⟩

/-- A write succeeds if the request is stored as it was read. -/
theorem Underway.writeStatus_eq (h : Underway ns name bundle request (cluster.space ns))
    (status : Request.Status) :
    cluster.writeStatus { request with status := some status } =
      (.ok (withStatus request status), cluster.withSpace ns
        { cluster.space ns with
          requests := (cluster.space ns).requests.insert name (withStatus request status) }) := by
  have hhome : Cluster.home { request with status := some status } = ns := by
    simp [Cluster.home, h.restores.ns]
  have hname : Request.anyName { request with status := some status } = name := h.restores.name
  simp only [Cluster.writeStatus, hhome, hname, h.stored]
  -- What is stored is the copy itself, so their versions agree.
  exact if_neg fun hne => hne rfl

/-- With nobody else around, the copy of a pass stays as it is stored and every write succeeds. -/
theorem writeStatus_alone (h : Underway ns name bundle request (cluster.space ns)) :
    Ensures alone (writeStatus status message) request cluster fun outcome request' after =>
      outcome = .ok () ∧ request'.state = status.state ∧
        Underway ns name bundle request' (after.space ns) ∧
        Resembles (cluster.space ns) (after.space ns) := by
  refine ensures_writeStatus.2 ⟨trivial, ?_⟩
  rintro now cluster rfl
  split
  case isTrue hagrees =>
    -- Nothing is written, since the request is in that state already.
    obtain ⟨hstate, -⟩ := Request.Status.agrees_iff.1 hagrees
    exact ⟨rfl, hstate, h, .refl _⟩
  case isFalse =>
    refine ⟨trivial, fun answer after hanswer => ?_⟩
    obtain ⟨rfl, rfl⟩ := Prod.mk.inj (hanswer.trans (h.writeStatus_eq _))
    refine ⟨rfl, rfl, ?_, ?_⟩
    · rw [Cluster.space_withSpace]
      exact ⟨h.restores.withStatus _, by rw [Dict.find?_insert, if_pos rfl], h.bundle⟩
    · rw [Cluster.space_withSpace]
      exact ⟨_, rfl⟩

/-! ## What a pass does -/

/-- The states in which a restore has not yet found the namespace clean. -/
def IsCleaning (state : State) : Prop := state = .empty ∨ state = .cleaning

/-- A restore cannot go on: its bundle has no name, or the state is none of its own. -/
def IsStuck (bundle : Bundle) (state : State) : Prop :=
  bundle.anyName = "" ∨ ¬ (IsCleaning state ∨ state = .loading ∨ state = .reconciling)

/-- What a pass of a clean restore does: from which state it goes to which, and what the namespace
holds afterwards. -/
inductive Advances (ns name selector : String) (bundle : Bundle) (before : Space) :
    State → State → Space → Prop
  /-- It deletes what is managed. -/
  | cleared {state : State} {after : Space} (hstate : IsCleaning state)
    (hbefore : ¬ (before.inventory selector).isEmpty = true)
    (hafter : before.Named → (after.inventory selector).isEmpty = true) :
    Advances ns name selector bundle before state .cleaning after
  /-- It finds nothing to delete. -/
  | clean {state : State} {after : Space} (hstate : IsCleaning state)
    (hbefore : (before.inventory selector).isEmpty = true)
    (hafter : after.inventory selector = before.inventory selector) :
    Advances ns name selector bundle before state .loading after
  /-- It loads the bundle. -/
  | loaded {after : Space}
    (hafter : after.inventory selector =
      (before.loaded ns ("Restored by BackupRequest " ++ name) bundle.content).inventory selector) :
    Advances ns name selector bundle before .loading .reconciling after
  /-- It waits, or finds that nothing is left to wait for. -/
  | waited {state : State} {after : Space} (hstate : state = .reconciling ∨ state = .restored)
    (hafter : after.inventory selector = before.inventory selector) :
    Advances ns name selector bundle before .reconciling state after
  /-- There is nothing to do any more. -/
  | ended {state : State} (hstate : state.isTerminal = true) :
    Advances ns name selector bundle before state state before
  /-- It cannot go on. -/
  | failed {state : State} {after : Space} (hstate : ¬ state.isTerminal = true)
    (hstuck : IsStuck bundle state) :
    Advances ns name selector bundle before state .restoreError after

/-- What a pass leaves that starts in a state and a namespace. -/
def Advanced (ns name selector : String) (bundle : Bundle) (state : State) (before : Space)
    (request' : Request) (after : Cluster) : Prop :=
  Underway ns name bundle request' (after.space ns) ∧
    Advances ns name selector bundle before state request'.state (after.space ns)

variable {state : State} {before : Space} {selector : String}

/-- The last write of a pass advances it. -/
theorem writeStatus_advances (h : Underway ns name bundle request (cluster.space ns))
    (hadvances : ∀ after : Space, Resembles (cluster.space ns) after →
      Advances ns name selector bundle before state status.state after) :
    Ensures alone (writeStatus status message) request cluster fun outcome request' after =>
      outcome = .ok () ∧ Advanced ns name selector bundle state before request' after := by
  refine (writeStatus_alone h).mono ?_
  rintro outcome request' after ⟨houtcome, hstate, hunderway, hresembles⟩
  refine ⟨houtcome, hunderway, ?_⟩
  rw [hstate]
  exact hadvances _ hresembles

theorem transition_advances {state' : State}
    (h : Underway ns name bundle request (cluster.space ns))
    (hadvances : ∀ after : Space, Resembles (cluster.space ns) after →
      Advances ns name selector bundle before state state' after) :
    Ensures alone (transition state' message) request cluster fun outcome request' after =>
      outcome = .ok () ∧ Advanced ns name selector bundle state before request' after :=
  ensures_transition.2 (writeStatus_advances h hadvances)

/-- What is collected before the rest of a pass is what the namespace holds. -/
theorem collect_bind_alone {α : Type} {f : Inventory → Pass α}
    {post : Except Failure α → Request → Cluster → Prop}
    (hf : Ensures alone (f ((cluster.space ns).inventory settings.managedSelector)) request cluster
      post) : Ensures alone (collect settings ns >>= f) request cluster post := by
  refine (Inventory.collect_performs ns settings.managedSelector request cluster).bind ?_ ?_
  · rintro inventory _ _ ⟨hinventory, rfl, rfl⟩
    obtain rfl := Except.ok.inj hinventory
    exact hf
  · rintro failure _ _ ⟨⟨⟩, -⟩

theorem clean_advances (h : Underway ns name bundle request (cluster.space ns))
    (hstate : IsCleaning state) (hbefore : Resembles before (cluster.space ns)) :
    Ensures alone (clean settings ns) request cluster fun outcome request' after =>
      outcome = .ok () ∧
        Advanced ns name settings.managedSelector bundle state before request' after := by
  refine collect_bind_alone ?_
  generalize hinventory : (cluster.space ns).inventory settings.managedSelector = inventory
  by_cases hempty : inventory.isEmpty = true
  · -- There is nothing to delete, so the namespace stays as it is.
    rw [Inventory.clear, if_pos hempty, pure_bind, if_pos rfl]
    refine transition_advances h fun after hafter => .clean hstate ?_ ?_
    · rwa [← hbefore.inventory_eq, hinventory]
    · exact (hbefore.trans hafter).inventory_eq _
  · have hkinds : inventory.KnowsKinds := by
      rw [← hinventory]
      exact Inventory.knowsKinds_gather
    refine (Inventory.clear_alone hempty hkinds request cluster).bind ?_ ?_
    · rintro _ request cleared ⟨⟨⟩, rfl, hcleared⟩
      refine transition_advances (by rw [hcleared]; exact ⟨h.restores, h.stored, h.bundle⟩)
        fun after hafter => .cleared hstate ?_ fun hnamed => ?_
      · rwa [← hbefore.inventory_eq, hinventory]
      · rw [hafter.inventory_eq, hcleared, ← hinventory]
        exact Space.isEmpty_inventory_cleared (hbefore.named hnamed) _
    · rintro failure _ _ ⟨⟨⟩, -⟩

theorem load_advances (h : Underway ns name bundle request (cluster.space ns)) :
    Ensures alone (load settings ns bundle) request cluster fun outcome request' after =>
      outcome = .ok () ∧
        Advanced ns name settings.managedSelector bundle .loading (cluster.space ns) request'
          after := by
  rw [load, Activity.ensures_bind, Activity.ensures_get, Activity.then_ok]
  refine loadObjects_changes.before fun loaded hloaded => ?_
  rw [h.restores.images]
  refine writeStatus_advances (by rw [hloaded]; exact ⟨h.restores, h.stored, h.bundle⟩)
    fun after hafter => .loaded ?_
  rw [hafter.inventory_eq, hloaded, h.restores.name]

theorem awaitRestored_advances (h : Underway ns name bundle request (cluster.space ns)) :
    Ensures alone (awaitRestored settings ns bundle) request cluster fun outcome request' after =>
      outcome = .ok () ∧
        Advanced ns name settings.managedSelector bundle .reconciling (cluster.space ns) request'
          after := by
  refine collect_bind_alone ?_
  by_cases hquiesced : (Quiescence.evaluateRestored bundle.content
      ((cluster.space ns).inventory settings.managedSelector)).quiesced = true
  · rw [if_pos hquiesced, Activity.ensures_bind, Activity.ensures_get, Activity.then_ok,
      Activity.ensures_bind, Activity.ensures_now]
    refine ⟨trivial, ?_⟩
    rintro now _ rfl
    exact writeStatus_advances h fun after hafter => .waited (.inr rfl) (hafter.inventory_eq _)
  · rw [if_neg hquiesced]
    exact transition_advances h fun after hafter => .waited (.inl rfl) (hafter.inventory_eq _)

/-- What comes after the work of a pass: it advanced, or it cannot go on and nothing happened. -/
def Worked (ns name selector : String) (bundle : Bundle) (request : Request) (before : Space) :
    Except Failure Unit → Request → Cluster → Prop
  | .ok (), request', after => Advanced ns name selector bundle request.state before request' after
  | .error failure, request', after => failure.isTransient = false ∧
      IsStuck bundle request.state ∧ Underway ns name bundle request' (after.space ns)

/-- The bundle of a restore is found if it has a name. -/
theorem sourceBundle_bind_alone {f : Bundle → Pass Unit}
    (h : Underway ns name bundle request (cluster.space ns))
    (hf : Ensures alone (f bundle) request cluster
      (Worked ns name selector bundle request (cluster.space ns))) :
    Ensures alone (sourceBundle ns >>= f) request cluster
      (Worked ns name selector bundle request (cluster.space ns)) := by
  rw [Activity.ensures_bind, sourceBundle, Activity.ensures_bind, Activity.ensures_get,
    Activity.then_ok]
  dsimp only
  cases hfault : request.spec.fault? with
  | some fault =>
    have hname : bundle.anyName = "" := by
      simp only [Request.Spec.fault?, h.restores.source, Option.getD_some] at hfault
      by_contra hne
      simp [hne] at hfault
    exact ⟨rfl, .inl hname, h⟩
  | none =>
    refine Cluster.ensures_call_bind_alone.2 ?_
    have hfound : cluster.perform (.getBundle ns (request.spec.restoreSource.getD "")) =
        (.ok (some bundle), cluster) := by
      rw [h.restores.source, Cluster.perform, Option.getD_some, h.bundle]
    rw [hfound]
    exact hf

theorem restorePass_worked (h : Underway ns name bundle request (cluster.space ns)) :
    Ensures alone (restorePass settings) request cluster
      (Worked ns name settings.managedSelector bundle request (cluster.space ns)) := by
  rw [ensures_restorePass, requestNamespace, h.restores.ns]
  refine sourceBundle_bind_alone h ?_
  rw [ensures_restoreFrom]
  split
  case isTrue hempty =>
    rw [if_pos h.restores.mode]
    -- The pass leaves the empty state and goes on to clean the namespace.
    refine (ensures_transition.2 (writeStatus_alone h)).bind ?_ ?_
    · rintro _ started after ⟨-, hstate, hunderway, hresembles⟩
      rw [restorePhase, Activity.ensures_bind, Activity.ensures_get, Activity.then_ok, hstate]
      refine (clean_advances hunderway (.inl hempty) hresembles).mono ?_
      rintro _ request' after ⟨rfl, hadvanced⟩
      exact hadvanced
    · rintro failure _ _ ⟨⟨⟩, -⟩
  case isFalse hempty =>
    refine ensures_restorePhase ?_ ?_ ?_ ?_
    · intro hstate
      refine (clean_advances h (.inr hstate) (.refl _)).mono ?_
      rintro _ request' after ⟨rfl, hadvanced⟩
      exact hadvanced
    · intro hstate
      refine (load_advances h).mono ?_
      rintro _ request' after ⟨rfl, hadvanced⟩
      rw [Worked, hstate]
      exact hadvanced
    · intro hstate
      refine (awaitRestored_advances h).mono ?_
      rintro _ request' after ⟨rfl, hadvanced⟩
      rw [Worked, hstate]
      exact hadvanced
    · intro hcleaning hloading hreconciling _
      refine ⟨rfl, .inr ?_, h⟩
      rintro ((hstate | hstate) | hstate | hstate)
      · exact hempty hstate
      · exact hcleaning hstate
      · exact hloading hstate
      · exact hreconciling hstate

/-- Every pass advances. -/
theorem reconcile_advances (h : Underway ns name bundle request (cluster.space ns)) :
    Ensures alone (reconcile settings) request cluster fun _ request' after =>
      Advanced ns name settings.managedSelector bundle request.state (cluster.space ns) request'
        after := by
  refine ensures_reconcile (fun hterminal => ⟨h, .ended hterminal⟩) fun hopen => ?_
  rw [h.restores.mode]
  refine (restorePass_worked h).mono fun outcome request' after hworked => ?_
  cases outcome with
  | ok => exact hworked
  | error failure =>
    obtain ⟨htransient, hstuck, hunderway⟩ := hworked
    refine ⟨fun htrue => absurd htrue (by simp [htransient]), fun _ => ?_⟩
    have hstate : ¬ request.state.isTerminal = true := by simp [hopen]
    exact (transition_advances hunderway fun _ _ => .failed hstate hstuck).mono
      fun _ _ _ hafter => hafter.2

/-- What is there in the beginning and is kept by every advance is there after every run. -/
theorem Runs.advances {after : Cluster} {transcripts : List (List Exchange)}
    (h : Runs (restoring ns name) settings cluster transcripts after)
    (hstart : Underway ns name bundle request (cluster.space ns))
    (inv : Nat → State → Space → Prop) (hinv : inv 0 request.state (cluster.space ns))
    (hadvances : ∀ passes state state' before after, inv passes state before →
      Advances ns name settings.managedSelector bundle before state state' after →
      inv (passes + 1) state' after) :
    ∃ request', Underway ns name bundle request' (after.space ns) ∧
      inv transcripts.length request'.state (after.space ns) := by
  induction h with
  | start => exact ⟨request, hstart, hinv⟩
  | pass _ hbetween hgiven hyields hpath ih =>
    -- The pass is given the request as the last one has left it.
    obtain ⟨stored, hunderway, hstored⟩ := ih
    obtain rfl := hbetween
    obtain rfl := Option.some.inj (hunderway.stored.symm.trans hgiven)
    obtain ⟨hafter, hstep⟩ := (reconcile_advances hunderway).ends hyields hpath
    refine ⟨_, hafter, ?_⟩
    rw [List.length_append]
    exact hadvances _ _ _ _ _ hstored hstep

/-- A restore can always go on. -/
theorem exists_runs (settings : Settings)
    (h : Underway ns name bundle request (cluster.space ns)) (passes : Nat) :
    ∃ transcripts after, transcripts.length = passes ∧
      Runs (restoring ns name) settings cluster transcripts after := by
  induction passes with
  | zero => exact ⟨[], cluster, rfl, .start⟩
  | succ passes ih =>
    obtain ⟨transcripts, after, hlength, hruns⟩ := ih
    obtain ⟨request', hunderway, -⟩ := hruns.advances h (fun _ _ _ => True) trivial
      fun _ _ _ _ _ _ _ => trivial
    have hnext : Runs (restoring ns name) settings cluster (transcripts ++
        [(reconcile settings request').transcript (Cluster.respond default) after]) _ :=
      .pass hruns rfl hunderway.stored (Dialogue.yields_transcript ..)
        (Dialogue.path_transcript _ (Cluster.performs_respond default) _ after)
    exact ⟨_, _, by simp [hlength], hnext⟩

end NamespaceBackup.Saga
