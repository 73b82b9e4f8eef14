import NamespaceBackup.Proofs.Copies
import NamespaceBackup.Proofs.Lagging
import NamespaceBackup.Proofs.Permits

/-!
# When a pass deletes

Objects are deleted by the cleaning phase and nowhere else, and a pass gets there in two ways only.
A clean restore that begins goes to the cleaning state and on to its phase. Any restore that is
found in the cleaning state, whatever its mode, is taken to be in that phase. A save never deletes,
and neither does a restore that does not name its namespace and its bundle.

## Main definitions

* `Saga.offer`: answers under which there is something to delete

## Main results

* `Saga.restorePhase_quiet`: where nothing is deleted
* `Saga.reconcile_deleting`: a pass deletes only if it may
* `Saga.restorePass_offered`: where something is
* `Saga.deletes_iff`: over which requests a pass may delete
-/

namespace NamespaceBackup.Saga

open Activity (Ensures)
open Dialogue (Yields)

variable {settings : Settings} {given copy : Request} {ns : String} {bundle : Bundle}

/-! ## Phases that delete nothing -/

section Quiet

variable {T : Terms Query Query.Answer Unit}

/-- Terms on which anything may be asked that deletes nothing. -/
def AllowsQuiet {ω : Type} (T : Terms Query Query.Answer ω) : Prop :=
  ∀ w question, ¬ Deletes question → T.asks w question

theorem not_deletes_of_isListing {selector : String} {question : Query}
    (h : Inventory.IsListing ns selector question) : ¬ Deletes question := by
  cases h <;> simp [Call.isDelete]

theorem not_deletes_of_isLoading {reason : String} {content : Bundle.Content} {question : Query}
    (h : IsLoading ns reason content question) : ¬ Deletes question := by
  cases h <;> simp [Call.isDelete]

theorem not_deletes_of_isBundling {name marker : String} {inventory : Inventory}
    {recorded : Dict String} {question : Query}
    (h : IsBundling settings ns name marker inventory recorded question) : ¬ Deletes question := by
  cases h <;> simp [Call.isDelete]

theorem not_deletes_of_isImaging {request : Imaging.Request} {task : Imaging.Task}
    {machines : List String} {question : Query}
    (h : Imaging.IsImaging settings request task machines question) : ¬ Deletes question := by
  cases h with
  | list => simp [Call.isDelete]
  | handle h => cases h <;> simp [Call.isDelete]

variable {inv : Request → Prop}

theorem permitsSave_of_quiet (hT : AllowsQuiet T) (h : Permits T settings inv) :
    PermitsSave T settings inv where
  toPermits := h
  bundling _ _ _ _ _ _ _ _ _ hbundling := hT _ _ (not_deletes_of_isBundling hbundling)
  imaging _ _ _ _ _ _ _ _ _ himaging := hT _ _ (not_deletes_of_isImaging himaging)

theorem permitsRestore_of_quiet (hT : AllowsQuiet T) (h : Permits T settings inv) :
    PermitsRestore T settings inv where
  toPermits := h
  source _ _ _ := hT _ _ (by simp [Call.isDelete])
  loading _ _ _ _ _ _ hloading := hT _ _ (not_deletes_of_isLoading hloading)
  imaging _ _ _ _ _ _ _ _ _ himaging := hT _ _ (not_deletes_of_isImaging himaging)

/-- Past the empty state, a restore deletes nothing unless its copy is in the cleaning state. -/
theorem restorePhase_quiet (hstate : copy.state ≠ .cleaning) :
    Ensures (Terms.only (¬ Deletes ·)) (restorePhase settings ns bundle) copy ()
      fun _ _ _ => True := by
  have hpermits : Permits (Terms.only (¬ Deletes ·)) settings fun _ => True :=
    ⟨not_deletes_clock, fun _ _ => not_deletes_of_isListing, fun _ _ _ _ => trivial,
      fun _ _ => ⟨by simp [Terms.only, Call.isDelete], fun _ _ => trivial⟩⟩
  have hlives : Lives (fun _ => True) ns := ⟨{ metadata := { ns := some ns } }, trivial, rfl⟩
  exact (permitsRestore_of_quiet (fun _ _ hquiet => hquiet) hpermits).restorePhase trivial hlives
    ⟨"", trivial⟩ fun hcleaning => absurd hcleaning hstate

end Quiet

/-! ## What leads to a deletion

The mode of a restore is looked at when it leaves the empty state, and not after that. So two
things can bring a pass to the phase that deletes: the state, if it is the cleaning state already,
or the mode, if the pass begins. -/

/-- A pass over a request may come to the phase that deletes: the request is in the cleaning state
already, or it is a clean restore that begins. -/
def ComesToClean (given : Request) : Prop :=
  given.spec.mode.isRestore = true ∧ given.state = .cleaning ∨
    given.spec.mode = .cleanRestore ∧ given.state = .empty

/-- A pass may delete: it is told where, and from which bundle to restore, and comes to the phase. -/
structure MayDelete (given : Request) : Prop where
  placed : given.metadata.ns.isSome = true
  named : given.spec.fault? = none
  comes : ComesToClean given

/-- The terms on which a pass deletes only if it may. -/
abbrev deleting (given : Request) : Terms Query Query.Answer Unit :=
  heeding fun question => Deletes question → MayDelete given

theorem allowsQuiet_deleting (given : Request) : AllowsQuiet (deleting given) :=
  fun _ _ hquiet hdeletes => absurd hdeletes hquiet

/-- On these terms a pass writes any status, and what is stored is in the state that was written. -/
theorem permits_deleting (comes : Prop) :
    Permits (deleting given) settings fun copy => copy.state = .cleaning → comes where
  clock := by simp
  listing _ _ hlisting := allowsQuiet_deleting given () _ (not_deletes_of_isListing hlisting)
  status _ _ hcopy hstate hcleaning := by
    rcases hstate with hsame | hne
    · exact hcopy (hsame.symm.trans hcleaning)
    · exact absurd hcleaning hne
  write written hwritten := by
    refine ⟨by simp [Call.isDelete], fun stored hheeds hcleaning => hwritten ?_⟩
    rw [Request.state, Request.currentStatus, ← hheeds written stored rfl]
    exact hcleaning

/-- A clean restore or not, a pass deletes only if its copy comes to the cleaning state and it has
found its bundle. -/
theorem restorePass_deleting (hmode : given.spec.mode.isRestore = true) :
    Ensures (deleting given) (restorePass settings) given () fun _ copy _ =>
      copy.state = .cleaning → ComesToClean given := by
  have hgiven : given.state = .cleaning → ComesToClean given := fun hstate => .inl ⟨hmode, hstate⟩
  -- Without a namespace or a bundle to ask for, a pass ends before it asks for anything.
  cases hns : requestNamespace given with
  | error failure =>
    rw [ensures_restorePass, hns]
    exact hgiven
  | ok ns =>
    cases hfault : given.spec.fault? with
    | some fault =>
      rw [ensures_restorePass, hns]
      change Ensures (deleting given) (sourceBundle ns >>= restoreFrom settings ns) given () _
      rw [Activity.ensures_bind, sourceBundle, Activity.ensures_bind, Activity.ensures_get,
        Activity.then_ok]
      simp only [hfault]
      exact hgiven
    | none =>
      have hplaced := Option.isSome_iff_exists.2 ⟨ns, requestNamespace_eq_ok.1 hns⟩
      refine (permitsRestore_of_quiet (allowsQuiet_deleting given)
        (permits_deleting (ComesToClean given))).restorePass hgiven
        (fun hclean hempty _ _ => .inr ⟨hclean, hempty⟩) fun copy ns hcopy _ hstate => ?_
      exact (permits_deleting _).clean hcopy hstate fun _ _ _ _ =>
        ⟨hplaced, hfault, hcopy hstate⟩

/-- A pass deletes only if it may. -/
theorem reconcile_deleting (settings : Settings) (given : Request) :
    Ensures (deleting given) (reconcile settings) given () fun _ _ _ => True := by
  have hrestore (hmode : given.spec.mode.isRestore = true)
      (hpass : pass settings given.spec.mode = restorePass settings) :
      Ensures (deleting given) (reconcile settings) given () fun _ _ _ => True := by
    refine ((permits_deleting (ComesToClean given)).reconcile (fun hstate => .inl ⟨hmode, hstate⟩)
      ?_).mono fun _ _ _ _ => trivial
    rw [hpass]
    exact restorePass_deleting hmode
  cases hmode : given.spec.mode with
  | save =>
    have hpermits : Permits (deleting given) settings fun copy => copy.state = .cleaning → True :=
      permits_deleting True
    refine (hpermits.reconcile (fun _ => trivial) ?_).mono fun _ _ _ _ => trivial
    rw [hmode]
    exact (permitsSave_of_quiet (allowsQuiet_deleting given) hpermits).savePass given fun _ => trivial
  | restore => exact hrestore (by rw [hmode]; rfl) (by rw [hmode]; rfl)
  | cleanRestore => exact hrestore (by rw [hmode]; rfl) (by rw [hmode]; rfl)

/-! ## Something to delete

That a pass may delete is shown by a cluster in which it does: its bundle is found, and there is one
object. The terms keep a proposition as the state of the world, namely that something was deleted.
What a phase asks after that makes no difference any more. -/

/-- The only object that there is. -/
def leftover : ConfigMap where
  metadata := { name := some "leftover" }

/-- Answers under which every bundle is found, every status is stored, and there is one object to
delete. -/
def offer : (question : Query) → question.Answer
  | .clock => (default : Instant)
  | .call (.getBundle _ _) => (.ok (some {}) : Except Failure (Option Bundle))
  | .call (.listManaged _ _) => (.ok [] : Except Failure (List Resource))
  | .call (.listConfigMaps _ _) => (.ok [leftover] : Except Failure (List ConfigMap))
  | .call (.listSecrets _ _) => (.ok [] : Except Failure (List Secret))
  | .call (.deleteConfigMap _ _) => (.ok () : Except Failure Unit)
  | .call (.updateStatus written) => (.ok written : Except Failure Request)
  | .call c => (.error (.api "not served") : Except Failure c.Answer)

/-- Gives these answers, and remembers whether anything was deleted. -/
def offerNoting (question : Query) (deleted : Prop) : question.Answer × Prop :=
  (offer question, deleted ∨ Deletes question)

/-- These answers are given, and it is remembered whether anything was deleted. -/
inductive Offers (deleted : Prop) : Exchange → Prop → Prop
  | answer (question : Query) :
    Offers deleted ⟨question, offer question⟩ (deleted ∨ Deletes question)

/-- The terms on which these answers are given. -/
abbrev offering : Terms Query Query.Answer Prop where
  answers := Offers

theorem heeds_offer (question : Query) : Heeds ⟨question, offer question⟩ := by
  rintro written stored heq
  cases heq
  rfl

variable {deleted : Prop}

/-- What was deleted stays deleted, so nothing else has to be known of the rest. -/
theorem offering_kept {α : Type} (d : Dialogue Query Query.Answer α) (h : deleted) :
    d.Ensures offering deleted fun _ deleted => deleted := by
  induction d generalizing deleted with
  | finish result => exact h
  | ask question next ih =>
    refine ⟨trivial, ?_⟩
    rintro _ _ ⟨⟩
    exact ih _ (.inl h)

theorem collectKinds_offered (kinds : List ManagedKind) :
    Ensures offering (kinds.foldlM (Inventory.collectKind ns) .empty) copy deleted
      fun outcome copy' _ => outcome = .ok .empty ∧ copy' = copy := by
  induction kinds generalizing deleted with
  | nil => exact ⟨rfl, rfl⟩
  | cons kind kinds ih =>
    rw [List.foldlM_cons, Inventory.collectKind]
    refine Activity.ensures_bind.2 (Activity.ensures_bind.2 ⟨trivial, ?_⟩)
    rintro _ _ ⟨⟩
    exact ih

/-- The object is found and deleted. -/
theorem clean_offered :
    Ensures offering (clean settings ns) copy deleted fun _ _ deleted => deleted := by
  have hcollect : Ensures offering (collect settings ns) copy deleted fun outcome copy' _ =>
      outcome = .ok { configMaps := [leftover] } ∧ copy' = copy := by
    refine (collectKinds_offered ManagedKind.all).bind ?_ (by rintro _ _ _ ⟨⟨⟩, -⟩)
    rintro _ _ _ ⟨⟨⟩, rfl⟩
    refine Activity.ensures_call_bind.2 ⟨trivial, ?_⟩
    rintro _ _ ⟨⟩
    refine ⟨trivial, ?_⟩
    rintro _ _ ⟨⟩
    exact ⟨rfl, rfl⟩
  refine hcollect.bind ?_ (by rintro _ _ _ ⟨⟨⟩, -⟩)
  rintro _ copy _ ⟨⟨⟩, -⟩
  -- The list of config maps is not empty, so the first of them is deleted.
  refine ⟨trivial, ?_⟩
  rintro _ _ ⟨⟩
  exact offering_kept _ (.inr (by simp [Call.isDelete]))

theorem restorePhase_offered (hstate : copy.state = .cleaning) :
    Ensures offering (restorePhase settings ns bundle) copy deleted fun _ _ deleted => deleted := by
  refine ensures_restorePhase (fun _ => clean_offered) ?_ ?_ (fun h => absurd hstate h)
  · exact fun h => by rw [hstate] at h; cases h
  · exact fun h => by rw [hstate] at h; cases h

/-- A clean restore that begins is in the cleaning state after that. -/
theorem begin_offered (hempty : copy.state = .empty) (message : String) :
    Ensures offering (transition .cleaning message) copy deleted fun outcome copy' _ =>
      outcome = .ok () ∧ copy'.state = .cleaning := by
  refine ensures_transition.2 (ensures_writeStatus.2 ⟨trivial, ?_⟩)
  rintro now _ ⟨⟩
  rw [if_neg]
  · refine ⟨trivial, ?_⟩
    rintro _ _ ⟨⟩
    exact ⟨rfl, rfl⟩
  · intro hagrees
    have hsame : copy.state = .cleaning := (Request.Status.agrees_iff.1 hagrees).1
    rw [hempty] at hsame
    cases hsame

/-- Under these answers, a pass that may delete does. -/
theorem restorePass_offered (h : MayDelete given) :
    Ensures offering (restorePass settings) given deleted fun _ _ deleted => deleted := by
  obtain ⟨ns, hns⟩ := Option.isSome_iff_exists.1 h.placed
  rw [ensures_restorePass, requestNamespace_eq_ok.2 hns]
  change Ensures offering (sourceBundle ns >>= restoreFrom settings ns) given deleted _
  rw [Activity.ensures_bind, sourceBundle, Activity.ensures_bind, Activity.ensures_get,
    Activity.then_ok]
  simp only [h.named]
  refine Activity.ensures_bind.2 ⟨trivial, ?_⟩
  rintro _ _ ⟨⟩
  change Ensures offering (restoreFrom settings ns {}) given _ fun _ _ deleted => deleted
  refine ensures_restoreFrom.2 ?_
  rcases h.comes with ⟨-, hcleaning⟩ | ⟨hmode, hempty⟩
  · rw [if_neg (by rw [hcleaning]; decide)]
    exact restorePhase_offered hcleaning
  · rw [if_pos hempty, if_pos hmode]
    refine (begin_offered hempty _).bind ?_ (by rintro _ _ _ ⟨⟨⟩, -⟩)
    rintro _ copy _ ⟨-, hstate⟩
    exact restorePhase_offered hstate

theorem ComesToClean.isRestore (h : ComesToClean given) : given.spec.mode.isRestore = true := by
  rcases h with ⟨hmode, -⟩ | ⟨hmode, -⟩
  · exact hmode
  · rw [hmode]
    rfl

theorem ComesToClean.isOpen (h : ComesToClean given) : given.state.isTerminal = false := by
  rcases h with ⟨-, hstate⟩ | ⟨-, hstate⟩ <;> rw [hstate] <;> rfl

theorem reconcile_offered (h : MayDelete given) :
    Ensures offering (reconcile settings) given False fun _ _ deleted => deleted := by
  refine ensures_reconcile (fun hend => ?_) fun _ => ?_
  · rw [h.comes.isOpen] at hend
    cases hend
  · have hpass : pass settings given.spec.mode = restorePass settings := by
      have hmode := h.comes.isRestore
      cases hspec : given.spec.mode with
      | save => rw [hspec] at hmode; cases hmode
      | restore => rfl
      | cleanRestore => rfl
    rw [hpass]
    refine (restorePass_offered h).mono fun outcome copy deleted hdeleted => ?_
    cases outcome with
    | ok => exact hdeleted
    | error failure => exact ⟨fun _ => hdeleted, fun _ => offering_kept _ hdeleted⟩

/-- What was remembered in the end happened in the conversation. -/
theorem exists_deletes_of_path {transcript : List Exchange} {deleted deleted' : Prop}
    (h : Respondent.Path Offers deleted transcript deleted') (hdeleted : deleted') :
    deleted ∨ ∃ exchange ∈ transcript, Deletes exchange.1 := by
  induction h with
  | nil => exact .inl hdeleted
  | cons hexchange _ ih =>
    cases hexchange with
    | answer question =>
      rcases ih hdeleted with (hbefore | hnow) | ⟨exchange, hmem, hlater⟩
      · exact .inl hbefore
      · exact .inr ⟨_, List.mem_cons_self, hnow⟩
      · exact .inr ⟨exchange, by simp [hmem], hlater⟩

/-- Whatever the cluster has and whatever fails, as long as what is stored has the status that was
written: a pass can come to delete an object exactly if its request names a namespace and a bundle
to restore, and is a restore in the cleaning state, of either mode, or a clean restore that begins.
So a save deletes nothing, but a restore that is no clean one does if it was left in the cleaning
state. -/
theorem deletes_iff (settings : Settings) (given : Request) :
    (∃ transcript outcome, Yields (reconcile settings given) transcript outcome ∧
      (∀ exchange ∈ transcript, Heeds exchange) ∧ ∃ exchange ∈ transcript, Deletes exchange.1) ↔
    given.metadata.ns.isSome = true ∧ given.spec.fault? = none ∧
      (given.spec.mode.isRestore = true ∧ given.state = .cleaning ∨
        given.spec.mode = .cleanRestore ∧ given.state = .empty) := by
  constructor
  · intro hdeletion
    obtain ⟨transcript, outcome, hpass, hheeds, exchange, hmem, hdeletes⟩ := hdeletion
    obtain ⟨before, after, rfl⟩ := List.append_of_mem hmem
    have hbefore : (deleting given).answers.Path () before () :=
      Activity.path_hearing fun exchange hexchange => hheeds exchange (by simp [hexchange])
    have hmay := Dialogue.Ensures.asked (reconcile_deleting settings given) hpass hbefore hdeletes
    exact ⟨hmay.placed, hmay.named, hmay.comes⟩
  · intro hmay
    obtain ⟨hplaced, hnamed, hcomes⟩ := hmay
    -- The conversation with the cluster that has something to delete is one of those in question.
    have hpass := Dialogue.yields_transcript offerNoting (reconcile settings given) False
    have hpath := Dialogue.path_transcript (R := Offers) offerNoting
      (fun question _ => .answer question) (reconcile settings given) False
    refine ⟨_, _, hpass, ?_, ?_⟩
    · intro exchange hexchange
      obtain ⟨deleted, deleted', hoffers⟩ := hpath.exists_of_mem hexchange
      cases hoffers with
      | answer question => exact heeds_offer question
    · have hdeleted := (reconcile_offered ⟨hplaced, hnamed, hcomes⟩).ends hpass hpath
      exact (exists_deletes_of_path hpath hdeleted).resolve_left id

end NamespaceBackup.Saga
