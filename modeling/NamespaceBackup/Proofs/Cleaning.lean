import NamespaceBackup.Proofs.Deletions
import NamespaceBackup.Proofs.Gates
import NamespaceBackup.Proofs.Missing
import NamespaceBackup.Proofs.Sweeping

/-!
# What a cleaning pass deletes

A clean restore deletes what it has listed in the same pass, and it lists that only once its bundle
is found and the cleaning state is stored. From there on the pass is one sweep through the
inventory, followed by a report of how many objects were left. It goes on to load in a later pass at
the earliest, one that finds nothing.

## Main definitions

* `Saga.Clears`: the course of a pass that comes to sweep an inventory
* `Saga.Stays`: a pass that does not come so far
* `Saga.Cleans`: what a pass of a clean restore deletes

## Main results

* `Saga.clears_or_stays`: there are no other courses
* `Saga.cleans_of_yields`: what is deleted, when, and how much of it, whatever fails
-/

namespace NamespaceBackup

open Activity (Asks Ensures Gives)
open Dialogue (Yields)

/-! ## The end of a listing -/

namespace Inventory

variable {σ : Type} {s s' : σ} {ns selector : String} {trace : List Exchange}

/-- The secrets are listed. -/
def ListsSecrets (selector : String) (exchange : Exchange) : Prop :=
  ∃ ns secrets, exchange = ⟨.call (.listSecrets ns selector),
    (.ok secrets : Except Failure (List Secret))⟩

theorem collectKinds_asks (kinds : List ManagedKind) (resources : Dict (List Resource)) :
    Asks (fun question => ∃ kind, question = .call (.listManaged ns kind))
      (kinds.foldlM (collectKind ns) resources : Activity σ (Dict (List Resource))) :=
  .foldlM fun _ kind _ => .bind (.call ⟨kind, rfl⟩) fun _ => .pure _

/-- The secrets come last, so they are listed exactly if the collection succeeds. -/
theorem listsSecrets_iff {outcome : Except Failure Inventory}
    (h : Yields ((collect ns selector : Activity σ Inventory) s) trace (outcome, s')) :
    (∃ exchange ∈ trace, ListsSecrets selector exchange) ↔
      ∃ inventory, outcome = .ok inventory := by
  have hkinds : ∀ {first : List Exchange} {outcome : Except Failure (Dict (List Resource)) × σ},
      Yields ((ManagedKind.all.foldlM (collectKind ns) .empty :
        Activity σ (Dict (List Resource))) s) first outcome →
      ∀ exchange ∈ first, ¬ ListsSecrets selector exchange := by
    rintro first outcome hfirst exchange hmem ⟨_, _, rfl⟩
    obtain ⟨kind, heq⟩ := ((collectKinds_asks _ _).of_yields hfirst).2 _ hmem
    cases heq
  have hconfigMaps (answer : Except Failure (List ConfigMap)) :
      ¬ ListsSecrets selector ⟨.call (.listConfigMaps ns selector), answer⟩ := by
    rintro ⟨_, _, heq⟩
    cases heq
  have hrefused (failure : Failure) : ¬ ListsSecrets selector
      ⟨.call (.listSecrets ns selector), (.error failure : Except Failure (List Secret))⟩ := by
    rintro ⟨_, _, heq⟩
    cases heq
  have hunlisted {trace : List Exchange} {failure : Failure}
      (hnone : ∀ exchange ∈ trace, ¬ ListsSecrets selector exchange) :
      (∃ exchange ∈ trace, ListsSecrets selector exchange) ↔
        ∃ inventory, (.error failure : Except Failure Inventory) = .ok inventory :=
    iff_of_false (fun ⟨exchange, hmem, hlists⟩ => hnone exchange hmem hlists) nofun
  rcases Activity.yields_bind.1 h with
    ⟨first, _, resources, t, rfl, hfirst, hlists⟩ | ⟨failure, t, hfirst, heq⟩
  · obtain ⟨_, _, rfl, ⟨configMaps, rfl, hlast⟩ | ⟨failure, rfl, rfl, heq⟩⟩ :=
      Activity.yields_call_bind.1 hlists
    · obtain ⟨_, _, rfl, ⟨secrets, rfl, hend⟩ | ⟨failure, rfl, rfl, heq⟩⟩ :=
        Activity.yields_call_bind.1 hlast
      · obtain ⟨rfl, ⟨⟩⟩ := Activity.yields_pure.1 hend
        exact iff_of_true ⟨_, List.mem_append_right _ (List.mem_cons_of_mem _ List.mem_cons_self),
          ns, secrets, rfl⟩ ⟨_, rfl⟩
      · cases heq
        exact hunlisted (List.forall_mem_append.2 ⟨hkinds hfirst,
          List.forall_mem_cons.2 ⟨hconfigMaps _, List.forall_mem_singleton.2 (hrefused failure)⟩⟩)
    · cases heq
      exact hunlisted (List.forall_mem_append.2 ⟨hkinds hfirst,
        List.forall_mem_singleton.2 (hconfigMaps _)⟩)
  · cases heq
    exact hunlisted (hkinds hfirst)

end Inventory

namespace Saga

open Cluster (home troubled)
open Inventory (ListsSecrets Sweeps)

variable {settings : Settings} {given copy : Request} {ns : String} {bundle : Bundle}
  {work transcript start listing clearing ending : List Exchange} {inventory : Inventory}

/-! ## The course of a pass -/

/-- What a pass asks before it lists anything: it finds its bundle and stores the cleaning state. -/
inductive Prepares : Exchange → Prop
  | clock (now : Instant) : Prepares ⟨.clock, now⟩
  | find (ns name : String) (answer : Except Failure (Option Bundle)) :
    Prepares ⟨.call (.getBundle ns name), answer⟩
  | begin {written : Request} (stored : Request) (h : written.state = .cleaning) :
    Prepares ⟨.call (.updateStatus written), (.ok stored : Except Failure Request)⟩

/-- What a pass asks after the deletions: it notes in its status what is left, and loads nothing as
long as something was listed. -/
inductive Notes (inventory : Inventory) : Exchange → Prop
  | clock (now : Instant) : Notes inventory ⟨.clock, now⟩
  | write {written : Request} (answer : Except Failure Request)
    (h : written.state = .loading → inventory.isEmpty = true) :
    Notes inventory ⟨.call (.updateStatus written), answer⟩

/-- The course of a pass that comes to sweep an inventory: it prepares for that, lists the
inventory, deletes it and notes what is left. -/
structure Clears (settings : Settings) (given copy : Request) (inventory : Inventory)
    (start listing clearing ending : List Exchange) : Prop where
  found : ∃ bundle, Found given (home given) bundle start
  inHand : InHand given start copy
  state_eq : copy.state = .cleaning
  prepares : ∀ exchange ∈ start, Prepares exchange
  listed : Gives (collect settings (home given)) copy listing inventory
  swept : ∃ outcome, Sweeps (inventory.deletions (home given)) clearing outcome
  notes : ∀ exchange ∈ ending, Notes inventory exchange

/-- A pass that does not come so far deletes nothing. If it should have, it has not listed
everything. -/
structure Stays (settings : Settings) (given : Request) (transcript : List Exchange) : Prop where
  spares : ∀ exchange ∈ transcript, ¬ Deletes exchange.1
  unlisted : given.state = .empty ∨ given.state = .cleaning →
    ∀ exchange ∈ transcript, ¬ ListsSecrets settings.managedSelector exchange

/-- A pass takes one of the two courses. -/
def ClearsOrStays (settings : Settings) (given : Request) (transcript : List Exchange) : Prop :=
  (∃ copy inventory start listing clearing ending,
    transcript = start ++ listing ++ clearing ++ ending ∧
      Clears settings given copy inventory start listing clearing ending) ∨
  Stays settings given transcript

theorem not_listsSecrets_of_ne {selector : String} {exchange : Exchange}
    (h : ∀ ns, exchange.1 ≠ .call (.listSecrets ns selector)) :
    ¬ ListsSecrets selector exchange := by
  rintro ⟨ns, _, rfl⟩
  exact h ns rfl

theorem Stays.append {rest : List Exchange} (h : Stays settings given transcript)
    (h' : Stays settings given rest) : Stays settings given (transcript ++ rest) where
  spares := List.forall_mem_append.2 ⟨h.spares, h'.spares⟩
  unlisted hstate := List.forall_mem_append.2 ⟨h.unlisted hstate, h'.unlisted hstate⟩

theorem Stays.nil : Stays settings given [] := ⟨by simp, by simp⟩

/-- To ask for a bundle, and to write a status, is not to come so far. -/
theorem Stays.of_asked (h : ∀ exchange ∈ transcript, exchange.1 = .clock ∨
      (∃ ns name, exchange.1 = .call (.getBundle ns name)) ∨
      ∃ written, exchange.1 = .call (.updateStatus written)) : Stays settings given transcript where
  spares exchange hmem := by
    rcases h exchange hmem with heq | ⟨_, _, heq⟩ | ⟨_, heq⟩ <;> rw [heq] <;> simp [Call.isDelete]
  unlisted _ exchange hmem := by
    refine not_listsSecrets_of_ne fun ns hlists => ?_
    rcases h exchange hmem with heq | ⟨_, _, heq⟩ | ⟨_, heq⟩ <;> cases heq.symm.trans hlists

theorem Stays.of_posts {status : Request.Status} {message : String} {request : Request}
    {trace : List Exchange} {result : Except Failure Unit × Request}
    (h : Posts status message request trace result) : Stays settings given trace :=
  .of_asked fun _ hmem => (h.asked hmem).imp_right fun ⟨written, heq, _⟩ => .inr ⟨written, heq⟩

theorem Posts.notes {status : Request.Status} {message : String} {request : Request}
    {trace : List Exchange} {result : Except Failure Unit × Request}
    (h : Posts status message request trace result)
    (hstate : status.state = .loading → inventory.isEmpty = true) :
    ∀ exchange ∈ trace, Notes inventory exchange := by
  rintro ⟨question, answer⟩ hmem
  rcases h.asked hmem with heq | ⟨written, heq, hwritten⟩
  · obtain rfl : question = _ := heq
    exact .clock _
  · obtain rfl : question = _ := heq
    exact .write _ fun hloading => hstate (hwritten.symm.trans hloading)

/-! ### The cleaning phase -/

/-- The cleaning phase sweeps what it has listed, unless it cannot list it. -/
theorem clean_sweeps {result : Except Failure Unit × Request}
    (h : Yields (clean settings ns copy) work result) :
    (∃ listing clearing ending inventory, work = listing ++ clearing ++ ending ∧
      Gives (collect settings ns) copy listing inventory ∧
      (∃ outcome, Sweeps (inventory.deletions ns) clearing outcome) ∧
      ∀ exchange ∈ ending, Notes inventory exchange) ∨
    Stays settings given work := by
  rw [clean] at h
  rcases Activity.yields_bind.1 h with
    ⟨listing, rest, inventory, copy', rfl, hcollect, hrest⟩ | ⟨failure, copy', hcollect, rfl⟩
  · obtain ⟨rfl, -⟩ := (Inventory.collect_asks ns settings.managedSelector).of_yields hcollect
    have hkinds : inventory.KnowsKinds := Ensures.ends
      (Inventory.collect_knowsKinds (T := Terms.only fun _ => True) fun _ _ _ => trivial) hcollect
      (Activity.path_only _ _) inventory rfl
    refine .inl ?_
    rcases Activity.yields_bind.1 hrest with
      ⟨clearing, ending, cleared, copy, rfl, hclear, hending⟩ | ⟨failure, copy, hclear, rfl⟩
    · obtain ⟨rfl, swept, hsweeps, hswept⟩ := Inventory.clear_sweeping hkinds _ _ _ _ hclear
      refine ⟨listing, clearing, ending, inventory, by simp, hcollect, ⟨swept, hsweeps⟩, ?_⟩
      cases cleared with
      | true =>
        -- Only an empty inventory counts as cleared.
        have hempty : inventory.isEmpty = true := by
          cases swept with
          | error => cases hswept
          | ok => exact (Except.ok.inj hswept).symm
        rw [if_pos rfl] at hending
        exact (posts_transition hending).notes fun _ => hempty
      | false =>
        rw [if_neg Bool.false_ne_true] at hending
        exact (posts_transition hending).notes nofun
    · obtain ⟨-, swept, hsweeps, -⟩ := Inventory.clear_sweeping hkinds _ _ _ _ hclear
      exact ⟨listing, rest, [], inventory, by simp, hcollect, ⟨swept, hsweeps⟩, by simp⟩
  · obtain ⟨-, hasked⟩ := (Inventory.collect_asks ns settings.managedSelector).of_yields hcollect
    refine .inr ⟨fun exchange hmem => not_deletes_of_isListing (hasked exchange hmem), ?_⟩
    intro _ exchange hmem hlists
    obtain ⟨_, heq⟩ := (Inventory.listsSecrets_iff hcollect).1 ⟨exchange, hmem, hlists⟩
    cases heq

/-! ### Whole passes -/

/-- A bundle is found under the name that the request gives. -/
theorem found_of_gives (hmode : given.spec.mode.isRestore = true)
    (hns : requestNamespace given = .ok ns) (h : Gives (sourceBundle ns) given start bundle) :
    Found given ns bundle start ∧
      ∃ name answer, start = [⟨.call (.getBundle ns name), answer⟩] := by
  rw [Gives, sourceBundle, Activity.yields_get_bind] at h
  dsimp only at h
  cases hfault : given.spec.fault? with
  | some fault =>
    rw [hfault] at h
    obtain ⟨-, ⟨⟩⟩ := Activity.yields_throw.1 h
  | none =>
    rw [hfault] at h
    obtain ⟨answer, rest, rfl, ⟨found, rfl, hfound⟩ | ⟨failure, rfl, rfl, ⟨⟩⟩⟩ :=
      Activity.yields_call_bind.1 h
    cases found with
    | none =>
      obtain ⟨-, ⟨⟩⟩ := Activity.yields_throw.1 hfound
    | some bundle' =>
      obtain ⟨rfl, ⟨⟩⟩ := Activity.yields_pure.1 hfound
      exact ⟨⟨hmode, hns, hfault, List.mem_singleton_self _⟩, _, _, rfl⟩

/-- From the cleaning state on. -/
theorem restorePhase_clears {result : Except Failure Unit × Request}
    (hfound : Found given (home given) bundle start) (hcopy : InHand given start copy)
    (hstate : copy.state = .cleaning) (hprepares : ∀ exchange ∈ start, Prepares exchange)
    (hstays : Stays settings given start)
    (h : Yields (restorePhase settings (home given) bundle copy) work result) :
    ClearsOrStays settings given (start ++ work) := by
  rw [restorePhase, Activity.yields_get_bind] at h
  simp only [hstate] at h
  rcases clean_sweeps h with
    ⟨listing, clearing, ending, inventory, rfl, hlisted, hswept, hnotes⟩ | hwork
  · exact .inl ⟨copy, inventory, start, listing, clearing, ending, by simp, ⟨bundle, hfound⟩, hcopy,
      hstate, hprepares, hlisted, hswept, hnotes⟩
  · exact .inr (hstays.append hwork)

/-- To go to another state takes a write that is stored. -/
theorem stored_of_transition {state : State} {message : String} {outcome : Unit}
    (hstate : given.state ≠ state)
    (h : Yields (transition state message given) work (.ok outcome, copy)) :
    ∃ now, work = [⟨.clock, now⟩, ⟨.call (.updateStatus
      (posted given { given.currentStatus with state } message now)),
        (.ok copy : Except Failure Request)⟩] := by
  have hposts := posts_transition h
  generalize hresult : ((.ok outcome : Except Failure Unit), copy) = result at hposts
  cases hposts with
  | needless hagrees => exact absurd (Request.Status.agrees_iff.1 hagrees).1 hstate
  | refused => cases hresult
  | stored =>
    cases hresult
    exact ⟨_, rfl⟩

/-- A pass that has found its bundle. -/
theorem restoreFrom_clears {result : Except Failure Unit × Request}
    (hmode : given.spec.mode = .cleanRestore)
    (hfound : Found given (home given) bundle start)
    (hstart : ∃ name answer, start = [⟨.call (.getBundle (home given) name), answer⟩])
    (hheeds : ∀ exchange ∈ work, Heeds exchange)
    (h : Yields (restoreFrom settings (home given) bundle given) work result) :
    ClearsOrStays settings given (start ++ work) := by
  obtain ⟨name, answer, rfl⟩ := hstart
  let finding : Exchange := ⟨.call (.getBundle (home given) name), answer⟩
  have hcopy : InHand given ([] ++ [finding]) given := .other .given (by simp [finding])
  have hprepares : ∀ exchange ∈ [finding], Prepares exchange :=
    List.forall_mem_singleton.2 (.find (home given) name answer)
  have hstays : Stays settings given [finding] :=
    .of_asked (List.forall_mem_singleton.2 (.inr (.inl ⟨home given, name, rfl⟩)))
  rw [restoreFrom, Activity.yields_get_bind] at h
  by_cases hempty : given.state = .empty
  · rw [if_pos hempty, if_pos hmode] at h
    change Yields ((transition .cleaning "Removing managed objects" >>= fun _ =>
      restorePhase settings (home given) bundle) given) work result at h
    rcases Activity.yields_bind.1 h with
      ⟨begin, rest, _, copy, rfl, hbegin, hrest⟩ | ⟨failure, copy, hbegin, rfl⟩
    · have hpassed := hstays.append (.of_posts (posts_transition hbegin))
      obtain ⟨now, rfl⟩ := stored_of_transition (by rw [hempty]; decide) hbegin
      rw [← List.append_assoc]
      refine restorePhase_clears (hfound.mono (List.prefix_append _ _))
        (InHand.stored (.other hcopy (by simp))) ?_ ?_ hpassed hrest
      · have hwrite := hheeds _
          (List.mem_append_left _ (List.mem_cons_of_mem _ List.mem_cons_self)) _ _ rfl
        rw [Request.state, Request.currentStatus, hwrite]
        rfl
      · exact List.forall_mem_append.2 ⟨hprepares, List.forall_mem_cons.2 ⟨.clock now,
          List.forall_mem_singleton.2 (.begin copy rfl)⟩⟩
    · exact .inr (hstays.append (.of_posts (posts_transition hbegin)))
  · rw [if_neg hempty] at h
    change Yields (restorePhase settings (home given) bundle given) work result at h
    by_cases hstate : given.state = .cleaning
    · exact restorePhase_clears hfound hcopy hstate hprepares hstays h
    · refine .inr (hstays.append ⟨?_, fun hto => absurd hto (by simp [hempty, hstate])⟩)
      exact Ensures.questions (restorePhase_quiet hstate) h

theorem restorePass_clears {result : Except Failure Unit × Request}
    (hmode : given.spec.mode = .cleanRestore) (hheeds : ∀ exchange ∈ work, Heeds exchange)
    (h : Yields (restorePass settings given) work result) :
    ClearsOrStays settings given work := by
  rw [restorePass, Activity.yields_get_bind] at h
  cases hns : requestNamespace given with
  | error failure =>
    rw [hns] at h
    obtain ⟨rfl, -⟩ := Activity.yields_throw.1 h
    exact .inr .nil
  | ok ns =>
    obtain rfl := home_of_requestNamespace hns
    rw [hns] at h
    change Yields ((sourceBundle (home given) >>= restoreFrom settings (home given)) given) work
      result at h
    rcases Activity.yields_bind.1 h with
      ⟨start, rest, bundle, copy, rfl, hfind, hrest⟩ | ⟨failure, copy, hfind, rfl⟩
    · obtain ⟨rfl, -⟩ := (sourceBundle_asks _).of_yields hfind
      obtain ⟨hfound, hstart⟩ := found_of_gives (by rw [hmode]; rfl) hns hfind
      exact restoreFrom_clears hmode hfound hstart
        (fun exchange hmem => hheeds exchange (List.mem_append_right _ hmem)) hrest
    · obtain ⟨-, hasked⟩ := (sourceBundle_asks _).of_yields hfind
      refine .inr (.of_asked fun exchange hmem => .inr (.inl ?_))
      obtain ⟨name, heq⟩ := hasked exchange hmem
      exact ⟨_, name, heq⟩

theorem ClearsOrStays.append {rest : List Exchange} (h : ClearsOrStays settings given transcript)
    (hstays : Stays settings given rest) (hnotes : ∀ inventory, ∀ exchange ∈ rest,
      Notes inventory exchange) : ClearsOrStays settings given (transcript ++ rest) := by
  rcases h with ⟨copy, inventory, start, listing, clearing, ending, rfl, hclears⟩ | h
  · exact .inl ⟨copy, inventory, start, listing, clearing, ending ++ rest, by simp, { hclears with
      notes := List.forall_mem_append.2 ⟨hclears.notes, hnotes inventory⟩ }⟩
  · exact .inr (h.append hstays)

/-- A pass of a clean restore sweeps an inventory, or it does not come so far. -/
theorem clears_or_stays {outcome : Except Failure Action × Request}
    (hmode : given.spec.mode = .cleanRestore)
    (hheeds : ∀ exchange ∈ transcript, Heeds exchange)
    (hpass : Yields (reconcile settings given) transcript outcome) :
    ClearsOrStays settings given transcript := by
  have hwork {work : List Exchange} {result : Except Failure Unit × Request}
      (hsub : work ⊆ transcript) (h : Yields (pass settings given.spec.mode given) work result) :
      ClearsOrStays settings given work := by
    rw [hmode] at h
    exact restorePass_clears hmode (fun exchange hmem => hheeds exchange (hsub hmem)) h
  have hcourse := course_of_yields hpass
  cases hcourse with
  | idle => exact .inr .nil
  | worked _ h => exact hwork (fun _ hmem => hmem) h
  | retried _ h => exact hwork (fun _ hmem => hmem) h
  | failed _ h _ hending =>
    -- What comes after the work writes the error state.
    refine (hwork (List.subset_append_left _ _) h).append (.of_posts hending) fun inventory => ?_
    exact hending.notes fun hstate =>
      absurd hstate (Grounds.errorState_ne _ (by decide) (by decide))

/-! ## What is deleted -/

section Swept

variable {w u v : Cluster} {before after rest : List Exchange} {exchange : Exchange}

/-- What is stored in trouble has the status that was written. -/
theorem heeds_troubled (h : troubled ns u exchange v) : Heeds exchange := by
  rintro written stored rfl
  obtain ⟨cluster, -, hserves⟩ := h
  have hwrite : cluster.writeStatus written = (.ok stored, v) :=
    hserves.performed_of_ok (by simp)
  rw [Cluster.writeStatus] at hwrite
  dsimp only at hwrite
  split at hwrite
  · cases hwrite
  · split at hwrite
    · cases hwrite
    · obtain ⟨hstored, -⟩ := Prod.mk.inj hwrite
      rw [← Except.ok.inj hstored]

/-- As long as no write fails, the copy in hand is what is stored. -/
theorem InHand.stored_eq (h : InHand given start copy) (hgiven : w.stored given = some given)
    (hpath : (troubled (home given)).Path w start v)
    (hwritten : ∀ written failure, ⟨.call (.updateStatus written),
      (.error failure : Except Failure Request)⟩ ∉ start) : v.stored given = some copy := by
  induction h generalizing v with
  | given =>
    obtain rfl := Respondent.path_nil.1 hpath
    exact hgiven
  | other _ hother ih =>
    obtain ⟨u, hjournal, hexchange⟩ := Respondent.path_concat.1 hpath
    rw [stored_troubled hexchange hother]
    exact ih hjournal fun written failure hmem =>
      hwritten written failure (List.mem_append_left _ hmem)
  | refused _ failure =>
    exact absurd (List.mem_append_right _ List.mem_cons_self) (hwritten _ failure)
  | stored hcopy ih =>
    obtain ⟨u, hjournal, hexchange⟩ := Respondent.path_concat.1 hpath
    have hcurrent := ih hjournal fun written failure hmem =>
      hwritten written failure (List.mem_append_left _ hmem)
    obtain ⟨old, htracks⟩ := hcopy.tracks hgiven hjournal
    obtain rfl := Option.some.inj (htracks.stored.symm.trans hcurrent)
    obtain ⟨new, hnew, hstores⟩ := htracks.stores hexchange
    cases hstores with
    | changed _ hanswer =>
      rw [hnew, Except.ok.inj (hanswer.resolve_right nofun)]

/-- What only the middle of a list has is found in the middle. -/
theorem exists_in_middle {α : Type} {P : α → Prop} {first middle last left right : List α} {x : α}
    (heq : first ++ middle ++ last = left ++ x :: right) (hx : P x) (hfirst : ∀ y ∈ first, ¬ P y)
    (hlast : ∀ y ∈ last, ¬ P y) : ∃ up, left = first ++ up ∧ ∃ down, middle = up ++ x :: down := by
  have hup : ∃ up, left = first ++ up := by
    rw [List.append_assoc] at heq
    rcases List.append_eq_append_iff.1 heq with ⟨up, hleft, -⟩ | ⟨_ | ⟨y, rest⟩, rfl, hrest⟩
    · exact ⟨up, hleft⟩
    · exact ⟨[], by rw [List.append_nil, List.append_nil]⟩
    · obtain ⟨rfl, -⟩ := List.cons.inj hrest
      exact absurd hx (hfirst x (by simp))
  obtain ⟨up, rfl⟩ := hup
  rw [List.append_assoc, List.append_assoc, List.append_cancel_left_eq] at heq
  refine ⟨up, rfl, ?_⟩
  rcases List.append_eq_append_iff.1 heq with ⟨rest, -, rfl⟩ | ⟨_ | ⟨y, down⟩, hmiddle, hrest⟩
  · exact absurd hx (hlast x (by simp))
  · obtain rfl : x :: right = last := hrest
    exact absurd hx (hlast x List.mem_cons_self)
  · obtain ⟨rfl, -⟩ := List.cons.inj hrest
    exact ⟨down, hmiddle⟩

theorem Prepares.not_deletes (h : Prepares exchange) : ¬ Deletes exchange.1 := by
  cases h <;> simp [Call.isDelete]

theorem Prepares.part?_ne (h : Prepares exchange) : exchange.1.part? ≠ some .content := by
  cases h <;> simp [Query.part?, Call.part?]

theorem Notes.not_deletes (h : Notes inventory exchange) : ¬ Deletes exchange.1 := by
  cases h <;> simp [Call.isDelete]

namespace Clears

variable (h : Clears settings given copy inventory start listing clearing ending)
include h

theorem isListing : ∀ exchange ∈ listing,
    Inventory.IsListing (home given) settings.managedSelector exchange.1 :=
  (Inventory.collect_asks (home given) settings.managedSelector).of_gives h.listed

/-- What is listed is what the namespace held when the pass began. -/
theorem inventory_eq (hpath : (troubled (home given)).Path w (start ++ listing ++ rest) v) :
    inventory = (w.space (home given)).inventory settings.managedSelector := by
  obtain ⟨u, hlisted, -⟩ := Respondent.path_append.1 hpath
  obtain ⟨t, hstart, hlisting⟩ := Respondent.path_append.1 hlisted
  obtain ⟨rfl, -⟩ := Cluster.collected h.listed hlisting
  exact (Cluster.agree_path hstart fun exchange hmem =>
    (h.prepares exchange hmem).part?_ne).inventory_eq _

theorem not_deletes_first : ∀ exchange ∈ start ++ listing, ¬ Deletes exchange.1 :=
  List.forall_mem_append.2 ⟨fun exchange hmem => (h.prepares exchange hmem).not_deletes,
    fun exchange hmem => not_deletes_of_isListing (h.isListing exchange hmem)⟩

theorem not_deletes_last : ∀ exchange ∈ ending, ¬ Deletes exchange.1 :=
  fun exchange hmem => (h.notes exchange hmem).not_deletes

/-- All that is deleted is deleted by the sweep. -/
theorem deleted_eq : deleted (start ++ listing ++ clearing ++ ending) = deleted clearing := by
  rw [deleted_append, deleted_append, deleted_eq_nil.2 h.not_deletes_first,
    deleted_eq_nil.2 h.not_deletes_last, List.nil_append, List.append_nil]

theorem isDelete_clearing : ∀ exchange ∈ clearing, ∃ c : Call,
    exchange.1 = .call c ∧ c.isDelete = true := by
  obtain ⟨_, hsweeps⟩ := h.swept
  intro exchange hmem
  obtain ⟨c, hc, heq⟩ := hsweeps.asked exchange hmem
  exact ⟨c, heq, Inventory.isDelete_of_mem_deletions hc⟩

/-- What is deleted comes first of what there is to delete. -/
theorem deleted_prefix : deleted clearing <+: inventory.deletions (home given) := by
  obtain ⟨_, hsweeps⟩ := h.swept
  exact hsweeps.deleted_prefix fun _ => Inventory.isDelete_of_mem_deletions

/-- Unless a deletion fails in a way that is not passed over, everything is deleted. -/
theorem deleted_complete (hpassed : ∀ exchange ∈ clearing, ¬ Spoils exchange) :
    deleted clearing = inventory.deletions (home given) := by
  obtain ⟨_, hsweeps⟩ := h.swept
  rcases hsweeps.complete fun _ => Inventory.isDelete_of_mem_deletions with
    ⟨-, hall⟩ | ⟨_, _, -, hmem, hspoils⟩
  · exact hall
  · exact absurd hspoils (hpassed _ hmem)

/-- At every deletion of a pass that was given what is stored, the cleaning state is stored. -/
theorem stored_of_cut (hgiven : w.stored given = some given) (hsub : before ⊆ clearing)
    (hpath : (troubled (home given)).Path w (start ++ listing ++ before) v) :
    v.stored given = some copy := by
  -- Neither the listing nor the deletions write a status, and the write before them succeeded.
  have hlisting : ∀ exchange ∈ listing, ∀ written, exchange.1 ≠ .call (.updateStatus written) := by
    intro exchange hmem written heq
    have hquestion := h.isListing exchange hmem
    rw [heq] at hquestion
    cases hquestion
  have hbefore : ∀ exchange ∈ before, ∀ written, exchange.1 ≠ .call (.updateStatus written) := by
    intro exchange hmem written heq
    obtain ⟨c, hc, hdelete⟩ := h.isDelete_clearing exchange (hsub hmem)
    obtain rfl := Query.call.inj (hc.symm.trans heq)
    cases hdelete
  refine ((h.inHand.append hlisting).append hbefore).stored_eq hgiven hpath ?_
  intro written failure hmem
  rcases List.mem_append.1 hmem with hmem | hmem
  · rcases List.mem_append.1 hmem with hmem | hmem
    · cases h.prepares _ hmem
    · exact hlisting _ hmem written rfl
  · exact hbefore _ hmem written rfl

/-- Nothing is loaded after something was listed. -/
theorem ne_loading (hleft : ¬ inventory.isEmpty = true) {written : Request}
    {answer : Except Failure Request}
    (hmem : ⟨.call (.updateStatus written), answer⟩ ∈ start ++ listing ++ clearing ++ ending) :
    written.state ≠ .loading := by
  intro hloading
  rcases List.mem_append.1 hmem with hmem | hmem
  · rcases List.mem_append.1 hmem with hmem | hmem
    · rcases List.mem_append.1 hmem with hmem | hmem
      · cases h.prepares _ hmem with
        | begin _ hcleaning => cases hcleaning.symm.trans hloading
      · cases h.isListing _ hmem
    · obtain ⟨c, hc, hdelete⟩ := h.isDelete_clearing _ hmem
      obtain rfl := Query.call.inj hc
      cases hdelete
  · cases h.notes _ hmem with
    | write _ hempty => exact hleft (hempty hloading)

end Clears

/-- What must be the case when something is deleted: the request names its bundle, which the pass
has found; the request is stored in the cleaning state; and the pass has listed what the namespace
holds. -/
structure Prepared (settings : Settings) (given : Request) (w : Cluster)
    (before : List Exchange) : Prop where
  found : ∃ source bundle, given.spec.restoreSource = some source ∧ source ≠ "" ∧
    ⟨.call (.getBundle (home given) source),
      (.ok (some bundle) : Except Failure (Option Bundle))⟩ ∈ before
  stored : ∀ v, (troubled (home given)).Path w before v →
    ∃ stored, v.stored given = some stored ∧ stored.state = .cleaning
  listed : ∃ start listing rest copy, before = start ++ listing ++ rest ∧
    Gives (collect settings (home given)) copy listing
      ((w.space (home given)).inventory settings.managedSelector)

/-- What a pass of a clean restore deletes. -/
structure Cleans (settings : Settings) (given : Request) (w : Cluster)
    (transcript : List Exchange) (outcome : Except Failure Action × Request) : Prop where
  /-- Nothing is deleted before all checks are passed. -/
  prepared : ∀ before exchange after, transcript = before ++ exchange :: after →
    Deletes exchange.1 → Prepared settings given w before
  /-- What is deleted is what was listed, in order and each object once, or the first part of it. -/
  bounded : deleted transcript <+:
    ((w.space (home given)).inventory settings.managedSelector).deletions (home given)
  once : (w.space (home given)).Named → (deleted transcript).Nodup
  /-- Once it is listed, all of it is deleted, unless a deletion fails otherwise than because of a
  missing object or a conflict. -/
  complete : given.state = .empty ∨ given.state = .cleaning →
    (∃ start listing rest copy inventory, transcript = start ++ listing ++ rest ∧
      Gives (collect settings (home given)) copy listing inventory) →
    (∀ exchange ∈ transcript, ¬ Spoils exchange) → deleted transcript =
      ((w.space (home given)).inventory settings.managedSelector).deletions (home given)
  /-- A pass that deletes does not go on to load. -/
  waits : deleted transcript ≠ [] → ∀ (written : Request) (answer : Except Failure Request),
    ⟨.call (.updateStatus written), answer⟩ ∈ transcript → written.state ≠ .loading
  /-- Every object that is listed is of a known kind. -/
  known : ∀ kindName, outcome.1 = .error (.invalidState ("unknown managed kind " ++ kindName)) →
    ∃ c : Call, ⟨.call c, (.error (.invalidState ("unknown managed kind " ++ kindName)) :
      Except Failure c.Answer)⟩ ∈ transcript

theorem exists_source (hmode : given.spec.mode.isRestore = true)
    (hnamed : given.spec.fault? = none) :
    ∃ source, given.spec.restoreSource = some source ∧ source ≠ "" := by
  rw [Request.Spec.fault?, hmode] at hnamed
  cases hsource : given.spec.restoreSource with
  | none => simp [hsource] at hnamed
  | some source => exact ⟨source, rfl, by simpa [hsource] using hnamed⟩

/-- Whatever the namespace holds and whatever fails: before a pass of a clean restore deletes
anything, it has found the bundle that its request names, the request is stored in the cleaning
state, and the namespace has been listed. What is deleted then is exactly what was listed, each
object once and in order, unless a deletion fails otherwise than because of a missing object or a
conflict, which ends the sweep. Such a pass does not go on to load, and that a kind is not known is
no reason for a pass to fail. -/
theorem cleans_of_yields {outcome : Except Failure Action × Request}
    (hmode : given.spec.mode = .cleanRestore) (hgiven : w.stored given = some given)
    (hpass : Yields (reconcile settings given) transcript outcome)
    (hpath : (troubled (home given)).Path w transcript v) :
    Cleans settings given w transcript outcome := by
  have hheeds : ∀ exchange ∈ transcript, Heeds exchange := fun exchange hmem => by
    obtain ⟨_, _, hexchange⟩ := hpath.exists_of_mem hmem
    exact heeds_troubled hexchange
  have hrestore : given.spec.mode.isRestore = true := by
    rw [hmode]
    rfl
  have hknown := reconcile_knows_kinds hrestore hpass
  rcases clears_or_stays hmode hheeds hpass with
    ⟨copy, inventory, start, listing, clearing, ending, rfl, hclears⟩ | hstays
  · have hpath' := hpath
    rw [List.append_assoc] at hpath'
    obtain rfl := hclears.inventory_eq hpath'
    have hbounded : deleted (start ++ listing ++ clearing ++ ending) <+: _ :=
      hclears.deleted_eq ▸ hclears.deleted_prefix
    refine ⟨?_, hbounded, fun hspace => ?_, fun _ _ hpassed => ?_, fun hdeleted => ?_, hknown⟩
    · intro before exchange after heq hdeletes
      obtain ⟨first, rfl, rest, hclearing⟩ := exists_in_middle
        (P := fun e : Exchange => Deletes e.1) heq hdeletes hclears.not_deletes_first
        hclears.not_deletes_last
      obtain ⟨bundle, hfound⟩ := hclears.found
      obtain ⟨source, hsource, hname⟩ := exists_source hfound.restores hfound.named
      refine ⟨⟨source, bundle, hsource, hname, ?_⟩, fun v hbefore => ?_, ?_⟩
      · have hmem := hfound.mem
        rw [hsource] at hmem
        exact List.mem_append_left _ (List.mem_append_left _ hmem)
      · refine ⟨copy, hclears.stored_of_cut hgiven ?_ hbefore, hclears.state_eq⟩
        rw [hclearing]
        exact List.subset_append_left _ _
      · exact ⟨start, listing, first, copy, rfl, hclears.listed⟩
    · exact hspace.nodup_deletions.sublist hbounded.sublist
    · rw [hclears.deleted_eq]
      exact hclears.deleted_complete fun exchange hmem =>
        hpassed exchange (by simp [hmem])
    · intro written answer hmem
      refine hclears.ne_loading (fun hempty => hdeleted ?_) hmem
      rw [Inventory.deletions_of_isEmpty hempty] at hbounded
      exact List.prefix_nil.1 hbounded
  · have hnone : deleted transcript = [] := deleted_eq_nil.2 hstays.spares
    refine ⟨?_, hnone ▸ List.nil_prefix, fun _ => hnone ▸ List.nodup_nil, ?_,
      fun hdeleted => absurd hnone hdeleted, hknown⟩
    · rintro before exchange after rfl hdeletes
      exact absurd hdeletes (hstays.spares exchange (by simp))
    · rintro hstate ⟨start, listing, rest, copy, inventory, rfl, hlisted⟩ -
      -- A collection that succeeds lists the secrets.
      obtain ⟨exchange, hmem, hlists⟩ := (Inventory.listsSecrets_iff hlisted).2 ⟨inventory, rfl⟩
      exact absurd hlists (hstays.unlisted hstate exchange (by simp [hmem]))

end Swept

/-! ### A namespace that is cleaned -/

/-- A clean restore that begins. -/
def cleanup : Request where
  metadata := { name := some "cleanup", ns := some "cloud" }
  spec := { mode := .cleanRestore, restoreSource := some "nightly-7" }

/-- A config map, with or without the label of what is managed. -/
def configMapOf (name : String) (labels : Option (Dict String)) : ConfigMap where
  metadata := { name := some name, labels }

/-- A cluster with a bundle, a network and two config maps, one of which is managed. -/
def untidyCluster : Cluster :=
  ⟨.ofList [("cloud",
    { managed := .ofList [(ManagedKind.network.name, .ofList [("ctlplane", restingNetwork)])]
      configMaps := .ofList [
        ("tarball", configMapOf "tarball"
          (some (.ofList [("app.kubernetes.io/managed-by", "director-operator")]))),
        ("trust", configMapOf "trust" none)]
      bundles := .ofList [("nightly-7", {})]
      requests := .ofList [("cleanup", cleanup)] })]⟩

/-- The network and the managed config map are deleted, and the other config map is not. -/
theorem untidyCluster_cleans :
    cleanup.spec.mode = .cleanRestore ∧ untidyCluster.stored cleanup = some cleanup ∧
    ∃ transcript outcome v, Yields (reconcile {} cleanup) transcript outcome ∧
      (troubled "cloud").Path untidyCluster transcript v ∧
      Cleans {} cleanup untidyCluster transcript outcome ∧
      deleted transcript =
        [.deleteManaged "cloud" .network "ctlplane", .deleteConfigMap "cloud" "tarball"] := by
  let respond := Cluster.respond ⟨0, 0⟩
  have hgiven : untidyCluster.stored cleanup = some cleanup := by decide +kernel
  have hpass := Dialogue.yields_transcript respond (reconcile {} cleanup) untidyCluster
  have hpath : (troubled "cloud").Path untidyCluster _ _ :=
    Dialogue.path_transcript respond (troubled_respond _) (reconcile {} cleanup) untidyCluster
  exact ⟨rfl, hgiven, _, _, _, hpass, hpath, cleans_of_yields rfl hgiven hpass hpath,
    by decide +kernel⟩

end Saga

end NamespaceBackup
