import NamespaceBackup.Proofs.Journals
import NamespaceBackup.Proofs.Questions
import NamespaceBackup.Proofs.Runs

/-!
# Why a pass writes a status

A pass writes a status for one of a few reasons, and the journal of what it has asked by then shows
which. What it collected, loaded, or saw of the machines are stretches of that journal, whatever
was answered, so all that has to be known before a state is announced can be read off it.

## Main definitions

* `Mode.beginning`: the state that a request goes to first
* `Saga.InHand`: the copy of the request that a pass has in hand
* `Saga.Visited`: the visit to the machines, if images are included
* `Saga.Grounds`: the reasons for writing a status
* `Saga.Writing`: a write that has a reason

## Main results

* `Saga.writing_of_yields`: every write of every pass has a reason
-/

namespace NamespaceBackup

/-- The state that a request goes to first. -/
def Mode.beginning : Mode → State
  | save => .quiescing
  | restore => .loading
  | cleanRestore => .cleaning

namespace Saga

open Activity (Asks Ensures Gives journaling)

/-- The copy of the request that a pass has in hand after some exchanges. It is the one that the pass
was given until a write is stored, and then the one that was stored. -/
inductive InHand (given : Request) : List Exchange → Request → Prop
  | given : InHand given [] given
  | other {journal : List Exchange} {copy : Request} {exchange : Exchange}
    (h : InHand given journal copy)
    (hother : ∀ written, exchange.1 ≠ .call (.updateStatus written)) :
    InHand given (journal ++ [exchange]) copy
  | refused {journal : List Exchange} {copy : Request} {status : Request.Status}
    (h : InHand given journal copy) (failure : Failure) :
    InHand given (journal ++ [⟨.call (.updateStatus { copy with status := some status }),
      (.error failure : Except Failure Request)⟩]) copy
  | stored {journal : List Exchange} {copy stored : Request} {status : Request.Status}
    (h : InHand given journal copy) :
    InHand given (journal ++ [⟨.call (.updateStatus { copy with status := some status }),
      (.ok stored : Except Failure Request)⟩]) stored

/-- A status was written, and the writer was told what is stored. -/
def Confirmed (exchange : Exchange) : Prop :=
  ∃ written stored,
    exchange = ⟨.call (.updateStatus written), (.ok stored : Except Failure Request)⟩

/-- The bundle that a pass of a restore has found. -/
structure Found (given : Request) (ns : String) (bundle : Bundle) (journal : List Exchange) :
    Prop where
  restores : given.spec.mode.isRestore = true
  ns_eq : requestNamespace given = .ok ns
  named : given.spec.fault? = none
  mem : ⟨.call (.getBundle ns (given.spec.restoreSource.getD "")),
    (.ok (some bundle) : Except Failure (Option Bundle))⟩ ∈ journal

/-- The visit to the machines, with who is pending and who is recorded after it. There is none
unless images are included. -/
inductive Visited (copy : Request) (visit : String → Pass (List String × Dict String)) :
    List Exchange → List String → Dict String → Prop
  | unneeded (h : copy.spec.includeImages = false) :
    Visited copy visit [] [] copy.currentStatus.snapshotNames
  | images {marker : String} {exchanges : List Exchange} {pending : List String}
    {recorded : Dict String} (h : copy.spec.includeImages = true)
    (hmarker : requestMarker copy = .ok marker)
    (hvisit : Gives (visit marker) copy exchanges (pending, recorded)) :
    Visited copy visit exchanges pending recorded

/-- The reasons for writing a status over the copy in hand, after the exchanges that a pass has had
by then. -/
inductive Grounds (settings : Settings) (given copy : Request) :
    List Exchange → Request.Status → Prop
  | begin {journal : List Exchange} (hstate : copy.state = .empty) :
    Grounds settings given copy journal
      { copy.currentStatus with state := copy.spec.mode.beginning }
  | quiesce {ns : String} {start listing : List Exchange} {inventory : Inventory}
    (hmode : given.spec.mode = .save) (hstate : copy.state = .quiescing)
    (hns : requestNamespace copy = .ok ns)
    (hcollect : Gives (collect settings ns) copy listing inventory) :
    Grounds settings given copy (start ++ listing)
      { copy.currentStatus with
        state := if (Quiescence.evaluate inventory).quiesced then .saving else .quiescing }
  | wait {ns : String} {start listing images : List Exchange} {inventory : Inventory}
    {pending : List String} {recorded : Dict String}
    (hmode : given.spec.mode = .save) (hstate : copy.state = .saving)
    (hns : requestNamespace copy = .ok ns)
    (hcollect : Gives (collect settings ns) copy listing inventory)
    (himages : Visited copy (fun marker => takeImages settings ns copy.anyName marker inventory
      copy.currentStatus.snapshotNames) images pending recorded)
    (hpending : pending ≠ []) :
    Grounds settings given copy (start ++ listing ++ images)
      { copy.currentStatus with snapshotNames := recorded }
  | save {ns marker bundleName : String} {start listing images bundling : List Exchange}
    {inventory : Inventory} {recorded : Dict String} {now : Instant}
    (hmode : given.spec.mode = .save) (hstate : copy.state = .saving)
    (hns : requestNamespace copy = .ok ns)
    (hmarker : requestMarker copy = .ok marker)
    (hcollect : Gives (collect settings ns) copy listing inventory)
    (himages : Visited copy (fun marker => takeImages settings ns copy.anyName marker inventory
      copy.currentStatus.snapshotNames) images [] recorded)
    (hbundle : Gives (ensureBundle settings ns copy.anyName marker inventory recorded) copy bundling
      bundleName) :
    Grounds settings given copy (start ++ listing ++ images ++ bundling ++ [⟨.clock, now⟩])
      { copy.currentStatus with
        snapshotNames := recorded, state := .saved, completionTimestamp := some now.text }
  | clean {ns : String} {start listing clearing : List Exchange} {inventory : Inventory}
    {cleared : Bool}
    (hmode : given.spec.mode.isRestore = true) (hstate : copy.state = .cleaning)
    (hns : requestNamespace given = .ok ns)
    (hcollect : Gives (collect settings ns) copy listing inventory)
    (hclear : Gives (inventory.clear ns) copy clearing cleared) :
    Grounds settings given copy (start ++ listing ++ clearing)
      { copy.currentStatus with state := if cleared then .loading else .cleaning }
  | load {ns : String} {bundle : Bundle} {start loading images : List Exchange}
    {pending : List String} {recorded : Dict String}
    (hstate : copy.state = .loading) (hfound : Found given ns bundle start)
    (hload : Gives (loadObjects ns ("Restored by BackupRequest " ++ copy.anyName) bundle.content)
      copy loading ())
    (himages : Visited copy (fun marker => restoreImages settings ns copy.anyName marker bundle
      copy.currentStatus.snapshotNames) images pending recorded) :
    Grounds settings given copy (start ++ loading ++ images)
      { copy.currentStatus with
        snapshotNames := recorded
        state := if pending.isEmpty then .reconciling else .loading }
  | restore {ns : String} {bundle : Bundle} {start listing : List Exchange}
    {inventory : Inventory} {now : Instant}
    (hstate : copy.state = .reconciling) (hfound : Found given ns bundle start)
    (hcollect : Gives (collect settings ns) copy listing inventory)
    (hback : (Quiescence.evaluateRestored bundle.content inventory).quiesced = true) :
    Grounds settings given copy (start ++ listing ++ [⟨.clock, now⟩])
      { copy.currentStatus with state := .restored, completionTimestamp := some now.text }
  | await {journal : List Exchange} (hstate : copy.state = .reconciling) :
    Grounds settings given copy journal { copy.currentStatus with state := .reconciling }
  /-- Any part of a pass may fail. -/
  | fail {journal : List Exchange} :
    Grounds settings given copy journal
      { copy.currentStatus with state := given.spec.mode.errorState }

/-- A write of a status for one of the reasons. The clock was read last before it. -/
inductive Writing (settings : Settings) (given : Request) : List Exchange → Request → Prop
  | intro {start : List Exchange} {copy : Request} {status : Request.Status}
    (hcopy : InHand given start copy) (hgrounds : Grounds settings given copy start status)
    (now : Instant) (message : String) :
    Writing settings given (start ++ [⟨.clock, now⟩])
      { copy with status := some (status.announced now message) }

variable {settings : Settings} {given copy : Request} {start journal rest : List Exchange}
  {ns : String} {bundle : Bundle}

/-- What writes no status does not change the copy in hand. -/
theorem InHand.append (h : InHand given journal copy)
    (hrest : ∀ exchange ∈ rest, ∀ written, exchange.1 ≠ .call (.updateStatus written)) :
    InHand given (journal ++ rest) copy := by
  induction rest generalizing journal with
  | nil => simpa using h
  | cons exchange rest ih =>
    have hcopy := ih (h.other (hrest exchange (by simp))) fun e he => hrest e (by simp [he])
    rwa [List.append_assoc] at hcopy

/-- Before anything is exchanged, the copy in hand is the given one. -/
theorem InHand.of_nil (h : InHand given [] copy) : copy = given := by
  generalize hnil : ([] : List Exchange) = journal at h
  cases h with
  | given => rfl
  | other | refused | stored => simp at hnil

theorem not_confirmed {exchange : Exchange}
    (h : ∀ written, exchange.1 ≠ .call (.updateStatus written)) : ¬ Confirmed exchange := by
  rintro ⟨written, stored, rfl⟩
  exact h written rfl

theorem not_confirmed_refused {written : Request} {failure : Failure} :
    ¬ Confirmed ⟨.call (.updateStatus written), (.error failure : Except Failure Request)⟩ := by
  rintro ⟨_, _, heq⟩
  cases heq

/-- The copy in hand is what it was before the last exchange, or it was stored by that exchange. -/
theorem InHand.of_concat {exchange : Exchange} (h : InHand given (journal ++ [exchange]) copy) :
    InHand given journal copy ∧ ¬ Confirmed exchange ∨ ∃ before status,
      InHand given journal before ∧
      exchange = ⟨.call (.updateStatus { before with status := some status }),
        (.ok copy : Except Failure Request)⟩ := by
  generalize hlong : journal ++ [exchange] = long at h
  cases h with
  | given => simp at hlong
  | other h hother =>
    obtain ⟨rfl, hlast⟩ := List.append_inj' hlong rfl
    obtain rfl := List.head_eq_of_cons_eq hlast
    exact .inl ⟨h, not_confirmed hother⟩
  | refused h failure =>
    obtain ⟨rfl, hlast⟩ := List.append_inj' hlong rfl
    obtain rfl := List.head_eq_of_cons_eq hlast
    exact .inl ⟨h, not_confirmed_refused⟩
  | stored h =>
    obtain ⟨rfl, hlast⟩ := List.append_inj' hlong rfl
    exact .inr ⟨_, _, h, List.head_eq_of_cons_eq hlast⟩

theorem Found.mono (h : Found given ns bundle start) (hstart : start <+: journal) :
    Found given ns bundle journal where
  restores := h.restores
  ns_eq := h.ns_eq
  named := h.named
  mem := hstart.subset h.mem

/-! ## The parts of a pass -/

/-- What a pass may ask with a journal behind it: it writes a status only for one of the reasons. -/
def Justified (settings : Settings) (given : Request) (journal : List Exchange)
    (question : Query) : Prop :=
  ∀ written, question = .call (.updateStatus written) → Writing settings given journal written

theorem justified_of_ne {question : Query}
    (h : ∀ written, question ≠ .call (.updateStatus written)) :
    Justified settings given journal question := fun written heq => absurd heq (h written)

/-- The terms on which a pass writes a status only for one of the reasons. -/
abbrev justifying (settings : Settings) (given : Request) :
    Terms Query Query.Answer (List Exchange) :=
  journaling (Justified settings given)

/-- A pass goes on with a copy in hand, after all that it has had before. -/
structure GoesOn (given : Request) (start : List Exchange) (copy : Request)
    (journal : List Exchange) : Prop where
  inHand : InHand given journal copy
  since : start <+: journal

theorem GoesOn.append (h : GoesOn given start copy journal)
    (hrest : ∀ exchange ∈ rest, ∀ written, exchange.1 ≠ .call (.updateStatus written)) :
    GoesOn given start copy (journal ++ rest) where
  inHand := h.inHand.append hrest
  since := h.since.trans (List.prefix_append _ _)

/-- A status is written for one of the reasons. -/
theorem writeStatus_justified {status : Request.Status} {message : String}
    (h : GoesOn given start copy journal) (hgrounds : Grounds settings given copy journal status) :
    Ensures (justifying settings given) (writeStatus status message) copy journal
      fun _ copy journal => GoesOn given start copy journal := by
  refine ensures_writeStatus.2 ⟨justified_of_ne (by simp), ?_⟩
  rintro now _ rfl
  have hclock : GoesOn given start copy (journal ++ [⟨.clock, now⟩]) := h.append (by simp)
  split
  case isTrue => exact hclock
  case isFalse =>
    constructor
    · rintro written heq
      cases heq
      exact .intro h.inHand hgrounds now message
    · rintro (failure | stored) _ rfl
      · exact ⟨hclock.inHand.refused failure, hclock.since.trans (List.prefix_append _ _)⟩
      · exact ⟨hclock.inHand.stored, hclock.since.trans (List.prefix_append _ _)⟩

theorem transition_justified {state : State} {message : String}
    (h : GoesOn given start copy journal)
    (hgrounds : Grounds settings given copy journal { copy.currentStatus with state }) :
    Ensures (justifying settings given) (transition state message) copy journal
      fun _ copy journal => GoesOn given start copy journal :=
  ensures_transition.2 (writeStatus_justified h hgrounds)

/-- A part of a pass that writes no status is a stretch of the journal, and the rest goes on behind
it. -/
theorem part_bind {α β : Type} {P : Query → Prop} {x : Pass α} {f : α → Pass β} (hx : Asks P x)
    (hP : ∀ written, ¬ P (.call (.updateStatus written))) (h : GoesOn given start copy journal)
    (hf : ∀ value exchanges, Gives x copy exchanges value →
      GoesOn given start copy (journal ++ exchanges) →
      Ensures (justifying settings given) (f value) copy (journal ++ exchanges)
        fun _ copy journal => GoesOn given start copy journal) :
    Ensures (justifying settings given) (x >>= f) copy journal
      fun _ copy journal => GoesOn given start copy journal := by
  have hne : ∀ question, P question → ∀ written, question ≠ .call (.updateStatus written) := by
    rintro _ hquestion written rfl
    exact hP written hquestion
  have htraced : Ensures (justifying settings given) x copy journal _ := (hx copy).traced
    (fun _ question hquestion => justified_of_ne (hne question hquestion)) journal
  refine htraced.bind ?_ ?_
  · rintro value _ _ ⟨rfl, exchanges, rfl, hquestions, hyields⟩
    exact hf value exchanges hyields
      (h.append fun exchange hexchange => hne _ (hquestions exchange hexchange))
  · rintro failure _ _ ⟨rfl, exchanges, rfl, hquestions, -⟩
    exact h.append fun exchange hexchange => hne _ (hquestions exchange hexchange)

theorem ofExcept_bind_justified {α β : Type} {outcome : Except Failure α} {f : α → Pass β}
    (h : GoesOn given start copy journal)
    (hf : ∀ value, outcome = .ok value → Ensures (justifying settings given) (f value) copy journal
      fun _ copy journal => GoesOn given start copy journal) :
    Ensures (justifying settings given) (ofExcept outcome >>= f) copy journal
      fun _ copy journal => GoesOn given start copy journal := by
  cases outcome with
  | ok value => exact hf value rfl
  | error failure => exact h

theorem collect_bind_justified {β : Type} {f : Inventory → Pass β}
    (h : GoesOn given start copy journal)
    (hf : ∀ inventory listing, Gives (collect settings ns) copy listing inventory →
      GoesOn given start copy (journal ++ listing) →
      Ensures (justifying settings given) (f inventory) copy (journal ++ listing)
        fun _ copy journal => GoesOn given start copy journal) :
    Ensures (justifying settings given) (collect settings ns >>= f) copy journal
      fun _ copy journal => GoesOn given start copy journal :=
  part_bind (Inventory.collect_asks ns settings.managedSelector)
    (fun _ hlisting => nomatch hlisting) h hf

/-- The clock is read before the rest of a pass. -/
theorem now_bind_justified {β : Type} {f : Instant → Pass β}
    (h : GoesOn given start copy journal)
    (hf : ∀ now, GoesOn given start copy (journal ++ [⟨.clock, now⟩]) →
      Ensures (justifying settings given) (f now) copy (journal ++ [⟨.clock, now⟩])
        fun _ copy journal => GoesOn given start copy journal) :
    Ensures (justifying settings given) (Activity.now >>= f) copy journal
      fun _ copy journal => GoesOn given start copy journal := by
  refine Activity.ensures_bind.2 ⟨justified_of_ne (by simp), ?_⟩
  rintro now _ rfl
  exact hf now (h.append (by simp))

/-! ## Saving -/

theorem quiesce_justified (hmode : given.spec.mode = .save) (h : GoesOn given start copy journal)
    (hstate : copy.state = .quiescing) :
    Ensures (justifying settings given) (quiesce settings) copy journal
      fun _ copy journal => GoesOn given start copy journal := by
  rw [quiesce, Activity.ensures_bind, Activity.ensures_get, Activity.then_ok]
  refine ofExcept_bind_justified h fun ns hns => ?_
  refine collect_bind_justified h fun inventory listing hcollect h => ?_
  have hgrounds : Grounds settings given copy (journal ++ listing) _ :=
    .quiesce hmode hstate hns hcollect
  by_cases hquiesced : (Quiescence.evaluate inventory).quiesced = true
  · rw [if_pos hquiesced] at hgrounds ⊢
    exact transition_justified h hgrounds
  · rw [if_neg hquiesced] at hgrounds ⊢
    exact transition_justified h hgrounds

theorem finishSave_justified {marker : String} {inventory : Inventory} {recorded : Dict String}
    (h : GoesOn given start copy journal)
    (hgrounds : ∀ bundling bundleName now,
      Gives (ensureBundle settings ns copy.anyName marker inventory recorded) copy bundling
        bundleName →
      Grounds settings given copy (journal ++ bundling ++ [⟨.clock, now⟩])
        { copy.currentStatus with
          snapshotNames := recorded, state := .saved, completionTimestamp := some now.text }) :
    Ensures (justifying settings given)
      (finishSave settings ns copy.anyName marker inventory
        { copy.currentStatus with snapshotNames := recorded }) copy journal
      fun _ copy journal => GoesOn given start copy journal := by
  refine part_bind (ensureBundle_asks settings ns copy.anyName marker inventory recorded)
    (fun _ hbundling => nomatch hbundling) h fun bundleName bundling hbundle h => ?_
  refine now_bind_justified h fun now h => ?_
  exact writeStatus_justified h (hgrounds bundling bundleName now hbundle)

theorem save_justified (hmode : given.spec.mode = .save) (h : GoesOn given start copy journal)
    (hstate : copy.state = .saving) :
    Ensures (justifying settings given) (save settings) copy journal
      fun _ copy journal => GoesOn given start copy journal := by
  rw [save, Activity.ensures_bind, Activity.ensures_get, Activity.then_ok]
  refine ofExcept_bind_justified h fun ns hns => ofExcept_bind_justified h fun marker hmarker => ?_
  refine collect_bind_justified h fun inventory listing hcollect h => ?_
  dsimp only
  by_cases himages : copy.spec.includeImages = true
  · rw [if_pos himages]
    refine part_bind (Imaging.within_runPass_asks settings _ .save inventory.vmSets _ _)
      (fun _ => Imaging.not_isImaging_updateStatus) h ?_
    rintro ⟨pending, recorded⟩ images hvisit h
    have hvisited : Visited copy (fun marker => takeImages settings ns copy.anyName marker inventory
        copy.currentStatus.snapshotNames) images pending recorded := .images himages hmarker hvisit
    dsimp only
    by_cases hpending : pending.isEmpty = true
    · rw [if_pos hpending]
      obtain rfl := List.isEmpty_iff.1 hpending
      exact finishSave_justified h fun bundling bundleName now hbundle =>
        .save hmode hstate hns hmarker hcollect hvisited hbundle
    · rw [if_neg hpending]
      refine writeStatus_justified h (.wait hmode hstate hns hcollect hvisited ?_)
      simpa using hpending
  · rw [if_neg himages]
    have hvisited : Visited copy (fun marker => takeImages settings ns copy.anyName marker inventory
        copy.currentStatus.snapshotNames) [] [] copy.currentStatus.snapshotNames :=
      .unneeded (by simpa using himages)
    refine finishSave_justified h fun bundling bundleName now hbundle => ?_
    have hgrounds : Grounds settings given copy
        (journal ++ listing ++ [] ++ bundling ++ [⟨.clock, now⟩]) _ :=
      .save hmode hstate hns hmarker hcollect hvisited hbundle
    rw [List.append_nil] at hgrounds
    exact hgrounds

theorem savePass_justified (hmode : given.spec.mode = .save) :
    Ensures (justifying settings given) (savePass settings) given []
      fun _ copy journal => GoesOn given [] copy journal := by
  have hphase : ∀ copy journal, GoesOn given [] copy journal →
      Ensures (justifying settings given) (savePhase settings) copy journal
        fun _ copy journal => GoesOn given [] copy journal := fun copy journal h =>
    ensures_savePhase (quiesce_justified hmode h) (save_justified hmode h) fun _ _ _ => h
  have h : GoesOn given [] given [] := ⟨.given, List.prefix_refl _⟩
  rw [ensures_savePass]
  split
  case isTrue hempty =>
    have hgrounds :
        Grounds settings given given [] { given.currentStatus with state := .quiescing } := by
      have hbegin : Grounds settings given given [] _ := .begin hempty
      rwa [hmode] at hbegin
    exact (transition_justified h hgrounds).bind (fun _ copy journal h => hphase copy journal h)
      fun _ _ _ h => h
  case isFalse => exact hphase given [] h

/-! ## Restoring -/

theorem clean_justified (hmode : given.spec.mode.isRestore = true)
    (h : GoesOn given start copy journal) (hstate : copy.state = .cleaning)
    (hns : requestNamespace given = .ok ns) :
    Ensures (justifying settings given) (clean settings ns) copy journal
      fun _ copy journal => GoesOn given start copy journal := by
  refine collect_bind_justified h fun inventory listing hcollect h => ?_
  refine part_bind (Inventory.clear_asks ns inventory) (fun _ hdeletion => nomatch hdeletion) h
    fun cleared clearing hclear h => ?_
  have hgrounds : Grounds settings given copy (journal ++ listing ++ clearing) _ :=
    .clean hmode hstate hns hcollect hclear
  cases cleared <;> exact transition_justified h hgrounds

theorem load_justified (h : GoesOn given start copy journal) (hstate : copy.state = .loading)
    (hfound : Found given ns bundle journal) :
    Ensures (justifying settings given) (load settings ns bundle) copy journal
      fun _ copy journal => GoesOn given start copy journal := by
  rw [load, Activity.ensures_bind, Activity.ensures_get, Activity.then_ok]
  refine part_bind (loadObjects_asks ns _ bundle.content)
    (fun _ hloading => nomatch hloading) h fun _ loading hload h => ?_
  dsimp only
  have hsame (recorded : Dict String) :
      { copy.currentStatus with snapshotNames := recorded } =
        { copy.currentStatus with snapshotNames := recorded, state := State.loading } := by
    rw [← hstate]
    rfl
  by_cases himages : copy.spec.includeImages = true
  · rw [if_pos himages]
    refine ofExcept_bind_justified h fun marker hmarker => ?_
    refine part_bind (Imaging.within_runPass_asks settings _ (.restore _ _) _ _ _)
      (fun _ => Imaging.not_isImaging_updateStatus) h ?_
    rintro ⟨pending, recorded⟩ images hvisit h
    have hvisited : Visited copy (fun marker => restoreImages settings ns copy.anyName marker bundle
        copy.currentStatus.snapshotNames) images pending recorded := .images himages hmarker hvisit
    have hgrounds : Grounds settings given copy (journal ++ loading ++ images) _ :=
      .load hstate hfound hload hvisited
    dsimp only
    by_cases hpending : pending.isEmpty = true
    · rw [if_pos hpending] at hgrounds ⊢
      exact writeStatus_justified h hgrounds
    · rw [if_neg hpending] at hgrounds ⊢
      rw [hsame]
      exact writeStatus_justified h hgrounds
  · rw [if_neg himages]
    have hvisited : Visited copy (fun marker => restoreImages settings ns copy.anyName marker bundle
        copy.currentStatus.snapshotNames) [] [] copy.currentStatus.snapshotNames :=
      .unneeded (by simpa using himages)
    have hgrounds : Grounds settings given copy (journal ++ loading ++ []) _ :=
      .load hstate hfound hload hvisited
    rw [List.append_nil] at hgrounds
    exact writeStatus_justified h hgrounds

theorem awaitRestored_justified (h : GoesOn given start copy journal)
    (hstate : copy.state = .reconciling) (hfound : Found given ns bundle journal) :
    Ensures (justifying settings given) (awaitRestored settings ns bundle) copy journal
      fun _ copy journal => GoesOn given start copy journal := by
  refine collect_bind_justified h fun inventory listing hcollect h => ?_
  by_cases hback : (Quiescence.evaluateRestored bundle.content inventory).quiesced = true
  · rw [if_pos hback, Activity.ensures_bind, Activity.ensures_get, Activity.then_ok]
    refine now_bind_justified h fun now h => ?_
    exact writeStatus_justified h (.restore hstate hfound hcollect hback)
  · rw [if_neg hback]
    exact transition_justified h (.await hstate)

/-- A restore looks for its bundle before anything else, and gives up without one. -/
theorem sourceBundle_bind_justified {β : Type} {f : Bundle → Pass β}
    (hmode : given.spec.mode.isRestore = true) (hns : requestNamespace given = .ok ns)
    (hf : ∀ bundle journal, Found given ns bundle journal → GoesOn given [] given journal →
      Ensures (justifying settings given) (f bundle) given journal
        fun _ copy journal => GoesOn given [] copy journal) :
    Ensures (justifying settings given) (sourceBundle ns >>= f) given []
      fun _ copy journal => GoesOn given [] copy journal := by
  have hgiven : GoesOn given [] given [] := ⟨.given, List.prefix_refl _⟩
  refine Activity.ensures_bind.2 ?_
  rw [sourceBundle, Activity.ensures_bind, Activity.ensures_get, Activity.then_ok]
  dsimp only
  cases hfault : given.spec.fault? with
  | some fault => exact hgiven
  | none =>
    refine Activity.ensures_bind.2 ⟨justified_of_ne (by simp), ?_⟩
    rintro answer _ rfl
    have hgoesOn : GoesOn given [] given ([] ++ [⟨_, answer⟩]) := hgiven.append (by simp)
    rcases answer with failure | (_ | bundle)
    · exact hgoesOn
    · exact hgoesOn
    · exact hf bundle _ ⟨hmode, hns, hfault, List.mem_singleton_self _⟩ hgoesOn

theorem restorePass_justified (hmode : given.spec.mode.isRestore = true) :
    Ensures (justifying settings given) (restorePass settings) given []
      fun _ copy journal => GoesOn given [] copy journal := by
  rw [ensures_restorePass]
  refine ofExcept_bind_justified ⟨.given, List.prefix_refl _⟩ fun ns hns => ?_
  refine sourceBundle_bind_justified hmode hns fun bundle start hfound hgiven => ?_
  have h : GoesOn given start given start := ⟨hgiven.inHand, List.prefix_refl _⟩
  -- The bundle is found once, and stays found however the pass goes on.
  have hphase : ∀ copy journal, GoesOn given start copy journal →
      Ensures (justifying settings given) (restorePhase settings ns bundle) copy journal
        fun _ copy journal => GoesOn given start copy journal := fun copy journal h =>
    ensures_restorePhase (fun hstate => clean_justified hmode h hstate hns)
      (fun hstate => load_justified h hstate (hfound.mono h.since))
      (fun hstate => awaitRestored_justified h hstate (hfound.mono h.since)) fun _ _ _ _ => h
  have hstarted : ∀ state message, given.state = .empty → state = given.spec.mode.beginning →
      Ensures (justifying settings given)
        (transition state message >>= fun _ => restorePhase settings ns bundle) given start
        fun _ copy journal => GoesOn given start copy journal := by
    rintro _ message hempty rfl
    exact (transition_justified h (.begin hempty)).bind
      (fun _ copy journal h => hphase copy journal h) fun _ _ _ h => h
  suffices hfrom : Ensures (justifying settings given) (restoreFrom settings ns bundle) given start
      fun _ copy journal => GoesOn given start copy journal from
    hfrom.mono fun _ copy journal h => ⟨h.inHand, List.nil_prefix⟩
  rw [ensures_restoreFrom]
  split
  case isTrue hempty =>
    split
    case isTrue hclean => exact hstarted _ _ hempty (by rw [hclean]; rfl)
    case isFalse hclean =>
      refine hstarted _ _ hempty ?_
      cases hspec : given.spec.mode with
      | save => rw [hspec] at hmode; cases hmode
      | restore => rfl
      | cleanRestore => exact absurd hspec hclean
  case isFalse => exact hphase given start h

/-! ## The whole pass -/

theorem pass_justified (settings : Settings) (given : Request) :
    Ensures (justifying settings given) (pass settings given.spec.mode) given []
      fun _ copy journal => GoesOn given [] copy journal := by
  cases hmode : given.spec.mode with
  | save => exact savePass_justified hmode
  | restore => exact restorePass_justified (by rw [hmode]; rfl)
  | cleanRestore => exact restorePass_justified (by rw [hmode]; rfl)

theorem reconcile_justified (settings : Settings) (given : Request) :
    Ensures (justifying settings given) (reconcile settings) given []
      fun _ copy journal => GoesOn given [] copy journal := by
  refine ensures_reconcile (fun _ => ⟨.given, List.prefix_refl _⟩) fun _ => ?_
  refine (pass_justified settings given).mono fun outcome copy journal h => ?_
  cases outcome with
  | ok => exact h
  | error failure => exact ⟨fun _ => h, fun _ => transition_justified h .fail⟩

/-- Every write of every pass has a reason, whatever the pass was answered. -/
theorem writing_of_yields {written : Request} {answer : Except Failure Request}
    {before after : List Exchange} {outcome : Except Failure Action × Request}
    (h : Dialogue.Yields (reconcile settings given)
      (before ++ ⟨.call (.updateStatus written), answer⟩ :: after) outcome) :
    Writing settings given before written :=
  Activity.asked_of_yields (reconcile_justified settings given) h written rfl

end Saga

end NamespaceBackup
