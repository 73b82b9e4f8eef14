import Mathlib.Logic.Function.Basic
import Mathlib.Logic.Relation
import NamespaceBackup.Cluster.Basic
import NamespaceBackup.Proofs.Conditions
import NamespaceBackup.Proofs.Labels
import NamespaceBackup.Proofs.Saving
import NamespaceBackup.Proofs.Versions

/-!
# One bundle for each request

A save makes its bundle before it writes that it is saved, so whatever fails in between, the next
pass finds the request's own bundle by its marker. Bundles are only ever added under free names. So
as long as nobody else makes or deletes a bundle with the marker, at most one is made, nothing that
exists is touched, and a request that says it is saved names the one that there is.

## Main definitions

* `SoleBundle.Serves`: how a cluster answers what is asked about bundles
* `SoleBundle.surroundings`: passes over one request, any of which may be given an old version
* `SoleBundle.Carries`: a bundle with the marker of the request
* `SoleBundle.History`: what became of the bundles

## Main results

* `SoleBundle.History.eq_of_carries`: there is at most one bundle with the marker
* `SoleBundle.keeps`: what every pass keeps
* `SoleBundle.sole_of_visits`: what holds at every moment of a run
-/

namespace NamespaceBackup.SoleBundle

open Activity (Ensures)
open Relation (ReflTransGen)
open Versions (Held IsCalm Sound Tells)

/-! ## The bundles of a cluster -/

/-- The bundles of a cluster, by namespace and name. -/
abbrev Shelf : Type := String → Dict Bundle

/-- How a question is answered by a cluster with some bundles. A bundle is made only if its name is
free, and a failure may hide that it was made. -/
inductive Serves : Shelf → Exchange → Shelf → Prop
  | found {shelf : Shelf} {ns selector : String} {bundle : Bundle}
    (hstored : (shelf ns).find? bundle.anyName = some bundle)
    (hselected : Selector.selects selector bundle.metadata = true) :
    Serves shelf ⟨.call (.findBundle ns selector),
      (.ok (some bundle) : Except Failure (Option Bundle))⟩ shelf
  | missing {shelf : Shelf} {ns selector : String}
    (hnone : ∀ name bundle, (shelf ns).find? name = some bundle →
      ¬ Selector.selects selector bundle.metadata = true) :
    Serves shelf ⟨.call (.findBundle ns selector),
      (.ok none : Except Failure (Option Bundle))⟩ shelf
  | created {shelf : Shelf} {ns : String} {bundle : Bundle} {bundles : Dict Bundle}
    (hadded : Cluster.addOrFail (shelf ns) bundle.anyName bundle = .ok bundles) :
    Serves shelf ⟨.call (.createBundle ns bundle), (.ok () : Except Failure Unit)⟩
      (Function.update shelf ns bundles)
  | hidden {shelf : Shelf} {ns : String} {bundle : Bundle} {bundles : Dict Bundle}
    (failure : Failure)
    (hadded : Cluster.addOrFail (shelf ns) bundle.anyName bundle = .ok bundles) :
    Serves shelf ⟨.call (.createBundle ns bundle), (.error failure : Except Failure Unit)⟩
      (Function.update shelf ns bundles)
  | failed {shelf : Shelf} {c : Call} (failure : Failure) :
    Serves shelf ⟨.call c, (.error failure : Except Failure c.Answer)⟩ shelf
  | other {shelf : Shelf} {exchange : Exchange}
    (hfind : ∀ ns selector, exchange.1 ≠ .call (.findBundle ns selector))
    (hcalm : IsCalm exchange.1) : Serves shelf exchange shelf

/-- The versions of a request and the bundles of its cluster. -/
structure Store where
  /-- All stored versions, the newest first. -/
  versions : List Request
  shelf : Shelf

/-- Passes over one request, each given any version of it. At any time others write the request, and
change the bundles as `others` says. -/
def surroundings (first : Request) (others : Shelf → Shelf → Prop) : Saga.Surroundings Store where
  answers store exchange store' :=
    (Versions.surroundings first.IsVersionOf).answers store.versions exchange store'.versions ∧
      ∃ shelf, ReflTransGen others store.shelf shelf ∧ Serves shelf exchange store'.shelf
  gives store request := request ∈ store.versions
  between store store' :=
    Versions.Edits first.IsVersionOf store.versions store'.versions ∧
      ReflTransGen others store.shelf store'.shelf

/-! ## Bundles with the marker -/

/-- There is a bundle of a name, and it carries the marker. -/
def Carries (settings : Settings) (ns marker : String) (shelf : Shelf) (name : String) : Prop :=
  ∃ bundle, (shelf ns).find? name = some bundle ∧
    bundle.metadata.label? settings.markerLabel = some marker

/-- A bundle with the marker is added under a free name, and nothing else changes. -/
def Adds (settings : Settings) (ns marker : String) (before after : Shelf) : Prop :=
  ∃ name bundle, (before ns).find? name = none ∧
    bundle.metadata.label? settings.markerLabel = some marker ∧
    after = Function.update before ns ((before ns).insert name bundle)

/-- What became of the bundles: apart from what others did, at most one with the marker was added
and nothing was changed. -/
inductive History (settings : Settings) (ns marker : String) (others : Shelf → Shelf → Prop)
    (start : Shelf) : Shelf → Prop
  | untouched {now : Shelf} : ReflTransGen others start now →
    History settings ns marker others start now
  | added {before after now : Shelf} : ReflTransGen others start before →
    Adds settings ns marker before after → ReflTransGen others after now →
    History settings ns marker others start now

/-- Others neither make nor delete bundles with the marker. -/
def Spares (settings : Settings) (ns marker : String) (others : Shelf → Shelf → Prop) : Prop :=
  ∀ before after, others before after → ∀ name,
    Carries settings ns marker before name ↔ Carries settings ns marker after name

variable {settings : Settings} {ns marker name other : String} {others : Shelf → Shelf → Prop}
  {start shelf shelf' : Shelf}

theorem Spares.carries_iff (h : Spares settings ns marker others)
    (hothers : ReflTransGen others shelf shelf') :
    Carries settings ns marker shelf name ↔ Carries settings ns marker shelf' name := by
  induction hothers with
  | refl => exact Iff.rfl
  | tail _ hlast ih => exact ih.trans (h _ _ hlast name)

/-- Who carries the marker after a bundle was added: the new one, and who did before. -/
theorem Adds.carries_iff (h : Adds settings ns marker shelf shelf') :
    ∃ added, ¬ Carries settings ns marker shelf added ∧ ∀ name,
      Carries settings ns marker shelf' name ↔
        name = added ∨ Carries settings ns marker shelf name := by
  obtain ⟨added, bundle, hfree, hlabel, rfl⟩ := h
  refine ⟨added, ?_, fun name => ?_⟩
  · rintro ⟨old, hold, -⟩
    rw [hfree] at hold
    cases hold
  · rw [Carries, Carries, Function.update_self, Dict.find?_insert]
    by_cases heq : added = name
    · subst heq
      simp [hlabel]
    · rw [if_neg heq]
      simp [Ne.symm heq]

namespace History

theorem trans (h : History settings ns marker others start shelf)
    (hothers : ReflTransGen others shelf shelf') :
    History settings ns marker others start shelf' := by
  cases h with
  | untouched hstart => exact .untouched (hstart.trans hothers)
  | added hstart hadds hafter => exact .added hstart hadds (hafter.trans hothers)

/-- There is at most one bundle with the marker, if there was none in the beginning. -/
theorem eq_of_carries (h : History settings ns marker others start shelf)
    (hspares : Spares settings ns marker others)
    (hnone : ∀ name, ¬ Carries settings ns marker start name)
    (hname : Carries settings ns marker shelf name)
    (hother : Carries settings ns marker shelf other) : name = other := by
  cases h with
  | untouched hstart => exact absurd ((hspares.carries_iff hstart).2 hname) (hnone name)
  | added hstart hadds hafter =>
    -- Others neither made nor deleted one, so whoever carries the marker is the one that was added.
    obtain ⟨added, -, hcarries⟩ := hadds.carries_iff
    have heq : ∀ name, Carries settings ns marker shelf name → name = added := by
      intro name hname
      refine ((hcarries name).1 ((hspares.carries_iff hafter).2 hname)).resolve_right fun hbefore => ?_
      exact hnone name ((hspares.carries_iff hstart).2 hbefore)
    rw [heq name hname, heq other hother]

/-- A bundle may be added if none carries the marker yet. -/
theorem adds (h : History settings ns marker others start shelf)
    (hspares : Spares settings ns marker others)
    (hnone : ∀ name, ¬ Carries settings ns marker shelf name)
    (hadds : Adds settings ns marker shelf shelf') :
    History settings ns marker others start shelf' := by
  cases h with
  | untouched hstart => exact .added hstart hadds .refl
  | added hstart hadded hafter =>
    -- The one that was added before would still be there.
    obtain ⟨added, -, hcarries⟩ := hadded.carries_iff
    exact absurd ((hspares.carries_iff hafter).1 ((hcarries added).2 (.inl rfl))) (hnone added)

end History

/-! ## What a pass knows -/

/-- What every version says: its history is well-formed, and if it says that it is saved, then there
is a bundle with the marker, which its current condition names. -/
structure Says (settings : Settings) (ns marker : String) (store : Store)
    (status : Request.Status) : Prop where
  wellFormed : Conditions.WellFormed status.conditions
  told : status.state = .saved → ∃ name, Carries settings ns marker store.shelf name ∧
    ∃ c, Conditions.current? status.conditions = some c ∧
      c.message = some ("Saved to Backup " ++ name)

/-- A status that is announced says as much as before, if it does not say that it is saved. -/
theorem Says.announced {store : Store} {status : Request.Status}
    (h : Conditions.WellFormed status.conditions) (hne : status.state ≠ .saved) (now : Instant)
    (message : String) : Says settings ns marker store (status.announced now message) where
  wellFormed := h.promote
  told hsaved := absurd hsaved hne

theorem Says.announced_saved {store : Store} {status : Request.Status}
    (h : Conditions.WellFormed status.conditions)
    (hname : Carries settings ns marker store.shelf name) (now : Instant) :
    Says settings ns marker store (status.announced now ("Saved to Backup " ++ name)) where
  wellFormed := h.promote
  told _ := by
    obtain ⟨c, hcurrent, -, hmessage⟩ := Conditions.exists_current?_promote h
    exact ⟨name, hname, c, hcurrent, hmessage⟩

theorem Says.mono {store store' : Store} {status : Request.Status}
    (h : Says settings ns marker store status)
    (hcarries : ∀ name, Carries settings ns marker store.shelf name →
      Carries settings ns marker store'.shelf name) : Says settings ns marker store' status where
  wellFormed := h.wellFormed
  told hsaved := by
    obtain ⟨name, hname, hcurrent⟩ := h.told hsaved
    exact ⟨name, hcarries name hname, hcurrent⟩

/-- What holds at every moment of a run. -/
abbrev Holds (settings : Settings) (ns marker : String) (others : Shelf → Shelf → Prop)
    (start : Shelf) (first : Request) : Store → Prop :=
  Sound Store.versions first.IsVersionOf (Says settings ns marker)
    fun store => History settings ns marker others start store.shelf

/-- What a pass knows besides: its copy is a version. -/
abbrev Knows (settings : Settings) (ns marker : String) (others : Shelf → Shelf → Prop)
    (start : Shelf) (first : Request) : Request → Store → Prop :=
  Held Store.versions first.IsVersionOf (Says settings ns marker)
    fun store => History settings ns marker others start store.shelf

/-- The terms on which a pass is held. -/
abbrev terms (settings : Settings) (ns marker : String) (others : Shelf → Shelf → Prop)
    (start : Shelf) (first : Request) : Terms Query Query.Answer Store where
  asks store _ := Holds settings ns marker others start first store
  answers := (surroundings first others).answers

/-- What makes no bundle changes none. -/
theorem Serves.eq_of_isCalm {exchange : Exchange} (h : Serves shelf exchange shelf')
    (hcalm : IsCalm exchange.1) : shelf' = shelf := by
  cases h with
  | created => exact absurd rfl (hcalm _ _)
  | hidden => exact absurd rfl (hcalm _ _)
  | _ => rfl

variable {first request : Request} {store store' : Store}

theorem tells (hspares : Spares settings ns marker others) :
    Tells (terms settings ns marker others start first) Store.versions first.IsVersionOf
      (Says settings ns marker) fun store => History settings ns marker others start store.shelf where
  asks _ _ hholds _ := hholds
  answers _ _ _ hanswer := hanswer.1
  kept := by
    rintro store exchange store' hhistory hcalm ⟨-, shelf, hothers, hserves⟩
    rw [hserves.eq_of_isCalm hcalm]
    refine ⟨hhistory.trans hothers, fun status hsays => hsays.mono fun name hname => ?_⟩
    rw [hserves.eq_of_isCalm hcalm]
    exact (hspares.carries_iff hothers).1 hname

/-- A bundle that is found by the marker carries it, and if none is found, none carries it. -/
theorem carries_of_found {bundle : Bundle}
    (hselects : ∀ metadata, Selector.selects (settings.markerSelector marker) metadata = true ↔
      metadata.label? settings.markerLabel = some marker)
    (h : (surroundings first others).answers store
      ⟨.call (.findBundle ns (settings.markerSelector marker)),
        (.ok (some bundle) : Except Failure (Option Bundle))⟩ store') :
    Carries settings ns marker store'.shelf bundle.anyName := by
  obtain ⟨-, shelf, -, hserves⟩ := h
  cases store' with
  | mk versions shelf' =>
    cases hserves with
    | found hstored hselected => exact ⟨bundle, hstored, (hselects _).1 hselected⟩
    | other hfind => exact absurd rfl (hfind _ _)

theorem not_carries_of_missing
    (hselects : ∀ metadata, Selector.selects (settings.markerSelector marker) metadata = true ↔
      metadata.label? settings.markerLabel = some marker)
    (h : (surroundings first others).answers store
      ⟨.call (.findBundle ns (settings.markerSelector marker)),
        (.ok none : Except Failure (Option Bundle))⟩ store') (name : String) :
    ¬ Carries settings ns marker store'.shelf name := by
  obtain ⟨-, shelf, -, hserves⟩ := h
  cases store' with
  | mk versions shelf' =>
    cases hserves with
    | missing hnone =>
      rintro ⟨bundle, hstored, hlabel⟩
      exact hnone name bundle hstored ((hselects _).2 hlabel)
    | other hfind => exact absurd rfl (hfind _ _)

/-- A bundle that was made came under a free name. -/
theorem adds_of_addOrFail {bundle : Bundle} {bundles : Dict Bundle}
    (hlabel : bundle.metadata.label? settings.markerLabel = some marker)
    (h : Cluster.addOrFail (shelf ns) bundle.anyName bundle = .ok bundles) :
    Adds settings ns marker shelf (Function.update shelf ns bundles) := by
  rw [Cluster.addOrFail] at h
  split at h
  case isTrue => cases h
  case isFalse hfree =>
    cases h
    exact ⟨bundle.anyName, bundle, by simpa [Dict.contains] using hfree, hlabel, rfl⟩

theorem carries_of_addOrFail {bundle : Bundle} {bundles : Dict Bundle}
    (hlabel : bundle.metadata.label? settings.markerLabel = some marker)
    (h : Cluster.addOrFail (shelf ns) bundle.anyName bundle = .ok bundles) :
    Carries settings ns marker (Function.update shelf ns bundles) bundle.anyName := by
  rw [Cluster.addOrFail] at h
  split at h
  case isTrue => cases h
  case isFalse =>
    cases h
    exact ⟨bundle, by simp, hlabel⟩

/-- A bundle is made only while none carries the marker, so it is the one bundle of the history. If
the pass is told so, it is there. -/
theorem created_knows {bundle : Bundle} {answer : Except Failure Unit}
    (hspares : Spares settings ns marker others)
    (hlabel : bundle.metadata.label? settings.markerLabel = some marker)
    (hknows : Knows settings ns marker others start first request store)
    (hnone : ∀ name, ¬ Carries settings ns marker store.shelf name)
    (h : (surroundings first others).answers store
      ⟨.call (.createBundle ns bundle), (answer : Except Failure Unit)⟩ store') :
    Knows settings ns marker others start first request store' ∧
      (answer = .ok () → Carries settings ns marker store'.shelf bundle.anyName) := by
  obtain ⟨hversions, shelf, hothers, hserves⟩ := h
  -- Others may come between the question and its answer, but nothing that they do is marked.
  have hhistory := hknows.inv.trans hothers
  have hfree : ∀ name, ¬ Carries settings ns marker shelf name :=
    fun name hname => hnone name ((hspares.carries_iff hothers).2 hname)
  -- No version can say yet that it is saved, since it would name a bundle.
  have hsays : ∀ status, Says settings ns marker store status →
      Says settings ns marker store' status := fun status hstatus =>
    hstatus.mono fun name hname => absurd hname (hnone name)
  cases store' with
  | mk versions shelf' =>
    cases hserves with
    | created hadded =>
      refine ⟨hknows.answered hversions ?_ hsays (by simp), fun _ =>
        carries_of_addOrFail hlabel hadded⟩
      exact hhistory.adds hspares hfree (adds_of_addOrFail hlabel hadded)
    | hidden failure hadded =>
      refine ⟨hknows.answered hversions ?_ hsays (by simp), nofun⟩
      exact hhistory.adds hspares hfree (adds_of_addOrFail hlabel hadded)
    | failed failure => exact ⟨hknows.answered hversions hhistory hsays (by simp), nofun⟩
    | other _ hcalm => exact absurd rfl (hcalm _ _)

/-- A request whose bundle can be told by its marker. -/
structure Marked (settings : Settings) (ns marker : String) (first : Request) : Prop where
  ns_eq : first.metadata.ns = some ns
  marker_eq : first.marker? = some marker
  selects : ∀ metadata, Selector.selects (settings.markerSelector marker) metadata = true ↔
    metadata.label? settings.markerLabel = some marker

theorem label?_newBundle (settings : Settings) (ns name marker bundleName : String)
    (inventory : Inventory) (names : Dict String) :
    (Saga.newBundle settings ns name marker bundleName inventory names).metadata.label?
      settings.markerLabel = some marker := by
  simp [Saga.newBundle, Metadata.label?, Dict.ofList]

/-- A bundle that is made while none carries the marker carries it. -/
theorem makeBundle_knows (hspares : Spares settings ns marker others) {requestName : String}
    {inventory : Inventory} {names : Dict String}
    (hknows : Knows settings ns marker others start first request store)
    (hnone : ∀ name, ¬ Carries settings ns marker store.shelf name) :
    Ensures (terms settings ns marker others start first)
      (Saga.makeBundle settings ns requestName marker inventory names) request store
      fun outcome request' store' => request' = request ∧
        Knows settings ns marker others start first request store' ∧
        ∀ name, outcome = .ok name → Carries settings ns marker store'.shelf name := by
  refine Saga.ensures_makeBundle hknows.toSound fun now v hnow bundle hbundle => ?_
  have hv := (tells hspares).clock hknows hnow
  have hnone : ∀ name, ¬ Carries settings ns marker v.shelf name := by
    obtain ⟨-, shelf, hothers, hserves⟩ := hnow
    rw [hserves.eq_of_isCalm (by simp [IsCalm])]
    exact fun name hname => hnone name ((hspares.carries_iff hothers).2 hname)
  have hlabel : bundle.metadata.label? settings.markerLabel = some marker :=
    hbundle ▸ label?_newBundle _ _ _ _ _ _ _
  refine ⟨hv.toSound, fun answer u hanswer => ?_⟩
  obtain ⟨hu, hcarries⟩ := created_knows hspares hlabel hv hnone hanswer
  cases answer with
  | error failure => exact ⟨rfl, hu, by rintro _ ⟨⟩⟩
  | ok =>
    refine ⟨rfl, hu, ?_⟩
    rintro _ ⟨⟩
    exact hcarries rfl

/-- The bundle that a pass finds or makes carries the marker. -/
theorem ensureBundle_knows (hspares : Spares settings ns marker others)
    (hmarked : Marked settings ns marker first) {requestName : String} {inventory : Inventory}
    {names : Dict String} (hknows : Knows settings ns marker others start first request store) :
    Ensures (terms settings ns marker others start first)
      (Saga.ensureBundle settings ns requestName marker inventory names) request store
      fun outcome request' store' => request' = request ∧
        Knows settings ns marker others start first request store' ∧
        ∀ name, outcome = .ok name → Carries settings ns marker store'.shelf name := by
  refine Saga.ensures_ensureBundle hknows.toSound fun answer v hanswer => ?_
  have hv := (tells hspares).quiet hknows (by simp [IsCalm]) (by simp) hanswer
  rcases answer with failure | (_ | bundle)
  · exact ⟨rfl, hv, by rintro _ ⟨⟩⟩
  · exact makeBundle_knows hspares hv (not_carries_of_missing hmarked.selects hanswer)
  · refine ⟨rfl, hv, ?_⟩
    rintro _ ⟨⟩
    exact carries_of_found hmarked.selects hanswer

/-- Every pass goes on with what it knows. -/
theorem keeps (hspares : Spares settings ns marker others)
    (hmarked : Marked settings ns marker first) :
    Saga.SaveKeeps (terms settings ns marker others start first) settings
      (Knows settings ns marker others start first) where
  asks _ _ _ hknows _ := hknows.toSound
  quiet request w exchange v hknows hquiet hanswer :=
    (tells hspares).quiet hknows hquiet.ne_createBundle hquiet.ne_updateStatus hanswer
  write request status message w hknows hne hconditions _ := by
    have hwell := (hknows.all request hknows.held).2.wellFormed
    exact (tells hspares).writeStatus hknows fun now => .announced (hconditions ▸ hwell) hne now _
  finish request ns' marker' inventory names w hknows _ hns hmarker _ _ := by
    obtain ⟨hversion, hsays⟩ := hknows.all request hknows.held
    -- The bundle is looked for in the namespace and by the marker of the request.
    obtain rfl : ns = ns' := by
      rw [hversion.ns, hmarked.ns_eq] at hns
      exact Option.some.inj hns
    obtain rfl : marker = marker' := by
      rw [hversion.marker, hmarked.marker_eq] at hmarker
      exact Option.some.inj hmarker
    refine (ensureBundle_knows hspares hmarked hknows).bind ?_ fun _ _ _ h => h.1 ▸ h.2.1
    rintro bundleName _ v ⟨rfl, hv, hcarries⟩
    refine Activity.ensures_bind.2 ⟨hv.toSound, fun now u hnow => ?_⟩
    have hu := (tells hspares).clock hv hnow
    have hname : Carries settings ns marker u.shelf bundleName := by
      obtain ⟨-, shelf, hothers, hserves⟩ := hnow
      rw [hserves.eq_of_isCalm (by simp [IsCalm])]
      exact (hspares.carries_iff hothers).1 (hcarries bundleName rfl)
    refine (tells hspares).writeStatus hu fun now => .announced_saved ?_ hname now
    exact hsays.wellFormed

/-- At every moment of a run of a save, whatever fails and whichever versions its passes are given,
at most one bundle with the marker has been added, under a free name, and nothing else was done to
the bundles. Whenever a version says that it is saved, there is exactly one bundle with the marker,
and the current condition names it. -/
theorem sole_of_visits (hcomma : ',' ∉ settings.markerLabel.toList)
    (hequals : '=' ∉ settings.markerLabel.toList)
    (hname : ∀ name ∈ first.metadata.name, ',' ∉ name.toList) (hns : first.metadata.ns = some ns)
    (hmarker : first.marker? = some marker) (hmode : first.spec.mode = .save)
    (hstate : first.state ≠ .saved)
    (hwell : Conditions.WellFormed first.currentStatus.conditions)
    (hspares : Spares settings ns marker others)
    (hnone : ∀ name, ¬ Carries settings ns marker start name)
    (hvisits : Saga.Visits (surroundings first others) settings ⟨[first], start⟩ store) :
    History settings ns marker others start store.shelf ∧
    ∀ request ∈ store.versions, request.state = .saved →
      ∃ name, (∀ other, Carries settings ns marker store.shelf other ↔ other = name) ∧
        ∃ c, Conditions.current? request.currentStatus.conditions = some c ∧
          c.message = some ("Saved to Backup " ++ name) := by
  have hmarked : Marked settings ns marker first := ⟨hns, hmarker, fun metadata =>
    Settings.selects_markerSelector hcomma hequals (Request.comma_notMem_marker hname hmarker)⟩
  have hholds : Holds settings ns marker others start first store := by
    refine hvisits.invariant _ ⟨?_, .untouched .refl⟩ ?_ ?_
    · intro request hrequest
      obtain rfl := List.mem_singleton.1 hrequest
      exact ⟨.refl request, hwell, fun hsaved => absurd hsaved hstate⟩
    · rintro store store' hholds ⟨hedits, hothers⟩
      refine ⟨(hedits.all fun r hr => (hholds.all r hr).imp_right fun hsays => ?_).2,
        hholds.inv.trans hothers⟩
      exact hsays.mono fun name hname => (hspares.carries_iff hothers).1 hname
    · intro store request hholds hheld
      have hversion := (hholds.all request hheld).1
      exact ((keeps hspares hmarked).reconcile (hversion.mode.trans hmode) ⟨hholds, hheld⟩).mono
        fun _ _ _ h => h.toSound
  refine ⟨hholds.inv, fun request hrequest hsaved => ?_⟩
  obtain ⟨name, hcarries, hcurrent⟩ := (hholds.all request hrequest).2.told hsaved
  refine ⟨name, fun other => ⟨fun hother => ?_, ?_⟩, hcurrent⟩
  · exact hholds.inv.eq_of_carries hspares hnone hother hcarries
  · rintro rfl
    exact hcarries

/-! ## A run -/

/-- A request to save that is about to make its bundle. -/
def nightly : Request where
  metadata := { name := some "nightly", ns := some "cloud", creationTimestamp := some ⟨0, false⟩ }
  status := some { state := .saving }

/-- The bundles before the run: somebody else's has the name that the request would take first. -/
def stocked : Shelf :=
  Function.update (fun _ => .empty) "cloud"
    (.ofList [("nightly-0", { metadata := { name := some "nightly-0" } })])

/-- The first bundle that a selector selects, if it is stored under its own name. -/
def find (bundles : Dict Bundle) (selector : String) : Except Failure (Option Bundle) :=
  match bundles.entries.find? fun entry => Selector.selects selector entry.2.metadata with
  | none => .ok none
  | some (name, bundle) =>
    if name = bundle.anyName then .ok (some bundle) else .error (.api "not served")

/-- Serves bundles and a request in an empty namespace at some second. It may keep to itself that a
bundle was made. -/
def respond (seconds : Nat) (discreet : Bool) : (question : Query) → Store → question.Answer × Store
  | .clock, store => (({ seconds } : Instant), store)
  | .call (.listManaged _ _), store => ((.ok [] : Except Failure (List Resource)), store)
  | .call (.listConfigMaps _ _), store => ((.ok [] : Except Failure (List ConfigMap)), store)
  | .call (.listSecrets _ _), store => ((.ok [] : Except Failure (List Secret)), store)
  | .call (.findBundle ns selector), store => (find (store.shelf ns) selector, store)
  | .call (.createBundle ns bundle), store =>
    match Cluster.addOrFail (store.shelf ns) bundle.anyName bundle with
    | .error failure => ((.error failure : Except Failure Unit), store)
    | .ok bundles =>
      ((if discreet then .error (.api "timeout") else .ok () : Except Failure Unit),
        { store with shelf := Function.update store.shelf ns bundles })
  | .call (.updateStatus written), store =>
    ((.ok { nightly with status := written.status } : Except Failure Request),
      { store with versions := { nightly with status := written.status } :: store.versions })
  | .call c, store => ((.error (.api "not served") : Except Failure c.Answer), store)

/-- Nobody else touches the bundles. -/
def nobody : Shelf → Shelf → Prop := fun _ _ => False

theorem serves_find (shelf : Shelf) (ns selector : String) :
    Serves shelf ⟨.call (.findBundle ns selector), find (shelf ns) selector⟩ shelf := by
  rw [find]
  split
  case h_1 hnone =>
    refine .missing fun name bundle hstored hselected => ?_
    have hall := List.find?_eq_none.1 hnone (name, bundle) (Dict.mem_entries_iff.2 hstored)
    exact hall hselected
  case h_2 name bundle hfind =>
    split
    case isTrue hname =>
      subst hname
      have hselected := List.find?_some hfind
      exact .found (Dict.mem_entries_iff.1 (List.mem_of_find?_eq_some hfind)) hselected
    case isFalse => exact .failed _

theorem answers_respond (seconds : Nat) (discreet : Bool) (question : Query) (store : Store) :
    (surroundings nightly nobody).answers store
      ⟨question, (respond seconds discreet question store).1⟩
      (respond seconds discreet question store).2 := by
  cases question with
  | clock => exact ⟨⟨_, .none, .other (by simp)⟩, _, .refl, .other (by simp) (by simp [IsCalm])⟩
  | call c =>
    cases c with
    | updateStatus written =>
      refine ⟨⟨_, .none, .stored rfl ⟨rfl, rfl, rfl, rfl⟩⟩, _, .refl, ?_⟩
      exact .other (by simp) (by simp [IsCalm])
    | findBundle ns selector =>
      exact ⟨⟨_, .none, .other (by simp)⟩, _, .refl, serves_find _ _ _⟩
    | createBundle ns bundle =>
      rw [respond]
      split
      case h_1 failure _ => exact ⟨⟨_, .none, .other (by simp)⟩, _, .refl, .failed failure⟩
      case h_2 bundles hadded =>
        refine ⟨⟨_, .none, .other (by simp)⟩, _, .refl, ?_⟩
        cases discreet with
        | true => exact .hidden _ hadded
        | false => exact .created hadded
    | _ => exact ⟨⟨_, .none, .other (by simp)⟩, _, .refl, .other (by simp) (by simp [IsCalm])⟩

/-- A pass over the newest version. -/
def turn (seconds : Nat) (discreet : Bool) (store : Store) : List Exchange × Store :=
  let request := store.versions.headD nightly
  ((Saga.reconcile {} request).transcript (respond seconds discreet) store,
    ((Saga.reconcile {} request).run (respond seconds discreet) store).2)

/-- The name is taken at first; then a bundle is made, but the pass is not told so; then the bundle is
found. -/
def turns : List (List Exchange) × Store :=
  let first := turn 0 false ⟨[nightly], stocked⟩
  let second := turn 1 true first.2
  let third := turn 2 false second.2
  ([first.1, second.1, third.1], third.2)

theorem runs_turns :
    Saga.Runs (surroundings nightly nobody) {} ⟨[nightly], stocked⟩ turns.1 turns.2 := by
  refine ((Saga.Runs.start.pass_transcript (answers_respond _ _) ⟨.none, .refl⟩ ?_).pass_transcript
    (answers_respond _ _) ⟨.none, .refl⟩ ?_).pass_transcript (answers_respond _ _)
    ⟨.none, .refl⟩ ?_
  all_goals
    change List.headD _ _ ∈ _
    decide +kernel

/-- In the end there are two bundles, and the request names its own. -/
theorem turns_sole :
    turns.2.versions.map (·.state) = [.saved, .saving] ∧
    (turns.2.shelf "cloud").keys = ["nightly-0", "nightly-1"] ∧
    History {} "cloud" "nightly-0" nobody stocked turns.2.shelf ∧
    ∀ request ∈ turns.2.versions, request.state = .saved →
      ∃ name, (∀ other, Carries {} "cloud" "nightly-0" turns.2.shelf other ↔ other = name) ∧
        ∃ c, Conditions.current? request.currentStatus.conditions = some c ∧
          c.message = some ("Saved to Backup " ++ name) := by
  have hnone : ∀ name, ¬ Carries {} "cloud" "nightly-0" stocked name := by
    have hentries : ∀ entry ∈ (stocked "cloud").entries,
        entry.2.metadata.label? ({} : Settings).markerLabel ≠ some "nightly-0" := by
      decide +kernel
    rintro name ⟨bundle, hstored, hlabel⟩
    exact hentries _ (Dict.mem_entries_iff.2 hstored) hlabel
  refine ⟨by decide +kernel, by decide +kernel, ?_⟩
  refine sole_of_visits (by decide) (by decide) (by decide) rfl (by decide +kernel) rfl (by decide)
    ⟨by decide, by decide⟩ nofun hnone (.between runs_turns ⟨.none, .refl⟩)

end NamespaceBackup.SoleBundle
