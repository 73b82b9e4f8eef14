import NamespaceBackup.Proofs.Missing
import NamespaceBackup.Proofs.Versions

/-!
# Bundles with images can be restored

A save that includes images makes its bundle only when every member of every captured set of
machines has a snapshot, whatever was recorded in earlier passes and however the sets change from
pass to pass. If nothing was recorded when the request was made, the snapshots are named for their
machines. So a restore from the bundle finds the snapshot of every machine.

## Main definitions

* `Restorable.IsNamed`: snapshots that were recorded before, or that are named for their machines
* `Restorable.surroundings`: passes over a request to save with images

## Main results

* `Restorable.keeps`: what a pass keeps and what it makes bundles of
* `Restorable.restorable_of_asked`: a bundle that a save makes covers its machines, and no restore
  from it misses a snapshot
-/

namespace NamespaceBackup.Restorable

open Activity (Ensures)
open Versions (Held IsCalm Sound Tells)

variable {settings : Settings} {first request : Request} {names : Dict String}
  {transcripts : List (List Exchange)} {versions : List Request} {earlier before : List Exchange}

/-- A version of a request that includes images. -/
def IsImaged (first request : Request) : Prop :=
  first.IsVersionOf request ∧ request.spec.includeImages = true

/-- Snapshots that a request started with, or that are named for their machines and the marker of
the request. -/
def IsNamed (first : Request) (names : Dict String) : Prop :=
  ∀ machine name, names.find? machine = some name →
    first.currentStatus.snapshotNames.find? machine = some name ∨
      ∃ marker, first.marker? = some marker ∧ name = machine ++ "-" ++ marker

theorem IsNamed.grown (h : IsNamed first request.currentStatus.snapshotNames)
    (hmarker : request.marker? = first.marker?) (hgrown : Saga.Grown request names) :
    IsNamed first names := by
  intro machine name hname
  rcases hgrown machine name hname with hold | ⟨marker, hrequest, heq⟩
  · exact h machine name hold
  · exact .inr ⟨marker, hmarker ▸ hrequest, heq⟩

/-- Passes over a request to save with images, each given any version of it. -/
abbrev surroundings (first : Request) : Saga.Surroundings (List Request) :=
  Versions.surroundings (IsImaged first)

/-- What may be asked if every bundle covers its machines, under snapshots of known names. -/
def Asks (first : Request) (question : Query) : Prop :=
  ∀ ns (bundle : Bundle), question = .call (.createBundle ns bundle) →
    bundle.content.Covers ∧ IsNamed first bundle.content.snapshotNames

/-- The terms on which a pass is held, with a record of what was exchanged. -/
abbrev terms (first : Request) : Terms Query Query.Answer (List Request × List Exchange) where
  asks _ := Asks first
  answers := (surroundings first).answers.recorded

/-- What a pass knows: its copy is a version, and all versions have snapshots of known names. -/
abbrev Knows (first request : Request) (w : List Request × List Exchange) : Prop :=
  Held Prod.fst (IsImaged first) (fun _ status => IsNamed first status.snapshotNames)
    (fun _ => True) request w

theorem tells (first : Request) :
    Tells (terms first) Prod.fst (IsImaged first)
      (fun _ status => IsNamed first status.snapshotNames) fun _ => True where
  asks _ _ _ hcalm ns bundle heq := absurd heq (hcalm ns bundle)
  answers _ _ _ hanswer := hanswer.1
  kept _ _ _ _ _ _ := ⟨trivial, fun _ h => h⟩

theorem Knows.answered {w v : List Request × List Exchange} {exchange : Exchange}
    (h : Knows first request w) (hanswer : (terms first).answers w exchange v)
    (hunwritten : ∀ written, exchange.1 ≠ .call (.updateStatus written)) : Knows first request v :=
  Held.answered h hanswer.1 trivial (fun _ hstatus => hstatus) hunwritten

/-- A bundle is made of a covered inventory only. -/
theorem ensureBundle_knows {w : List Request × List Exchange} {ns marker : String}
    {inventory : Inventory} (hknows : Knows first request w) (hnamed : IsNamed first names)
    (hcovers : (inventory.toBundle names).Covers) :
    Ensures (terms first)
      (Saga.ensureBundle settings ns request.anyName marker inventory names) request w
      fun _ request' v => request' = request ∧ Knows first request v := by
  refine (Saga.ensureBundle_asks settings ns _ marker inventory names).preserves
    (Knows first request) ?_ ?_ hknows
  · rintro w _ - (_ | _ | seconds) ns' bundle heq
    · cases heq
    · cases heq
    · cases heq
      exact ⟨hcovers, hnamed⟩
  · rintro w exchange v hw hbundling hanswer
    refine hw.answered hanswer fun written heq => ?_
    rw [heq] at hbundling
    cases hbundling

/-- Every pass goes on with snapshots of known names and makes its bundle of a covered inventory. -/
theorem keeps (settings : Settings) (first : Request) :
    Saga.SaveKeeps (terms first) settings (Knows first) where
  asks request w question hknows hquiet ns bundle heq :=
    absurd heq (hquiet.ne_createBundle ns bundle)
  quiet request w exchange v hknows hquiet hanswer :=
    hknows.answered hanswer hquiet.ne_updateStatus
  write request status message w hknows _ _ hgrown := by
    obtain ⟨⟨hversion, -⟩, hnamed⟩ := hknows.all request hknows.held
    exact (tells first).writeStatus hknows fun now => hnamed.grown hversion.marker hgrown
  finish request ns marker inventory names w hknows _ _ _ hgrown hcovers := by
    obtain ⟨⟨hversion, himages⟩, hnamed⟩ := hknows.all request hknows.held
    have hnames : IsNamed first names := hnamed.grown hversion.marker hgrown
    refine (ensureBundle_knows hknows hnames (hcovers himages)).bind ?_ fun _ _ _ h => h.1 ▸ h.2
    rintro bundleName request' v ⟨rfl, hv⟩
    refine Activity.ensures_bind.2 ⟨by simp [Asks], fun now u hnow => ?_⟩
    exact (tells first).writeStatus (hv.answered hnow (by simp)) fun _ => hnames

/-- A pass keeps what is known of all versions. -/
theorem reconcile_knows (hmode : first.spec.mode = .save) {w : List Request × List Exchange}
    (hknows : Knows first request w) :
    Ensures (terms first) (Saga.reconcile settings) request w fun _ _ v =>
      Sound Prod.fst (IsImaged first) (fun _ status => IsNamed first status.snapshotNames)
        (fun _ => True) v := by
  obtain ⟨⟨hversion, -⟩, -⟩ := hknows.all request hknows.held
  exact ((keeps settings first).reconcile (hversion.mode.trans hmode) hknows).mono
    fun _ _ _ h => h.toSound

/-- If there were no snapshots at the start, all are named for their machines. -/
theorem IsNamed.of_empty (h : IsNamed first names)
    (hnone : first.currentStatus.snapshotNames = .empty) {machine name : String}
    (hname : names.find? machine = some name) :
    ∃ marker, first.marker? = some marker ∧ name = machine ++ "-" ++ marker :=
  (h machine name hname).resolve_left (by simp [hnone])

/-- Two snapshots that are named for their machines are of one machine if they are the same. -/
theorem IsNamed.injective (h : IsNamed first names)
    (hnone : first.currentStatus.snapshotNames = .empty) {a b name : String}
    (ha : names.find? a = some name) (hb : names.find? b = some name) : a = b := by
  obtain ⟨marker, hmarker, rfl⟩ := h.of_empty hnone ha
  obtain ⟨marker', hmarker', heq⟩ := h.of_empty hnone hb
  obtain rfl : marker = marker' := Option.some.inj (hmarker.symm.trans hmarker')
  -- The names end in the same text, so they start with the same one.
  have hlist := congrArg String.toList heq
  exact String.toList_inj.1 (by simpa using hlist)

/-- A bundle that is made in a run of a save with images covers the machines of its sets. If no
snapshot was recorded when the request was made, each is named for its machine, and no two machines
share one. No pass of a restore from the bundle fails because a machine has no snapshot. -/
theorem restorable_of_asked (hmode : first.spec.mode = .save)
    (himages : first.spec.includeImages = true)
    (hrun : Saga.Runs (surroundings first) settings [first] transcripts versions) {ns : String}
    {bundle : Bundle}
    (hasked : Saga.Asked transcripts earlier before (.call (.createBundle ns bundle))) :
    bundle.content.Covers ∧
    (first.currentStatus.snapshotNames = .empty →
      (∀ machine name, bundle.content.snapshotNames.find? machine = some name →
        ∃ marker, first.marker? = some marker ∧ name = machine ++ "-" ++ marker) ∧
      ∀ a b name, bundle.content.snapshotNames.find? a = some name →
        bundle.content.snapshotNames.find? b = some name → a = b) ∧
    ∀ (settings : Settings) (request : Request) (transcript : List Exchange)
      (outcome : Except Failure Action × Request), request.spec.mode.isRestore = true →
      Dialogue.Yields (Saga.reconcile settings request) transcript outcome →
      (∀ exchange ∈ transcript, Saga.Hears bundle.content exchange) →
      ∀ failure, outcome.1 = .error failure → ¬ Imaging.IsMissing failure := by
  have hstart : Sound Prod.fst (IsImaged first) (fun _ status => IsNamed first status.snapshotNames)
      (fun _ => True) (([first], []) : List Request × List Exchange) := by
    refine ⟨fun r hr => ?_, trivial⟩
    obtain rfl := List.mem_singleton.1 hr
    exact ⟨⟨.refl r, himages⟩, fun machine name hname => .inl hname⟩
  obtain ⟨_, hasks⟩ := hrun.asked
    (fun _ versions => ∀ r ∈ versions, IsImaged first r ∧
      IsNamed first r.currentStatus.snapshotNames)
    (fun _ _ => Asks first) hstart.all
    (fun _ _ _ hall hedits =>
      (hedits.all (Q := fun status => IsNamed first status.snapshotNames) hall).2)
    (fun _ versions request hall hheld => (reconcile_knows hmode (w := (versions, []))
      ⟨⟨hall, trivial⟩, hheld⟩).mono fun _ _ _ h => h.all) hasked
  obtain ⟨hcovers, hnamed⟩ := hasks ns bundle rfl
  refine ⟨hcovers, fun hnone => ⟨fun machine name => hnamed.of_empty hnone,
    fun a b name => hnamed.injective hnone⟩, ?_⟩
  intro settings request transcript outcome hrestore hyields hhears
  exact Saga.reconcile_spares hcovers hrestore hyields hhears

/-! ## A run -/

/-- A request to save with images that is about to take them. -/
def nightly : Request where
  metadata := { name := some "nightly", ns := some "cloud", creationTimestamp := some ⟨0, false⟩ }
  spec := { includeImages := true }
  status := some { state := .saving }

/-- A set of machines that form no cluster. -/
def machineSet (members : List String) : Resource where
  fields := .ofList [("status", .object [("vmHosts", .object (members.map (·, .object [])))])]

/-- The marker of a machine whose image has been taken. -/
def readyMarker (machine : String) : Resource where
  metadata := { name := some (machine ++ "-nightly-0") }
  fields := .ofList [("status", .object [("readyToUse", .bool true)])]

/-- A pass over the newest version, in which some sets of machines are listed and the markers of
those machines that are ready. -/
def turn (sets : List (List String)) (ready : List String) (versions : List Request) :
    List Exchange × List Request :=
  Versions.turn nightly (fun kind => if kind = .vmSet then sets.map machineSet else [])
    (ready.map readyMarker) versions

/-- In the first pass one of two machines is ready; before the second pass the other one gets ready
and a second set is made, of which it is a member too. -/
def turns : List (List Exchange) × List Request :=
  let first := turn [["vm-0", "vm-1"]] ["vm-0"] [nightly]
  let second := turn [["vm-0", "vm-1"], ["vm-1", "vm-2"]] ["vm-0", "vm-1", "vm-2"] first.2
  ([first.1, second.1], second.2)

/-- The bundle that is made in the second pass. -/
def nightlyBundle : Bundle :=
  Saga.newBundle {} "cloud" "nightly" "nightly-0" "nightly-0"
    { resources := .ofList [("VmSet",
        [machineSet ["vm-0", "vm-1"], machineSet ["vm-1", "vm-2"]])] }
    (.ofList [("vm-0", "vm-0-nightly-0"), ("vm-1", "vm-1-nightly-0"), ("vm-2", "vm-2-nightly-0")])

theorem runs_turns : Saga.Runs (surroundings nightly) {} [nightly] turns.1 turns.2 := by
  have hfirst : ∀ status, IsImaged nightly { nightly with status } :=
    fun _ => ⟨⟨rfl, rfl, rfl, rfl⟩, rfl⟩
  refine Versions.runs_turn hfirst (Versions.runs_turn hfirst .start ?_ _ _) ?_ _ _
  · exact List.mem_singleton.2 rfl
  · change List.headD (turn [["vm-0", "vm-1"]] ["vm-0"] [nightly]).2 nightly ∈ _
    decide +kernel

/-- The bundle has the snapshots of all three machines. -/
theorem nightlyBundle_restorable :
    (∃ earlier before,
      Saga.Asked turns.1 earlier before (.call (.createBundle "cloud" nightlyBundle))) ∧
    nightlyBundle.content.Covers ∧
    (∀ a b name, nightlyBundle.content.snapshotNames.find? a = some name →
      nightlyBundle.content.snapshotNames.find? b = some name → a = b) ∧
    ∀ (request : Request) (transcript : List Exchange)
      (outcome : Except Failure Action × Request), request.spec.mode.isRestore = true →
      Dialogue.Yields (Saga.reconcile {} request) transcript outcome →
      (∀ exchange ∈ transcript, Saga.Hears nightlyBundle.content exchange) →
      ∀ failure, outcome.1 = .error failure → ¬ Imaging.IsMissing failure := by
  have hmem : (.call (.createBundle "cloud" nightlyBundle)) ∈
      turns.1.flatten.map fun exchange => exchange.1 := by
    decide +kernel
  obtain ⟨earlier, before, hasked⟩ := Saga.exists_asked_of_mem hmem
  obtain ⟨hcovers, hnamed, hrestores⟩ := restorable_of_asked rfl rfl runs_turns hasked
  exact ⟨⟨earlier, before, hasked⟩, hcovers, (hnamed rfl).2, hrestores {}⟩

end NamespaceBackup.Restorable
