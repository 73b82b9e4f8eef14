import NamespaceBackup.Proofs.Record

/-!
# Which machine a restore is for

A restore marker is recognized by the snapshot that it restores from, not by the machine that it is
for. That is the same as long as the bundle has a snapshot of its own for every machine and the
markers are those that restore each machine from its own. If a bundle gives one snapshot to two
machines, the restore of one passes for that of the other, and the other is recorded without having
been restored.

## Main definitions

* `Imaging.Targets`: a marker restores a machine
* `Imaging.Fits`: a marker restores some machine from the snapshot that a bundle has of it

## Main results

* `Sharing.targets_or_shared`: a machine is recorded on the strength of a restore of its own, unless
  its snapshot is shared or the marker is none of the bundle's
-/

namespace NamespaceBackup

namespace Imaging

variable {names : Dict String} {marker : Resource} {machine name name' : String}

/-- A marker restores a machine. -/
def Targets (marker : Resource) (machine : String) : Prop :=
  marker.at? ["spec", "target", "name"] = some (.str machine)

instance (marker : Resource) (machine : String) : Decidable (Targets marker machine) :=
  inferInstanceAs (Decidable (_ = _))

/-- A marker restores some machine from the snapshot that a bundle has of it. -/
def Fits (names : Dict String) (marker : Resource) : Prop :=
  ∃ machine name, names.find? machine = some name ∧
    MarkerKind.restore.isFor marker name = true ∧ Targets marker machine

/-- A marker restores from one snapshot. -/
theorem isFor_restore_unique (h : MarkerKind.restore.isFor marker name = true)
    (h' : MarkerKind.restore.isFor marker name' = true) : name = name' := by
  simp only [MarkerKind.isFor, decide_eq_true_eq] at h h'
  rw [h] at h'
  simpa using h'

/-- A marker of a bundle that has a snapshot for one machine only restores that machine. -/
theorem Fits.targets (h : Fits names marker) (hfor : MarkerKind.restore.isFor marker name = true)
    (hsole : ∀ other, names.find? other = some name → other = machine) : Targets marker machine := by
  obtain ⟨other, name', hother, hfor', htargets⟩ := h
  obtain rfl := isFor_restore_unique hfor hfor'
  rwa [← hsole other hother]

end Imaging

namespace Sharing

open Imaging (Fits Targets)
open Ledger (lossy serve)

variable {settings : Settings} {first given written : Request} {earlier before : List Exchange}
  {machine name : String}

/-- Whoever is newly recorded when a restore writes a status has a restore that is complete and is
from the snapshot that the bundle has of it. The restore is its own, unless it is none of those that
the bundle asks for, or the bundle gives the snapshot to another machine too. -/
theorem targets_or_shared (hempty : first.currentStatus.snapshotNames = .empty)
    (hrestore : given.spec.mode.isRestore = true)
    (hasked : Saga.AskedOver lossy settings [first] given (.call (.updateStatus written)) earlier
      before)
    (hnew : given.currentStatus.snapshotNames.find? machine ≠ some name)
    (hadded : written.currentStatus.snapshotNames.find? machine = some name) :
    ∃ ns text bundle markers, given.metadata.ns = some ns ∧ given.marker? = some text ∧
      ⟨.call (.getBundle ns (given.spec.restoreSource.getD "")),
        (.ok (some bundle) : Except Failure (Option Bundle))⟩ ∈ before ∧
      ⟨.call (.listMarkers ns .restore (settings.markerSelector text)),
        (.ok markers : Except Failure (List Resource))⟩ ∈ before ∧
      bundle.content.snapshotNames.find? machine = some name ∧
      ∃ marker ∈ markers, MarkerKind.restore.isReady marker = true ∧
        MarkerKind.restore.isFor marker name = true ∧
        (Targets marker machine ∨ ¬ Fits bundle.content.snapshotNames marker ∨
          ∃ other, other ≠ machine ∧ bundle.content.snapshotNames.find? other = some name) := by
  have hbacked := Ledger.backed_of_asked hempty hasked
  obtain ⟨_, _, _, _, hoccasion, hvouched⟩ := (hbacked machine name hadded).resolve_left hnew
  cases hoccasion with
  | save hmode =>
    rw [hmode] at hrestore
    cases hrestore
  | @restore ns text bundle _ hns htext hbundle =>
    obtain ⟨markers, hlisted, marker, hmarker, hfor, hready⟩ := hvouched.marked
    have hname : bundle.content.snapshotNames.find? machine = some name := by
      have hnamed := hvouched.named
      rw [Imaging.snapshotName] at hnamed
      split at hnamed
      case h_1 hfind =>
        cases hnamed
        exact hfind
      case h_2 => cases hnamed
    refine ⟨ns, text, bundle, markers, hns, htext, hbundle, hlisted, hname, marker, hmarker, hready,
      hfor, ?_⟩
    -- Markers are told apart by their snapshots alone, which settles it for a snapshot of one machine.
    by_cases hfits : Fits bundle.content.snapshotNames marker
    · by_cases hsole : ∀ other, bundle.content.snapshotNames.find? other = some name →
          other = machine
      · exact .inl (hfits.targets hfor hsole)
      · push Not at hsole
        obtain ⟨other, hother, hne⟩ := hsole
        exact .inr (.inr ⟨other, hne, hother⟩)
    · exact .inr (.inl hfits)

/-! ## A bundle with one snapshot for two machines -/

/-- A set of two machines. -/
def pair : Resource where
  metadata := { name := some "pair" }
  fields := .ofList [("status", .object [("vmHosts", .object [("vm-0", .object []),
    ("vm-1", .object [])])])]

/-- A bundle that names the same snapshot for both. -/
def pairBundle : Bundle where
  metadata := { name := some "nightly" }
  content :=
    { resources := .ofList [(ManagedKind.vmSet.name, [pair])]
      snapshotNames := .ofList [("vm-0", "image"), ("vm-1", "image")] }

/-- A request to restore from it. -/
def pairRequest : Request where
  metadata := { name := some "undo", ns := some "cloud", creationTimestamp := some ⟨0, false⟩ }
  spec := { mode := .restore, includeImages := true, restoreSource := some "nightly" }
  status := some { state := .loading }

/-- The restore of the first machine, which is complete. -/
def pairMarker : Resource where
  metadata := { name := some "vm-0-undo-0" }
  fields := .ofList [("spec", .object [("target", .object [("name", .str "vm-0")]),
      ("virtualMachineSnapshotName", .str "image")]),
    ("status", .object [("complete", .bool true)])]

/-- Has the bundle, loads whatever is asked, and lists the restore of the first machine. -/
def pairServe : (question : Query) → Ledger → question.Answer × Ledger
  | .call (.getBundle _ _), ledger =>
    ((.ok (some pairBundle) : Except Failure (Option Bundle)), ledger)
  | .call (.applyManaged _ _ _), ledger => ((.ok () : Except Failure Unit), ledger)
  | .call (.patchManagedStatus _ _ _ _), ledger => ((.ok () : Except Failure Unit), ledger)
  | question, ledger => serve pairRequest (fun _ => []) [pairMarker] question ledger

theorem answers_pairServe (question : Query) (ledger : Ledger) :
    lossy.answers ledger ⟨question, (pairServe question ledger).1⟩
      (pairServe question ledger).2 := by
  have hserve := Ledger.answers_serve pairRequest (fun _ => []) [pairMarker] question ledger
  cases question with
  | clock => exact hserve
  | call c =>
    cases c with
    | getBundle | applyManaged | patchManagedStatus =>
      exact ⟨ledger, .none, Ledger.Answers.loses (.other (by simp))⟩
    | _ => exact hserve

/-- A status is written in which the second machine is recorded. -/
def isRecording : Query → Bool
  | .call (.updateStatus written) =>
    written.currentStatus.snapshotNames.find? "vm-1" = some "image"
  | _ => false

theorem exists_of_isRecording {question : Query} (h : isRecording question = true) :
    ∃ written, question = .call (.updateStatus written) ∧
      written.currentStatus.snapshotNames.find? "vm-1" = some "image" := by
  unfold isRecording at h
  split at h
  · exact ⟨_, rfl, of_decide_eq_true h⟩
  · cases h

/-- No marker that was listed restores the second machine. -/
def isWithout : Exchange → Bool
  | ⟨.call (.listMarkers _ _ _), (.ok markers : Except Failure (List Resource))⟩ =>
    markers.all fun marker => ¬ Targets marker "vm-1"
  | _ => true

/-- The second machine is recorded although none of the restores is for it: the bundle gives its
snapshot to the first one too. -/
theorem recorded_for_other :
    ∃ written earlier before,
      Saga.AskedOver lossy {} [pairRequest] pairRequest (.call (.updateStatus written)) earlier
        before ∧
      pairRequest.currentStatus.snapshotNames.find? "vm-1" ≠ some "image" ∧
      written.currentStatus.snapshotNames.find? "vm-1" = some "image" ∧
      ∃ ns selector markers, ⟨.call (.listMarkers ns .restore selector),
          (.ok markers : Except Failure (List Resource))⟩ ∈ before ∧
        ∃ marker ∈ markers, MarkerKind.restore.isReady marker = true ∧
          MarkerKind.restore.isFor marker "image" = true ∧ ¬ Targets marker "vm-1" := by
  have hnew : pairRequest.currentStatus.snapshotNames.find? "vm-1" ≠ some "image" := by decide
  have hany : ((Saga.reconcile {} pairRequest).transcript pairServe [pairRequest]).any
      (isRecording ·.1) = true := by decide +kernel
  have hwithout : ((Saga.reconcile {} pairRequest).transcript pairServe [pairRequest]).all
      isWithout = true := by decide +kernel
  have hrun : Saga.Runs lossy {} [pairRequest] [] [pairRequest] := .start
  obtain ⟨question, before, answer, after, hquestion, hsplit, hasked⟩ := hrun.exists_askedOver
    answers_pairServe .none (List.mem_singleton_self pairRequest) hany
  obtain ⟨written, rfl, hadded⟩ := exists_of_isRecording hquestion
  obtain ⟨ns, text, bundle, markers, -, -, -, hlisted, -, marker, hmarker, hready, hfor, -⟩ :=
    targets_or_shared rfl rfl hasked hnew hadded
  have hspared : ¬ Targets marker "vm-1" := by
    rw [hsplit, List.all_append, Bool.and_eq_true] at hwithout
    have hall := List.all_eq_true.1 hwithout.1 _ hlisted
    exact of_decide_eq_true (List.all_eq_true.1 hall marker hmarker)
  exact ⟨written, _, before, hasked, hnew, hadded, ns, _, markers, hlisted, marker, hmarker, hready,
    hfor, hspared⟩

end Sharing

end NamespaceBackup
