import NamespaceBackup.Proofs.Failures
import NamespaceBackup.Proofs.PassInvariant
import NamespaceBackup.Proofs.Recording
import NamespaceBackup.Proofs.Versions

/-!
# Machines that join their cluster again

A machine that has left its cluster is powered on again and should join again before it counts as
recorded. That it has left is remembered nowhere: every pass asks anew whether its cluster is
fenced, by what the control plane and the sets of machines say by then. A pass that finds it fenced
records the machine only once it has joined. A pass that does not, because something was changed in
the meantime, records it as soon as it runs, and leaves it out of its cluster.

## Main definitions

* `Rejoining.Back`: a machine is in its cluster, whatever happened before
* `Rejoining.Unfences`: an answer by which the cluster of a machine is not fenced
* `Rejoining.Kept`: whoever is recorded is back

## Main results

* `Imaging.runMachine_settles`: a machine at an address is finished once it has joined
* `Rejoining.runPass_kept`, `Rejoining.keeps`: the invariant of every pass that finds the cluster
  fenced
* `Rejoining.not_out_or_unfences`: whoever is recorded in a run has joined again, or the pass found
  that its cluster is not fenced
-/

namespace NamespaceBackup

open Activity (Asks Ensures)
open NamespaceBackup.Membership (Concerns Orders Settles Out)

namespace Imaging

variable {σ ω : Type} {T : Terms Query Query.Answer ω} {settings : Settings} {request : Request}
  {task : Task} {machine name address : String} {markers : List Resource} {s : σ} {w : ω}

/-- The last exchange before a moment settled that a machine joins its cluster. -/
def Joined (T : Terms Query Query.Answer ω) (user machine : String) (v : ω) : Prop :=
  ∃ u exchange, T.answers u exchange v ∧ Settles user .start machine exchange

theorem finishMachine_settles
    (hasks : ∀ w question, IsReturning settings request machine question → T.asks w question)
    (hblank : ' ' ∉ address.toList) (markerReady : Bool) :
    Ensures T (finishMachine settings request machine markerReady (some address)) s w
      fun outcome s' v => s' = s ∧ (outcome = .ok true → Joined T settings.adminUser machine v) := by
  refine ensures_finishMachine (fun _ => True) (fun w _ => ⟨hasks w _ .read, fun _ _ _ => trivial⟩)
    (fun w _ => ⟨hasks w _ .powerOn, fun _ _ _ => trivial⟩)
    (fun _ _ _ hne => ⟨rfl, fun houtcome => absurd houtcome hne⟩) (fun w _ => ?_) trivial
  -- A machine that runs is finished once it has joined.
  refine (Membership.apply_ensures hblank (hasks w _ (.command hblank .start))).mono ?_
  rintro outcome s' v ⟨rfl, exchange, hanswers, -, hsettles, -⟩
  exact ⟨rfl, fun houtcome => ⟨w, exchange, hanswers, hsettles houtcome⟩⟩

/-- A machine with an address, which is to join its cluster again, is finished only once it has. -/
theorem runMachine_settles
    (hasks : ∀ w question, IsHandling settings request task [machine] question → T.asks w question)
    (hname : snapshotName request task machine = .ok name) (hblank : ' ' ∉ address.toList) :
    Ensures T (runMachine settings request task markers machine name (some address)) s w
      fun outcome s' v => s' = s ∧ (outcome = .ok true → Joined T settings.adminUser machine v) := by
  have hmachine : machine ∈ [machine] := List.mem_singleton_self machine
  rw [runMachine]
  split
  · exact finishMachine_settles (fun w question h => hasks w question (h.isHandling hmachine))
      hblank _
  · -- A machine without a marker is never finished in this pass.
    have hstart : Ensures T (startMachine settings request task machine name (some address)) s w
        fun _ s' _ => s' = s :=
      ((startMachine_asks hmachine hname (by simpa using hblank)).preserves (fun _ => True)
        (fun w question _ h => hasks w question h) (fun _ _ _ _ _ _ => trivial) trivial).mono
        fun _ _ _ h => h.1
    exact hstart.bind (fun _ _ _ h => ⟨h, by simp⟩) fun _ _ _ h => ⟨h, by simp⟩

end Imaging

namespace Rejoining

variable {settings : Settings} {user node : String} {journal earlier before : List Exchange}
  {exchange : Exchange} {names recorded : Dict String}

/-- A machine has joined its cluster, whatever was exchanged before, and has not left again. -/
def Back (user node : String) (journal : List Exchange) : Prop :=
  ∀ earlier, ¬ Out user node (earlier ++ journal)

theorem back_of_settles (h : Settles user .start node exchange) :
    Back user node (journal ++ [exchange]) := by
  intro earlier hout
  rw [← List.append_assoc] at hout
  rcases Membership.out_concat.1 hout with hstop | ⟨-, hnot⟩
  · exact nomatch (hstop.orders.unique h.orders).1
  · exact hnot h

theorem Back.concat (h : Back user node journal) (hstop : ¬ Orders user .stop node exchange.1) :
    Back user node (journal ++ [exchange]) := by
  intro earlier hout
  rw [← List.append_assoc] at hout
  rcases Membership.out_concat.1 hout with hleaves | ⟨hout, -⟩
  · exact hstop hleaves.orders
  · exact h earlier hout

/-! ## Whether a cluster is fenced -/

/-- An answer by which the cluster of a machine is not fenced: the first control plane, if there is
one, does not ask for it, or a set with the machine is too small. -/
inductive Unfences (node : String) : Exchange → Prop
  | plane {ns : String} {planes : List Resource} (h : Saga.isFencing planes.head? = false) :
    Unfences node
      ⟨.call (.listManaged ns .controlPlane), (.ok planes : Except Failure (List Resource))⟩
  | small {ns : String} {sets : List Resource} {set : Resource} (hset : set ∈ sets)
    (hmember : node ∈ MachineSet.members set)
    (hsize : MachineSet.size set < Imaging.minFencedSize) :
    Unfences node ⟨.call (.listManaged ns .vmSet), (.ok sets : Except Failure (List Resource))⟩

/-- What may be listed if the cluster of a machine is fenced. -/
def Listed (node : String) (kind : ManagedKind) (objects : List Resource) : Prop :=
  ∃ ns, ¬ Unfences node
    ⟨.call (.listManaged ns kind), (.ok objects : Except Failure (List Resource))⟩

theorem isFenced_of_listed {sets planes : List Resource} {set : Resource}
    (hsets : Listed node .vmSet sets) (hplanes : Listed node .controlPlane planes)
    (hset : set ∈ sets) (hmember : node ∈ MachineSet.members set) :
    Imaging.isFenced (Saga.isFencing planes.head?) set = true := by
  obtain ⟨ns, hsets⟩ := hsets
  obtain ⟨ns', hplanes⟩ := hplanes
  have hfencing : Saga.isFencing planes.head? = true := by
    by_contra h
    exact hplanes (.plane (by simpa using h))
  have hsize : Imaging.minFencedSize ≤ MachineSet.size set := by
    by_contra h
    exact hsets (.small hset hmember (by omega))
  rw [Imaging.isFenced, hfencing, Bool.true_and, decide_eq_true hsize]

/-- What is answered in a pass that finds the cluster of a machine fenced. A status that is stored
is the one that was written. -/
structure Hears (node : String) (exchange : Exchange) : Prop where
  fenced : ¬ Unfences node exchange
  echoed : ∀ written stored : Request, exchange =
    ⟨.call (.updateStatus written), (.ok stored : Except Failure Request)⟩ →
    stored.status = written.status

/-- The terms of such a pass, with a record of what was exchanged in it: it records the machine only
when it is back. -/
abbrev terms (user node : String) : Terms Query Query.Answer (Unit × List Exchange) where
  asks state question := ∀ written, question = .call (.updateStatus written) →
    written.currentStatus.snapshotNames.contains node = true → Back user node state.2
  answers := (Activity.hearing (Hears node)).answers.recorded

variable {state state' : Unit × List Exchange}

theorem asks_of_ne {question : Query} (h : ∀ written, question ≠ .call (.updateStatus written))
    (state : Unit × List Exchange) : (terms user node).asks state question :=
  fun written heq => absurd heq (h written)

/-- Whoever is recorded is back, and whoever was recorded before still is. -/
structure Kept (user node : String) (names recorded : Dict String) (journal : List Exchange) :
    Prop where
  grown : names.contains node = true → recorded.contains node = true
  back : recorded.contains node = true → Back user node journal

namespace Kept

/-- Nothing can be lost of a machine that is not recorded. -/
theorem of_unknown {journal' : List Exchange} (h : Kept user node names recorded journal)
    (hrecorded : recorded.contains node = false) : Kept user node names recorded journal' where
  grown := h.grown
  back hcontains := by simp [hrecorded] at hcontains

theorem answered (h : Kept user node names recorded state.2)
    (hanswers : (terms user node).answers state exchange state')
    (hstop : ¬ Orders user .stop node exchange.1) : Kept user node names recorded state'.2 where
  grown := h.grown
  back hcontains := by
    rw [hanswers.2]
    exact (h.back hcontains).concat hstop

/-- Recording another machine. -/
theorem insert (h : Kept user node names recorded journal) {machine : String}
    (hne : machine ≠ node) (name : String) :
    Kept user node names (recorded.insert machine name) journal := by
  have hcontains : (recorded.insert machine name).contains node = recorded.contains node := by
    rw [Dict.contains, Dict.find?_insert, if_neg hne, Dict.contains]
  exact ⟨fun hnames => hcontains.trans (h.grown hnames), fun hmem => h.back (hcontains ▸ hmem)⟩

end Kept

/-! ## The visit to the machines -/

variable {request : Imaging.Request} {task : Imaging.Task} {machine name : String}
  {markers : List Resource} {fencing : Bool}

theorem asks_of_isHandling (state : Unit × List Exchange) (question : Query)
    (h : Imaging.IsHandling settings request task [machine] question) :
    (terms user node).asks state question := by
  refine asks_of_ne (fun written heq => ?_) state
  rw [heq] at h
  cases h

/-- Handling another machine takes nobody out who is back. -/
theorem runMachine_other {address : Option String} (hne : machine ≠ node)
    (hname : Imaging.snapshotName request task machine = .ok name)
    (hblank : ∀ a ∈ address, ' ' ∉ a.toList)
    (hkept : Kept settings.adminUser node names recorded state.2) :
    Ensures (terms settings.adminUser node)
      (Imaging.runMachine settings request task markers machine name address) recorded state
      fun _ recorded' state' => recorded' = recorded ∧
        Kept settings.adminUser node names recorded state'.2 := by
  refine (Imaging.runMachine_asks (List.mem_singleton_self machine) hname hblank).preserves
    (fun state : Unit × List Exchange => Kept settings.adminUser node names recorded state.2)
    ?_ ?_ hkept
  · exact fun state question _ hhandling => asks_of_isHandling state question hhandling
  · intro state exchange state' hkept hhandling hanswers
    refine hkept.answered hanswers fun horders => hne ?_
    exact (List.mem_singleton.1 (Imaging.mem_of_orders hhandling horders)).symm

/-- Members of a set that are not recorded yet. The machine is among them only if its cluster is
fenced, so that it joins before it is recorded. -/
theorem runMembers_kept {set : Resource} {members : List String}
    (hfenced : node ∈ members → Imaging.isFenced fencing set = true)
    (hnew : node ∈ members → recorded.contains node = false) (hnodup : members.Nodup)
    (hkept : Kept settings.adminUser node names recorded state.2) :
    Ensures (terms settings.adminUser node)
      (Imaging.runMembers settings request task markers fencing set members) recorded state
      fun _ recorded' state' => Kept settings.adminUser node names recorded' state'.2 := by
  induction members generalizing recorded state with
  | nil => exact hkept
  | cons machine rest ih =>
    obtain ⟨hmachine, hrest⟩ := List.nodup_cons.1 hnodup
    refine Imaging.ensures_runMembers_cons (fun _ _ => hkept) (fun _ _ => hkept) ?_
    intro name address hname haddress
    have hblank := Imaging.blank_notMem_fencedAddress haddress
    -- The machine itself, or another one, which leaves the invariant alone.
    by_cases hnode : machine = node
    · subst hnode
      obtain ⟨a, rfl, -⟩ := Imaging.exists_fencedAddress (hfenced (by simp)) haddress
      have hunknown : recorded.contains machine = false := hnew (by simp)
      refine (Imaging.runMachine_settles asks_of_isHandling hname (hblank a rfl)).mono ?_
      rintro (failure | finished) recorded' state' ⟨rfl, hjoined⟩
      · exact hkept.of_unknown hunknown
      · cases finished with
        | false => exact hkept.of_unknown hunknown
        | true =>
          -- The machine has joined before it is recorded.
          obtain ⟨u, exchange, hanswers, hstart⟩ := hjoined rfl
          refine ⟨fun _ => by simp [Dict.contains], fun _ => ?_⟩
          rw [hanswers.2]
          exact back_of_settles hstart
    · refine (runMachine_other hnode hname hblank hkept).mono ?_
      rintro (failure | finished) recorded' state' ⟨rfl, hkept⟩
      · exact hkept
      · have hinsert := hkept.insert hnode name
        cases finished with
        | false => exact hkept
        | true =>
          cases address with
          | some a => exact hinsert
          | none =>
            refine ih (fun hmem => hfenced (by simp [hmem])) (fun hmem => ?_) hrest hinsert
            rw [Dict.contains, Dict.find?_insert, if_neg hnode]
            exact hnew (by simp [hmem])

theorem runSet_kept {set : Resource}
    (hfenced : node ∈ MachineSet.members set → Imaging.isFenced fencing set = true)
    (hkept : Kept settings.adminUser node names recorded state.2) :
    Ensures (terms settings.adminUser node)
      (Imaging.runSet settings request task markers fencing set) recorded state
      fun _ recorded' state' => Kept settings.adminUser node names recorded' state'.2 := by
  refine Imaging.ensures_runSet.2 (runMembers_kept (fun hmem => ?_) (fun hmem => ?_)
    ((MachineSet.nodup_members set).filter _) hkept)
  · exact hfenced (List.mem_filter.1 hmem).1
  · simpa using (List.mem_filter.1 hmem).2

/-- A pass over sets of machines records the machine only when it is back, if each set that the
machine is in is fenced. -/
theorem runPass_kept {sets : List Resource}
    (hfenced : ∀ set ∈ sets, node ∈ MachineSet.members set → Imaging.isFenced fencing set = true)
    (hkept : Kept settings.adminUser node names recorded state.2) :
    Ensures (terms settings.adminUser node)
      (Imaging.runPass settings request task sets fencing) recorded state
      fun _ recorded' state' => Kept settings.adminUser node names recorded' state'.2 := by
  refine Imaging.ensures_runPass.2 ⟨asks_of_ne (by simp) state, fun answer state' hanswer => ?_⟩
  have hkept := hkept.answered hanswer (Membership.not_orders_of_ne (by simp))
  cases answer with
  | error failure => exact hkept
  | ok markers =>
    exact Activity.ensures_mapM
      (fun recorded (state : Unit × List Exchange) =>
        Kept settings.adminUser node names recorded state.2)
      (fun set hset _ _ hkept => runSet_kept (hfenced set hset) hkept) hkept

/-! ## Passes -/

/-- What is left after a failure: whoever was recorded before is back. -/
def Held (user node : String) (request : Request) (state : Unit × List Exchange) : Prop :=
  request.currentStatus.snapshotNames.contains node = true → Back user node state.2

theorem Held.answered {request : Request} (h : Held user node request state)
    (hanswers : (terms user node).answers state exchange state')
    (hstop : ¬ Orders user .stop node exchange.1) : Held user node request state' := by
  intro hcontains
  rw [hanswers.2]
  exact (h hcontains).concat hstop

/-- A status that was stored has the machines recorded that were written. -/
theorem currentStatus_of_stored {written stored : Request}
    (h : (terms user node).answers state
      ⟨.call (.updateStatus written), (.ok stored : Except Failure Request)⟩ state') :
    stored.currentStatus = written.currentStatus :=
  Versions.currentStatus_congr (h.1.echoed written stored rfl)

/-- Whatever is written after a status that may be written leaves whoever is recorded in it back. -/
theorem write_held {request : Request} {status : Request.Status}
    (hstatus : status.snapshotNames.contains node = true → Back user node state.2)
    (hheld : Held user node request state) :
    ∀ (answer : Except Failure Request) state', (terms user node).answers state
      ⟨.call (.updateStatus { request with status := some status }), answer⟩ state' →
      match answer with
      | .ok stored => Held user node stored state'
      | .error _ => Held user node request state' := by
  intro answer state' hanswers
  have hstop : ¬ Orders user .stop node
      (.call (.updateStatus { request with status := some status })) := Membership.not_orders_of_ne (by simp)
  cases answer with
  | error failure => exact hheld.answered hanswers hstop
  | ok stored =>
    intro hcontains
    rw [currentStatus_of_stored hanswers] at hcontains
    rw [hanswers.2]
    exact (hstatus hcontains).concat hstop

theorem keeps (settings : Settings) (node : String) :
    Saga.Keeps (terms settings.adminUser node) settings .save
      (fun recorded request state =>
        Kept settings.adminUser node request.currentStatus.snapshotNames recorded state.2)
      (Held settings.adminUser node) (Listed node) where
  failed_of_inv := fun _ _ _ h hcontains => h.back (h.grown hcontains)
  asks := fun _ _ state _ _ hplain => asks_of_ne hplain.ne_updateStatus state
  plain := fun _ _ _ _ _ h hplain hanswers => h.answered hanswers hplain.not_orders
  managed := fun _ _ ns _ _ _ hanswers => ⟨ns, hanswers.1.fenced⟩
  bundled := by simp [Mode.isRestore]
  imaging := by
    intro request state imaging task sets planes h hsets hplanes
    have hfenced : ∀ set ∈ sets, node ∈ MachineSet.members set →
        Imaging.isFenced (Saga.isFencing planes.head?) set = true := fun _ =>
      isFenced_of_listed hsets hplanes
    refine (runPass_kept hfenced h).mono fun outcome recorded state' hkept => ?_
    cases outcome with
    | ok pending => exact hkept
    | error failure => exact fun hcontains => hkept.back (hkept.grown hcontains)
  write := by
    intro request status state h
    have hwrite := write_held h.back fun hcontains => h.back (h.grown hcontains)
    refine ⟨fun written heq => ?_, fun answer state' hanswers => ?_⟩
    · cases heq
      exact h.back
    · have hheld := hwrite answer state' hanswers
      cases answer with
      | ok stored => exact ⟨id, hheld⟩
      | error failure => exact hheld
  asks_clock := fun _ state _ => asks_of_ne (by simp) state
  clock := fun _ _ _ _ h hanswers => h.answered hanswers (Membership.not_orders_of_ne (by simp))
  write_failed := by
    intro request status state h hsame
    have hstatus : status.snapshotNames.contains node = true →
        Back settings.adminUser node state.2 := fun hcontains => h (hsame ▸ hcontains)
    refine ⟨fun written heq => ?_, write_held hstatus h⟩
    cases heq
    exact hstatus

/-- In a pass that finds the cluster of a machine fenced, the machine is back whenever a status is
written in which it is newly recorded, whatever was exchanged before the pass. -/
theorem back_of_written {request written : Request} {after : List Exchange}
    {answer : Except Failure Request} {outcome : Except Failure Action × Request}
    (hmode : request.spec.mode = .save)
    (hnew : request.currentStatus.snapshotNames.contains node = false)
    (hpass : Dialogue.Yields (Saga.reconcile settings request)
      (before ++ ⟨.call (.updateStatus written), answer⟩ :: after) outcome)
    (hhears : ∀ exchange ∈ before, Hears node exchange)
    (hadded : written.currentStatus.snapshotNames.contains node = true) :
    Back settings.adminUser node before := by
  have hstart : Kept settings.adminUser node request.currentStatus.snapshotNames
      request.currentStatus.snapshotNames [] := by
    refine ⟨id, fun hcontains => ?_⟩
    simp [hnew] at hcontains
  have hensures := (keeps settings node).reconcile (w := ((), [])) hmode hstart
  have hpath := (Activity.path_hearing hhears).recorded []
  exact hensures.asked hpass hpath written rfl hadded

/-- Whoever is newly recorded when a status is written, in any run of a save, is not out: who has
left has joined again since. But a pass that found the cluster of the machine not to be fenced may
have recorded it while it is out. -/
theorem not_out_or_unfences {first copy written : Request} (hmode : first.spec.mode = .save)
    (hasked : Saga.AskedOver (Versions.surroundings first.IsVersionOf) settings [first] copy
      (.call (.updateStatus written)) earlier before)
    (hnew : copy.currentStatus.snapshotNames.contains node = false)
    (hadded : written.currentStatus.snapshotNames.contains node = true) :
    ¬ Out settings.adminUser node (earlier ++ before) ∨
      ∃ exchange ∈ before, Unfences node exchange := by
  -- If no answer says otherwise, the pass is one that finds the cluster fenced.
  by_cases hunfences : ∃ exchange ∈ before, Unfences node exchange
  · exact .inr hunfences
  · left
    cases hasked with
    | intro hrun hedits hgives hpass hpath =>
      have hversions := hedits.all_of (Versions.all_of_runs hrun (.refl first))
      have hcopy : copy.spec.mode = .save := (hversions copy hgives).mode.trans hmode
      refine back_of_written hcopy hnew hpass (fun exchange hexchange => ?_) hadded _
      refine ⟨fun h => hunfences ⟨exchange, hexchange, h⟩, ?_⟩
      rintro written' stored rfl
      obtain ⟨versions, versions', hanswers⟩ := hpath.exists_of_mem hexchange
      exact Versions.status_eq_of_answers hanswers

/-! ## A cluster that is no longer fenced -/

/-- The machines of a cluster, each with an address. -/
def clusterSet : Resource where
  fields := .ofList [("spec", .object [("vmCount", .int 3)]),
    ("status", .object [("vmHosts", .object (["vm-0", "vm-1", "vm-2"].map fun machine =>
      (machine, .object [("ipAddresses", .object [("ctlplane", .str "192.168.25.10/24")])])))])]

/-- A control plane that asks for machines to leave their cluster, or does not. -/
def plane (fencing : Bool) : Resource where
  fields := .ofList [("spec", .object [("enableFencing", .bool fencing)])]

/-- What is listed of each kind. -/
def objects (fencing : Bool) : ManagedKind → List Resource
  | .vmSet => [clusterSet]
  | .controlPlane => [plane fencing]
  | _ => []

/-- A request to save with images, in which two of the three machines are recorded. -/
def nightly : Request where
  metadata := { name := some "nightly", ns := some "cloud", creationTimestamp := some ⟨0, false⟩ }
  spec := { includeImages := true }
  status := some
    { state := .saving
      snapshotNames := .ofList [("vm-0", "vm-0-nightly-0"), ("vm-1", "vm-1-nightly-0")] }

/-- The marker of the third machine, whose image has been taken. -/
def readyMarker : Resource where
  metadata := { name := some "vm-2-nightly-0" }
  fields := .ofList [("status", .object [("readyToUse", .bool true)])]

/-- The third machine leaves its cluster, and its marker is made. -/
def leaving : List Exchange × List Request := Versions.turn nightly (objects true) [] [nightly]

/-- What the next pass is given. -/
def afterwards : Request := leaving.2.headD nightly

/-- The marker is ready, but the control plane does not ask for fencing any more. -/
def recording : List Exchange × List Request :=
  Versions.turn nightly (objects false) [readyMarker] leaving.2

/-- The command by which the third machine leaves. -/
def leave : String := Membership.command "cloud-admin" "192.168.25.10" .stop "vm-2"

/-- A command was carried out. -/
def isCarriedOut (text : String) : Exchange → Bool
  | ⟨.call (.runCommand _ text'), (.ok output : Except Failure CommandOutput)⟩ =>
    text' = text && output.success
  | _ => false

/-- A question is no command but the given one. -/
def isSilent (text : String) : Query → Bool
  | .call (.runCommand _ text') => text' = text
  | _ => true

/-- A status is written in which the third machine is recorded and the request saved. -/
def isSaving : Query → Bool
  | .call (.updateStatus written) =>
    written.currentStatus.snapshotNames.contains "vm-2" && written.currentStatus.state = .saved
  | _ => false

theorem exists_of_isSaving {question : Query} (h : isSaving question = true) :
    ∃ written, question = .call (.updateStatus written) ∧
      written.currentStatus.snapshotNames.contains "vm-2" = true ∧
      written.currentStatus.state = .saved := by
  unfold isSaving at h
  split at h
  · simp only [Bool.and_eq_true, decide_eq_true_eq] at h
    exact ⟨_, rfl, h⟩
  · cases h

theorem out_of_isCarriedOut {text : String} (hconcerns : Concerns user .stop node text)
    (hdone : journal.any (isCarriedOut text) = true)
    (hsilent : journal.all (isSilent text ·.1) = true) : Out user node journal := by
  obtain ⟨exchange, hmem, hexchange⟩ := List.any_eq_true.1 hdone
  have hstart : ∀ e ∈ journal, ¬ Orders user .start node e.1 := by
    rintro e he ⟨ns, text', hquestion, hconcerns'⟩
    have hsame := List.all_eq_true.1 hsilent e he
    rw [hquestion] at hsame
    obtain rfl : text' = text := by simpa [isSilent] using hsame
    exact nomatch (hconcerns.unique hconcerns').1
  refine Membership.out_of_mem ?_ hmem hstart
  unfold isCarriedOut at hexchange
  split at hexchange
  · simp only [Bool.and_eq_true, decide_eq_true_eq] at hexchange
    obtain ⟨rfl, hsuccess⟩ := hexchange
    exact .done hconcerns (by rw [Membership.conclude, if_pos hsuccess])
  · cases hexchange

/-- The machine has left when it is recorded, and was never told to join. -/
theorem out_of_recording {before after : List Exchange} (h : recording.1 = before ++ after) :
    Out "cloud-admin" "vm-2" (leaving.1 ++ before) := by
  have hdone : leaving.1.any (isCarriedOut leave) = true := by decide +kernel
  have hsilent : (leaving.1 ++ recording.1).all (isSilent leave ·.1) = true := by decide +kernel
  have hconcerns : Concerns "cloud-admin" .stop "vm-2" leave :=
    Membership.concerns_command (by decide) _ _ _
  refine out_of_isCarriedOut hconcerns ?_ ?_
  · rw [List.any_append, hdone, Bool.true_or]
  · rw [h, ← List.append_assoc, List.all_append, Bool.and_eq_true] at hsilent
    exact hsilent.1

/-- The request is saved with the third machine, which is out of its cluster. -/
theorem saved_while_out :
    ∃ written earlier before,
      Saga.AskedOver (Versions.surroundings nightly.IsVersionOf) {} [nightly] afterwards
        (.call (.updateStatus written)) earlier before ∧
      written.currentStatus.state = .saved ∧
      afterwards.currentStatus.snapshotNames.contains "vm-2" = false ∧
      written.currentStatus.snapshotNames.contains "vm-2" = true ∧
      Out "cloud-admin" "vm-2" (earlier ++ before) ∧
      ∃ exchange ∈ before, Unfences "vm-2" exchange := by
  have hfirst : ∀ status, nightly.IsVersionOf { nightly with status } :=
    fun _ => ⟨rfl, rfl, rfl, rfl⟩
  have hrun : Saga.Runs (Versions.surroundings nightly.IsVersionOf) {} [nightly] [leaving.1]
      leaving.2 :=
    Versions.runs_turn hfirst .start (List.mem_singleton.2 rfl) (objects true) []
  have hnewest : afterwards ∈ leaving.2 := by decide +kernel
  have hnew : afterwards.currentStatus.snapshotNames.contains "vm-2" = false := by decide +kernel
  have hsaving : recording.1.any (isSaving ·.1) = true := by decide +kernel
  obtain ⟨question, before, answer, after, hquestion, hrecording, hasked⟩ := hrun.exists_askedOver
    (Versions.answers_respond hfirst (objects false) [readyMarker]) .none hnewest hsaving
  obtain ⟨written, rfl, hadded, hsaved⟩ := exists_of_isSaving hquestion
  rw [List.flatten_singleton] at hasked
  have hout := out_of_recording hrecording
  -- The machine is out, so the pass found that its cluster is not fenced.
  have hunfences := (not_out_or_unfences rfl hasked hnew hadded).resolve_left fun hin => hin hout
  exact ⟨written, _, before, hasked, hsaved, hnew, hadded, hout, hunfences⟩

end Rejoining

end NamespaceBackup
