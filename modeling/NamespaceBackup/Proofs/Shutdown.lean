import NamespaceBackup.Proofs.PassInvariant

/-!
# Power of machines that are marked

A machine's disk is at rest only once the machine no longer asks to run. When a marker is made, the
machine is as it was read, or it was powered off since; it was powered off if it was up. A machine
that was read while it was booting is not up and asks to run, and so it does when it is marked.

## Main definitions

* `Machine.AsksToRun`: whether a machine's object asks to run
* `Machine.Serves`: how a cluster answers in which nobody else writes machines
* `Machine.Prepared`: what is known of a machine when its marker is made

## Main results

* `Machine.not_asksToRun_powerOff`: who was powered off does not ask to run
* `Machine.asksToRun_when_marked_iff`: which machines ask to run when they are marked
-/

namespace NamespaceBackup

namespace Machine

open Activity (Ensures Safe)

/-- Whether a machine's object asks to run. -/
def AsksToRun (machine : Resource) : Prop :=
  isKeptRunning machine = true ∨ machine.at? ["spec", "running"] = some (.bool true)

instance (machine : Resource) : Decidable (AsksToRun machine) := inferInstanceAs (Decidable (_ ∨ _))

/-- Who was powered off does not ask to run. -/
theorem not_asksToRun_powerOff (machine : Resource) : ¬ AsksToRun (machine.patched powerOff) := by
  have hpath (name : String) : (machine.patched powerOff).at? ["spec", name] =
      (((machine.fields.find? "spec").getD .null).merge
        (.object [("runStrategy", .null), ("running", .bool false)])).field? name := by
    rw [Resource.at?_cons, powerOff, Json.object,
      Resource.find?_patched machine (Dict.ofList _).ascending "spec"]
    exact Option.bind_fun_some _
  -- The patch removes the strategy and sets the flag, whatever else the machine has.
  have hstrategy : (machine.patched powerOff).at? ["spec", "runStrategy"] = none := by
    rw [hpath, Json.object, Json.field?_merge _ (Dict.ofList _).ascending]
    rfl
  have hrunning : (machine.patched powerOff).at? ["spec", "running"] = some (.bool false) := by
    rw [hpath, Json.object, Json.field?_merge _ (Dict.ofList _).ascending]
    rfl
  rw [AsksToRun, isKeptRunning, hstrategy, hrunning]
  decide

/-! ## The machines of a cluster -/

/-- The machines of a cluster, by namespace and name. -/
abbrev Store : Type := String → String → Option Resource

/-- The machines after a merge patch on one of them. -/
def Store.patched (machines : Store) (ns name : String) (patch : Json) : Store :=
  fun ns' name' =>
    if ns' = ns ∧ name' = name then (machines ns name).map (·.patched patch) else machines ns' name'

@[simp] theorem Store.patched_self (machines : Store) (ns name : String) (patch : Json) :
    machines.patched ns name patch ns name = (machines ns name).map (·.patched patch) := by
  simp [patched]

/-- How a cluster answers in which nobody but the pass writes machines. Every call may fail, and a
patch that fails may still have been made. -/
inductive Serves : Store → Exchange → Store → Prop
  | read (machines : Store) (ns name : String) :
    Serves machines ⟨.call (.getMachine ns name),
      (.ok (machines ns name) : Except Failure (Option Resource))⟩ machines
  | patched {machines : Store} {ns name : String} (patch : Json)
    (h : (machines ns name).isSome = true) :
    Serves machines ⟨.call (.patchMachine ns name patch), (.ok () : Except Failure Unit)⟩
      (machines.patched ns name patch)
  | lost (machines : Store) (ns name : String) (patch : Json) (failure : Failure) :
    Serves machines
      ⟨.call (.patchMachine ns name patch), (.error failure : Except Failure Unit)⟩
      (machines.patched ns name patch)
  | failed (machines : Store) (c : Call) (failure : Failure) :
    Serves machines ⟨.call c, (.error failure : Except Failure c.Answer)⟩ machines
  | other {machines : Store} {exchange : Exchange}
    (hread : ∀ ns name, exchange.1 ≠ .call (.getMachine ns name))
    (hpatch : ∀ ns name patch, exchange.1 ≠ .call (.patchMachine ns name patch)) :
    Serves machines exchange machines

theorem Serves.of_read {machines machines' : Store} {ns name : String} {answer : Option Resource}
    (h : Serves machines ⟨.call (.getMachine ns name),
      (.ok answer : Except Failure (Option Resource))⟩ machines') :
    machines' = machines ∧ machines ns name = answer := by
  cases h with
  | read => exact ⟨rfl, rfl⟩
  | other hread => exact absurd rfl (hread ns name)

theorem Serves.of_patched {machines machines' : Store} {ns name : String} {patch : Json}
    (h : Serves machines ⟨.call (.patchMachine ns name patch), (.ok () : Except Failure Unit)⟩
      machines') : machines' = machines.patched ns name patch := by
  cases h with
  | patched => rfl
  | other _ hpatch => exact absurd rfl (hpatch ns name patch)

/-- What is known of a machine when its marker is made: it was read in this pass, as `read`, and it
is stored as it was read unless it was up, in which case it was powered off since. -/
structure Prepared (ns machine : String) (journal : List Exchange) (read stored : Resource) :
    Prop where
  read_mem : ⟨.call (.getMachine ns machine),
    (.ok (some read) : Except Failure (Option Resource))⟩ ∈ journal
  ready : isReady read = true → stored = read.patched powerOff ∧
    ⟨.call (.patchMachine ns machine powerOff), (.ok () : Except Failure Unit)⟩ ∈ journal
  notReady : isReady read = false → stored = read

/-- A prepared machine asks to run exactly if it did when it was read, and was not up. -/
theorem Prepared.asksToRun_iff {ns machine : String} {journal : List Exchange}
    {read stored : Resource} (h : Prepared ns machine journal read stored) :
    AsksToRun stored ↔ AsksToRun read ∧ isReady read = false := by
  cases hready : isReady read with
  | true =>
    rw [(h.ready hready).1]
    exact iff_of_false (not_asksToRun_powerOff read) fun hread => nomatch hread.2
  | false =>
    rw [h.notReady hready]
    exact (and_iff_left rfl).symm

/-- The terms of a pass: a marker is made only for a machine that is prepared. -/
abbrev terms : Terms Query Query.Answer (Store × List Exchange) where
  asks state question := ∀ ns kind marker machine, question = .call (.createMarker ns kind marker) →
    Imaging.Marks marker machine →
    ∃ read stored, state.1 ns machine = some stored ∧ Prepared ns machine state.2 read stored
  answers := Respondent.recorded Serves

/-- Whatever is asked but for markers to be made may be asked at any time. -/
theorem asks_of_ne {question : Query}
    (h : ∀ ns kind marker, question ≠ .call (.createMarker ns kind marker))
    (state : Store × List Exchange) : terms.asks state question :=
  fun ns kind marker _ hquestion => absurd hquestion (h ns kind marker)

end Machine

namespace Imaging

open Activity (Ensures Safe)
open Machine (Prepared terms)

variable {σ : Type} {settings : Settings} {request : Request} {task : Task} {machine name : String}
  {address : Option String} {markers : List Resource}

theorem createMarker_safe {s : σ} {state : Machine.Store × List Exchange} {read stored : Resource}
    (hstored : state.1 request.ns machine = some stored)
    (hprepared : Prepared request.ns machine state.2 read stored) :
    Ensures terms
      (createMarker request task (buildMarker settings request task machine name) :
        Activity σ Unit) s state fun _ _ _ => True := by
  rw [createMarker, Activity.ensures_bind, Activity.ensures_outcome, Activity.ensures_call]
  refine ⟨?_, fun answer state' _ => ?_⟩
  · intro ns kind marker other hquestion hmarks
    cases hquestion
    obtain rfl := marks_buildMarker.1 hmarks
    exact ⟨read, stored, hstored, hprepared⟩
  · cases answer with
    | ok => trivial
    | error failure =>
      rw [Activity.then_ok]
      dsimp only
      split <;> trivial

/-- A machine is read, powered off if it is up, and then marked. -/
theorem shutMachine_safe :
    Safe terms (shutMachine settings request task machine name : Activity σ Unit) := by
  intro s state
  refine Activity.ensures_call_bind.2 ⟨Machine.asks_of_ne (by simp) state, ?_⟩
  rintro (answer : Except Failure (Option Resource)) state' ⟨hserves, hrecord⟩
  rcases answer with failure | (_ | read)
  · trivial
  · trivial
  · obtain ⟨hsame, hanswer⟩ := hserves.of_read
    have hstored : state'.1 request.ns machine = some read := hsame ▸ hanswer
    have hmem : ⟨.call (.getMachine request.ns machine),
        (.ok (some read) : Except Failure (Option Resource))⟩ ∈ state'.2 := by
      rw [hrecord]
      exact List.mem_append_right _ (List.mem_singleton_self _)
    refine Activity.then_ok.2 ?_
    by_cases hready : Machine.isReady read = true
    · simp only [hready]
      refine Activity.ensures_call_bind.2 ⟨Machine.asks_of_ne (by simp) state', ?_⟩
      rintro (answer : Except Failure Unit) state'' ⟨hserves, hrecord'⟩
      cases answer with
      | error failure => trivial
      | ok =>
        have hpatched : state''.1 request.ns machine = some (read.patched Machine.powerOff) := by
          rw [hserves.of_patched, Machine.Store.patched_self, hstored, Option.map_some]
        -- What was read is up, so it was powered off, and that is how it is stored now.
        refine createMarker_safe hpatched ⟨?_, fun _ => ⟨rfl, ?_⟩, fun hnot => ?_⟩
        · rw [hrecord']
          exact List.mem_append_left _ hmem
        · rw [hrecord']
          exact List.mem_append_right _ (List.mem_singleton_self _)
        · rw [hready] at hnot
          cases hnot
    · simp only [hready]
      exact createMarker_safe hstored ⟨hmem, fun h => absurd h hready, fun _ => rfl⟩

theorem startMachine_safe (hblank : ∀ a ∈ address, ' ' ∉ a.toList) :
    Safe terms (startMachine settings request task machine name address : Activity σ Unit) := by
  cases address with
  | none => exact shutMachine_safe
  | some a =>
    rw [startMachine_some]
    refine Safe.bind (.of_asks (apply_asks (hblank a rfl) .stop) fun state question hquestion => ?_)
      fun stopped => ?_
    · -- To leave a cluster is a command and makes no marker.
      refine Machine.asks_of_ne (fun ns kind marker heq => ?_) state
      rw [heq] at hquestion
      cases hquestion
    · cases stopped with
      | false => exact .pure _
      | true => exact shutMachine_safe

theorem runMachine_safe (hblank : ∀ a ∈ address, ' ' ∉ a.toList) :
    Safe terms
      (runMachine settings request task markers machine name address : Activity σ Bool) := by
  rw [runMachine]
  split
  · -- Who has a marker gets no other.
    refine .of_asks (finishMachine_asks hblank _) fun state question hquestion => ?_
    refine Machine.asks_of_ne (fun ns kind marker heq => ?_) state
    rw [heq] at hquestion
    cases hquestion
  · exact (startMachine_safe hblank).bind fun _ => .pure _

variable {fencing : Bool} {set : Resource}

theorem runMembers_safe {members : List String} :
    Safe terms (runMembers settings request task markers fencing set members) := by
  induction members with
  | nil => exact .pure _
  | cons machine rest ih =>
    rw [runMembers]
    refine .ofExcept_bind fun name _ => .ofExcept_bind fun address haddress => ?_
    refine (runMachine_safe (blank_notMem_fencedAddress haddress)).bind fun finished => ?_
    cases finished with
    | false => exact .pure _
    | true =>
      refine (Safe.modify _).bind fun _ => ?_
      cases address with
      | some a => exact .pure rest
      | none => exact ih

theorem runPass_safe {sets : List Resource} :
    Safe terms (runPass settings request task sets fencing) := by
  refine fun recorded state => ensures_runPass.2 ⟨Machine.asks_of_ne (by simp) state, ?_⟩
  rintro (failure | markers) state' -
  · trivial
  · have hsets : Safe terms (sets.mapM (runSet settings request task markers fencing)) :=
      .mapM fun set _ recorded state => runMembers_safe recorded state
    exact hsets recorded state'

end Imaging

namespace Machine

variable {settings : Settings} {mode : Mode}

theorem asks_of_isPlain {question : Query} (h : Saga.IsPlain question)
    (state : Store × List Exchange) : terms.asks state question := by
  refine asks_of_ne (fun ns kind marker heq => ?_) state
  rw [heq] at h
  exact h

/-- Whatever happens, a pass goes on as it should. -/
theorem keeps (settings : Settings) (mode : Mode) :
    Saga.Keeps terms settings mode (fun _ _ _ => True) (fun _ _ => True) fun _ _ => True where
  failed_of_inv := fun _ _ _ _ => trivial
  asks := fun _ _ state _ _ hplain => asks_of_isPlain hplain state
  plain := fun _ _ _ _ _ _ _ _ => trivial
  managed := fun _ _ _ _ _ _ _ => trivial
  bundled := fun _ _ _ _ _ _ _ _ => trivial
  imaging := fun request state imaging task sets planes _ _ _ =>
    (Imaging.runPass_safe _ state).mono fun outcome _ _ _ => by cases outcome <;> trivial
  write := fun request status state _ =>
    ⟨asks_of_ne (by simp) state, fun answer _ _ => by cases answer <;> trivial⟩
  asks_clock := fun _ state _ => asks_of_ne (by simp) state
  clock := fun _ _ _ _ _ _ => trivial
  write_failed := fun request status state _ _ =>
    ⟨asks_of_ne (by simp) state, fun answer _ _ => by cases answer <;> trivial⟩

/-- In every pass, at every marker that it makes: the machine was read before, it is stored as it
was read unless it was up, and if it was up it was powered off since. So it asks to run, while its
marker is made, exactly if it did when it was read and was not up. -/
theorem asksToRun_when_marked_iff {request : Request} {machines machines' : Store}
    {before after : List Exchange} {outcome : Except Failure Action × Request} {ns machine : String}
    {kind : MarkerKind} {marker : Resource} {answer : Except Failure Unit}
    (hpass : Dialogue.Yields (Saga.reconcile settings request)
      (before ++ ⟨.call (.createMarker ns kind marker), answer⟩ :: after) outcome)
    (hpath : Respondent.Path Serves machines before machines')
    (hmarks : Imaging.Marks marker machine) :
    ∃ read stored, machines' ns machine = some stored ∧ Prepared ns machine before read stored ∧
      (AsksToRun stored ↔ AsksToRun read ∧ isReady read = false) := by
  have hensures := (keeps settings request.spec.mode).reconcile (w := (machines, [])) rfl trivial
  have hasks := hensures.asked hpass (hpath.recorded [])
  obtain ⟨read, stored, hstored, hprepared⟩ := hasks ns kind marker machine rfl hmarks
  exact ⟨read, stored, hstored, hprepared, hprepared.asksToRun_iff⟩

/-! ## A machine that boots -/

/-- A machine that was powered on and is not up yet. -/
def booting : Resource where
  fields := .ofList [("spec", .object [("runStrategy", .str rerunOnFailure)]),
    ("status", .object [("ready", .bool false)])]

/-- A set with one machine. -/
def bootingSet : Resource where
  fields := .ofList [("status", .object [("vmHosts", .object [("vm-0", .object [])])])]

/-- All machines are booting, one is a member of a set, markers are made, and all else fails. -/
def bootingRespond : (question : Query) → Store → question.Answer × Store
  | .clock, machines => ((default : Instant), machines)
  | .call (.listManaged _ .vmSet), machines =>
    ((.ok [bootingSet] : Except Failure (List Resource)), machines)
  | .call (.listManaged _ _), machines => ((.ok [] : Except Failure (List Resource)), machines)
  | .call (.listConfigMaps _ _), machines => ((.ok [] : Except Failure (List ConfigMap)), machines)
  | .call (.listSecrets _ _), machines => ((.ok [] : Except Failure (List Secret)), machines)
  | .call (.listMarkers _ _ _), machines => ((.ok [] : Except Failure (List Resource)), machines)
  | .call (.getMachine ns name), machines =>
    ((.ok (machines ns name) : Except Failure (Option Resource)), machines)
  | .call (.createMarker _ _ _), machines => ((.ok () : Except Failure Unit), machines)
  | .call c, machines => ((.error (.api "not served") : Except Failure c.Answer), machines)

theorem serves_bootingRespond (question : Query) (machines : Store) :
    (bootingRespond question machines).2 = machines ∧
      Serves machines ⟨question, (bootingRespond question machines).1⟩ machines := by
  cases question with
  | clock => exact ⟨rfl, .other (by simp) (by simp)⟩
  | call c =>
    cases c with
    | getMachine ns name => exact ⟨rfl, .read machines ns name⟩
    | patchMachine ns name patch => exact ⟨rfl, .failed machines _ _⟩
    | listManaged ns kind => cases kind <;> exact ⟨rfl, .other (by simp) (by simp)⟩
    | _ => exact ⟨rfl, .other (by simp) (by simp)⟩

/-- A request to save in which the images of all machines are to be taken. -/
def bootingRequest : Request where
  metadata := { name := some "save", ns := some "cloud", creationTimestamp := some ⟨0, false⟩ }
  spec := { includeImages := true }
  status := some { state := .saving }

/-- Every machine is booting. -/
def allBooting : Store := fun _ _ => some booting

/-- What is exchanged in a pass while the machine boots. -/
def bootingTranscript : List Exchange :=
  (Saga.reconcile {} bootingRequest).transcript bootingRespond allBooting

/-- The marker that is made for the machine. -/
def bootingMarker : Resource :=
  Imaging.buildMarker {} ⟨"cloud", "save", "save-0"⟩ .save "vm-0" "vm-0-save-0"

/-- A question that makes no marker. -/
def isOtherQuestion : Query → Bool
  | .call (.createMarker ..) => false
  | _ => true

/-- The machine is marked while it asks to run. -/
theorem booting_asksToRun_when_marked :
    ∃ before after outcome machines' answer,
      Dialogue.Yields (Saga.reconcile {} bootingRequest)
        (before ++ ⟨.call (.createMarker "cloud" .snapshot bootingMarker), answer⟩ :: after)
        outcome ∧
      Respondent.Path Serves allBooting before machines' ∧ Imaging.Marks bootingMarker "vm-0" ∧
      ∃ read stored, machines' "cloud" "vm-0" = some stored ∧
        Prepared "cloud" "vm-0" before read stored ∧
        (AsksToRun stored ↔ AsksToRun read ∧ isReady read = false) ∧ AsksToRun stored := by
  have hyields := Dialogue.yields_transcript bootingRespond (Saga.reconcile {} bootingRequest)
    allBooting
  have hpath := Dialogue.path_transcript bootingRespond
    (R := fun machines exchange machines' =>
      machines' = machines ∧ Serves machines exchange machines)
    serves_bootingRespond (Saga.reconcile {} bootingRequest) allBooting
  change Dialogue.Yields _ bootingTranscript _ at hyields
  change Respondent.Path _ _ bootingTranscript _ at hpath
  -- The transcript is split where the marker is made.
  have hsplit :=
    List.takeWhile_append_dropWhile (p := (isOtherQuestion ·.1)) (l := bootingTranscript)
  have hhead : ((bootingTranscript.dropWhile (isOtherQuestion ·.1)).head?.map fun e => e.1) =
      some (.call (.createMarker "cloud" .snapshot bootingMarker)) := by
    decide +kernel
  cases hrest : bootingTranscript.dropWhile (isOtherQuestion ·.1) with
  | nil =>
    rw [hrest] at hhead
    cases hhead
  | cons exchange after =>
    obtain ⟨question, answer⟩ := exchange
    rw [hrest] at hhead hsplit
    obtain rfl := Option.some.inj hhead
    rw [← hsplit] at hyields hpath
    obtain ⟨machines', hfirst, -⟩ := Respondent.path_append.1 hpath
    obtain ⟨rfl, hbefore⟩ := hfirst.of_constant
    have hmarks : Imaging.Marks bootingMarker "vm-0" := Imaging.marks_buildMarker.2 rfl
    obtain ⟨read, stored, hstored, hprepared, hiff⟩ :=
      asksToRun_when_marked_iff hyields hbefore hmarks
    refine ⟨_, _, _, _, answer, hyields, hbefore, hmarks, read, stored, hstored, hprepared, hiff,
      ?_⟩
    obtain rfl : booting = stored := Option.some.inj hstored
    decide

end Machine

end NamespaceBackup
