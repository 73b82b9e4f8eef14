import NamespaceBackup.Proofs.PassInvariant

/-!
# One member out at a time

A set of machines that forms a highly available cluster loses its quorum if two members are out at
once. Nothing remembers who is out. But a pass works on the first member of a set that is not
recorded, it ends as soon as a member has joined again, and members are handled in one order; so
who is out is always the first member that is not recorded, whatever was lost on the way.

## Main definitions

* `Quorum.FirstOut`: who is out is the first member that is not recorded
* `Quorum.Orderly`: a question that takes nobody out of a cluster that lacks another member, and
  touches no machine that has not left in this pass
* `Quorum.surroundings`: the world around a request, in which sets of machines keep their members
* `Quorum.Steadfast`, `Quorum.Resting`: the invariants of a pass and of a run

## Main results

* `Quorum.runSet_roster`: a pass over the set itself
* `Quorum.keeps`: what every pass keeps
* `Quorum.Resting.reconcile`: a pass keeps what holds between two passes
* `Quorum.orderly_of_asked`: every question of every run is orderly
-/

namespace NamespaceBackup

namespace Quorum

open Activity (Asks Ensures)
open Imaging (Marks IsHandling IsShutting)
open NamespaceBackup.Membership (Orders Settles Out)

/-- A question that powers a machine off, or makes a marker for it. -/
inductive Disrupts (machine : String) : Query → Prop
  | powerOff (ns : String) : Disrupts machine (.call (.patchMachine ns machine Machine.powerOff))
  | mark (ns : String) (kind : MarkerKind) {marker : Resource} (h : Marks marker machine) :
    Disrupts machine (.call (.createMarker ns kind marker))

variable {settings : Settings} {roster : List String} {user : String}
  {earlier before journal : List Exchange} {recorded recorded' : Dict String}
  {exchange : Exchange} {question : Query} {machine node : String}

/-- A question in a pass, after what was exchanged in earlier passes and before it in this one:
it takes no member out while another is out, and it disrupts only who has left in this pass. -/
structure Orderly (user : String) (roster : List String) (earlier before : List Exchange)
    (question : Query) : Prop where
  /-- Nobody leaves while another is out. -/
  one_out : ∀ node ∈ roster, Orders user .stop node question →
    ∀ other ∈ roster, Out user other (earlier ++ before) → other = node
  /-- Only who has left in this pass is powered off or marked. -/
  left : ∀ node ∈ roster, Disrupts node question → ∃ e ∈ before, Settles user .stop node e

/-- The members that are not recorded, in order. -/
def pending (roster : List String) (recorded : Dict String) : List String :=
  roster.filter (!recorded.contains ·)

/-- Who is out is the first member that is not recorded. -/
def FirstOut (user : String) (roster : List String) (recorded : Dict String)
    (journal : List Exchange) : Prop :=
  ∀ node ∈ roster, Out user node journal → (pending roster recorded).head? = some node

/-- An exchange after which every member is in or out as before. -/
def Idle (user : String) (roster : List String) (exchange : Exchange) : Prop :=
  ∀ node ∈ roster, ∀ change, ¬ Settles user change node exchange

theorem FirstOut.concat (h : FirstOut user roster recorded journal)
    (hidle : Idle user roster exchange) :
    FirstOut user roster recorded (journal ++ [exchange]) := by
  intro node hnode hout
  rcases Membership.out_concat.1 hout with hstop | ⟨hout, -⟩
  · exact absurd hstop (hidle node hnode .stop)
  · exact h node hnode hout

theorem FirstOut.record (h : FirstOut user roster recorded (earlier ++ before))
    {record : List Exchange} (hrecord : record = before ++ [exchange])
    (hidle : Idle user roster exchange) : FirstOut user roster recorded (earlier ++ record) := by
  rw [hrecord, ← List.append_assoc]
  exact h.concat hidle

/-- The first member leaves that is not recorded. -/
theorem FirstOut.concat_stop (h : FirstOut user roster recorded journal)
    (hfirst : (pending roster recorded).head? = some machine)
    (hstop : Settles user .stop machine exchange) :
    FirstOut user roster recorded (journal ++ [exchange]) := by
  intro node hnode hout
  rcases Membership.out_concat.1 hout with hstop' | ⟨hout, -⟩
  · rw [(hstop'.orders.unique hstop.orders).2]
    exact hfirst
  · exact h node hnode hout

/-- Once the first member has joined that is not recorded, nobody is out. -/
theorem FirstOut.concat_start (h : FirstOut user roster recorded journal)
    (hfirst : (pending roster recorded).head? = some machine)
    (hstart : Settles user .start machine exchange) (names : Dict String) :
    FirstOut user roster names (journal ++ [exchange]) := by
  intro node hnode hout
  rcases Membership.out_concat.1 hout with hstop | ⟨hout, hnot⟩
  · exact nomatch (hstop.orders.unique hstart.orders).1
  · have hfirst' := h node hnode hout
    rw [hfirst] at hfirst'
    exact absurd hstart (Option.some.inj hfirst' ▸ hnot)

theorem pending_congr (h : ∀ node ∈ roster, recorded'.find? node = recorded.find? node) :
    pending roster recorded' = pending roster recorded :=
  List.filter_congr fun node hnode => by rw [Dict.contains, Dict.contains, h node hnode]

theorem FirstOut.congr (h : FirstOut user roster recorded journal)
    (hagree : ∀ node ∈ roster, recorded'.find? node = recorded.find? node) :
    FirstOut user roster recorded' journal := by
  intro node hnode hout
  rw [pending_congr hagree]
  exact h node hnode hout

/-! ## Questions that concern other machines -/

theorem idle_of_isPlain (h : Saga.IsPlain exchange.1) : Idle user roster exchange :=
  fun _ _ _ hsettles => h.not_orders hsettles.orders

theorem orderly_of_isPlain (h : Saga.IsPlain question) :
    Orderly user roster earlier before question where
  one_out := fun _ _ horders => absurd horders h.not_orders
  left := by
    rintro node - hdisrupts
    cases hdisrupts <;> exact absurd h id

variable {request : Imaging.Request} {task : Imaging.Task} {machines : List String}

theorem mem_of_disrupts (h : IsHandling settings request task machines question)
    (hdisrupts : Disrupts node question) : node ∈ machines := by
  cases h with
  | read => cases hdisrupts
  | powerOn => cases hdisrupts
  | powerOff hmachine =>
    cases hdisrupts
    exact hmachine
  | mark hmachine hname =>
    cases hdisrupts with
    | mark _ _ hmarks =>
      rw [Imaging.marks_buildMarker.1 hmarks]
      exact hmachine
  | command => cases hdisrupts

theorem idle_of_isHandling (h : IsHandling settings request task machines exchange.1)
    (hdisjoint : ∀ node ∈ roster, node ∉ machines) :
    Idle settings.adminUser roster exchange :=
  fun node hnode _ hsettles => hdisjoint node hnode (Imaging.mem_of_orders h hsettles.orders)

theorem orderly_of_isHandling (h : IsHandling settings request task machines question)
    (hdisjoint : ∀ node ∈ roster, node ∉ machines) :
    Orderly settings.adminUser roster earlier before question where
  one_out := fun node hnode horders => absurd (Imaging.mem_of_orders h horders) (hdisjoint node hnode)
  left := fun node hnode hdisrupts => absurd (mem_of_disrupts h hdisrupts) (hdisjoint node hnode)

theorem ne_updateStatus_of_isHandling (h : IsHandling settings request task machines exchange.1)
    (written : NamespaceBackup.Request) : exchange.1 ≠ .call (.updateStatus written) := by
  intro hwrite
  rw [hwrite] at h
  cases h

/-! ## The world around a request -/

/-- What the lists of sets of machines are like: a set has exactly the members of the roster and
is large enough to be a cluster, or none of them, and no two sets share a member. -/
structure Steady (roster : List String) (sets : List Resource) : Prop where
  fenced : ∀ set ∈ sets, MachineSet.members set = roster ∧
    Imaging.minFencedSize ≤ MachineSet.size set ∨ ∀ node ∈ roster, node ∉ MachineSet.members set
  disjoint : sets.Pairwise fun a b => ∀ node ∈ MachineSet.members a, node ∉ MachineSet.members b

/-- What may be listed: sets of machines that keep their members, and a control plane that asks
for machines to leave their cluster. -/
structure Listed (roster : List String) (kind : ManagedKind) (objects : List Resource) : Prop where
  steady : kind = .vmSet → Steady roster objects
  fencing : kind = .controlPlane → Saga.isFencing objects.head? = true

/-- What a save finds in lists, or a restore in a bundle, is what may be listed; there is no other
condition on answers. -/
structure Honest (mode : Mode) (roster : List String) (exchange : Exchange) : Prop where
  listed : mode = .save → ∀ ns kind (objects : List Resource), exchange =
    ⟨.call (.listManaged ns kind), (.ok objects : Except Failure (List Resource))⟩ →
    Listed roster kind objects
  bundled : ∀ ns name (bundle : Bundle), exchange =
    ⟨.call (.getBundle ns name), (.ok (some bundle) : Except Failure (Option Bundle))⟩ →
    ∀ kind : ManagedKind, Listed roster kind (bundle.content.objects kind.name)

/-- Two versions of a request ask for the same and have the same status. -/
structure Agrees (a b : Request) : Prop where
  status : a.status = b.status
  mode : a.spec.mode = b.spec.mode

/-- What becomes of the stored request. A write of the status may succeed or fail, and may be stored
even if its answer is a failure. Others may write the request, but neither its status nor what it
asks for. -/
inductive Stores (stored : Request) : Exchange → Request → Prop
  | other {exchange : Exchange} {stored' : Request}
    (h : ∀ request, exchange.1 ≠ .call (.updateStatus request))
    (hstored : Agrees stored' stored) : Stores stored exchange stored'
  | accepted {request answer : Request} (hstored : Agrees answer request) :
    Stores stored ⟨.call (.updateStatus request), (.ok answer : Except Failure Request)⟩ answer
  | refused {request stored' : Request} (failure : Failure) (hstored : Agrees stored' stored) :
    Stores stored
      ⟨.call (.updateStatus request), (.error failure : Except Failure Request)⟩ stored'
  | lost {request stored' : Request} (failure : Failure) (hstored : Agrees stored' request) :
    Stores stored
      ⟨.call (.updateStatus request), (.error failure : Except Failure Request)⟩ stored'

/-- The world around a request, in which a set of machines keeps its members. Every pass is given
the stored request. -/
def surroundings (mode : Mode) (roster : List String) : Saga.Surroundings Request where
  answers stored exchange stored' := Honest mode roster exchange ∧ Stores stored exchange stored'
  gives stored request := request = stored
  between stored stored' := Agrees stored' stored

/-- The terms of a pass, after what was exchanged in earlier ones: its questions must be orderly. -/
abbrev terms (mode : Mode) (user : String) (roster : List String) (earlier : List Exchange) :
    Terms Query Query.Answer (Request × List Exchange) where
  asks state := Orderly user roster earlier state.2
  answers := (surroundings mode roster).answers.recorded

variable {mode : Mode} {names : Dict String} {state state' : Request × List Exchange}

/-- The machines recorded in the stored request, at a moment at which who is out is the first member
that is not among them. -/
structure Calm (mode : Mode) (user : String) (roster : List String) (earlier : List Exchange)
    (names : Dict String) (state : Request × List Exchange) : Prop where
  mode_eq : state.1.spec.mode = mode
  stored : state.1.currentStatus.snapshotNames = names
  firstOut : FirstOut user roster names (earlier ++ state.2)

theorem Agrees.snapshotNames {stored stored' : Request} (h : Agrees stored' stored) :
    stored'.currentStatus.snapshotNames = stored.currentStatus.snapshotNames := by
  rw [Request.currentStatus, h.status]
  rfl

/-- An exchange that writes no status leaves status and mode of the stored request as they are, and
adds itself to what was exchanged. -/
theorem stored_of_answers (h : (terms mode user roster earlier).answers state exchange state')
    (hne : ∀ request, exchange.1 ≠ .call (.updateStatus request)) :
    Agrees state'.1 state.1 ∧ earlier ++ state'.2 = earlier ++ state.2 ++ [exchange] := by
  obtain ⟨⟨-, hstores⟩, hrecord⟩ := h
  refine ⟨?_, by rw [hrecord, List.append_assoc]⟩
  cases hstores with
  | other _ hstored => exact hstored
  | accepted => exact absurd rfl (hne _)
  | refused => exact absurd rfl (hne _)
  | lost => exact absurd rfl (hne _)

/-- What was recorded stays calm if an exchange leaves who is out as it says. -/
theorem Calm.step (h : Calm mode user roster earlier names state)
    (hanswers : (terms mode user roster earlier).answers state exchange state')
    (hne : ∀ request, exchange.1 ≠ .call (.updateStatus request))
    (hfirstOut : FirstOut user roster names (earlier ++ state'.2)) :
    Calm mode user roster earlier names state' :=
  have hstored := (stored_of_answers hanswers hne).1
  ⟨hstored.mode.trans h.mode_eq, hstored.snapshotNames.trans h.stored, hfirstOut⟩

theorem Calm.idle (h : Calm mode user roster earlier names state)
    (hanswers : (terms mode user roster earlier).answers state exchange state')
    (hne : ∀ request, exchange.1 ≠ .call (.updateStatus request))
    (hidle : Idle user roster exchange) : Calm mode user roster earlier names state' := by
  refine h.step hanswers hne ?_
  rw [(stored_of_answers hanswers hne).2]
  exact h.firstOut.concat hidle

theorem idle_of_ne (h : ∀ ns text, exchange.1 ≠ .call (.runCommand ns text)) :
    Idle user roster exchange :=
  fun _ _ _ hsettles => Membership.not_orders_of_ne h hsettles.orders

theorem orderly_of_ne (hcommand : ∀ ns text, question ≠ .call (.runCommand ns text))
    (hdisrupts : ∀ node, ¬ Disrupts node question) :
    Orderly user roster earlier before question where
  one_out := fun _ _ horders => absurd horders (Membership.not_orders_of_ne hcommand)
  left := fun node _ h => absurd h (hdisrupts node)

/-! ## One member -/

section Member

variable {σ : Type} {s : σ} {address ns : String} {change : Membership.Change}

/-- The first member that is not recorded joins again, once it runs. When that is settled, nobody is
out. -/
theorem apply_start_calm (hblank : ' ' ∉ address.toList)
    (hfirst : (pending roster names).head? = some machine)
    (hcalm : Calm mode settings.adminUser roster earlier names state) :
    Ensures (terms mode settings.adminUser roster earlier)
      (Membership.apply settings ns address .start machine) s state fun outcome s' state' =>
        s' = s ∧ Calm mode settings.adminUser roster earlier names state' ∧
          (outcome = .ok true →
            ∀ names, FirstOut settings.adminUser roster names (earlier ++ state'.2)) := by
  have hstart : Orders settings.adminUser .start machine
      (.call (.runCommand ns (Membership.command settings.adminUser address .start machine))) :=
    ⟨_, _, rfl, Membership.concerns_command hblank settings.adminUser .start machine⟩
  refine (Membership.apply_ensures hblank ?_).mono ?_
  · refine ⟨fun node _ hstop => ?_, fun node _ hdisrupts => nomatch hdisrupts⟩
    exact nomatch (hstop.unique hstart).1
  · rintro outcome s' state' ⟨rfl, exchange, hanswers, hquestion, hdone, hnot⟩
    have hne : ∀ request, exchange.1 ≠ .call (.updateStatus request) := by simp [hquestion]
    refine ⟨rfl, ?_⟩
    by_cases houtcome : outcome = .ok true
    -- The one that was out is in again, so there is nobody left to speak of.
    · have hnobody : ∀ names, FirstOut settings.adminUser roster names (earlier ++ state'.2) := by
        rw [(stored_of_answers hanswers hne).2]
        exact hcalm.firstOut.concat_start hfirst (hdone houtcome)
      exact ⟨hcalm.step hanswers hne (hnobody names), fun _ => hnobody⟩
    · have hidle : Idle settings.adminUser roster exchange := fun node _ change =>
        hnot houtcome node change
      exact ⟨hcalm.idle hanswers hne hidle, fun h => absurd h houtcome⟩

theorem finishMachine_calm (hblank : ' ' ∉ address.toList)
    (hfirst : (pending roster names).head? = some machine)
    (hcalm : Calm mode settings.adminUser roster earlier names state) (markerReady : Bool) :
    Ensures (terms mode settings.adminUser roster earlier)
      (Imaging.finishMachine settings request machine markerReady (some address)) s state
      fun outcome s' state' => s' = s ∧ Calm mode settings.adminUser roster earlier names state' ∧
        (outcome = .ok true →
          ∀ names, FirstOut settings.adminUser roster names (earlier ++ state'.2)) := by
  -- Before the machine joins, nothing happens that takes anybody out.
  refine Imaging.ensures_finishMachine (Calm mode settings.adminUser roster earlier names)
    (fun state hcalm => ?_) (fun state hcalm => ?_) (fun outcome state hcalm hne => ?_)
    (fun state hcalm => apply_start_calm hblank hfirst hcalm) hcalm
  · refine ⟨orderly_of_ne (by simp) (fun _ h => nomatch h), fun answer state' hanswer => ?_⟩
    exact hcalm.idle hanswer (by simp) (idle_of_ne (by simp))
  · refine ⟨orderly_of_ne (by simp) (fun _ h => nomatch h), fun answer state' hanswer => ?_⟩
    exact hcalm.idle hanswer (by simp) (idle_of_ne (by simp))
  · exact ⟨rfl, hcalm, fun houtcome => absurd houtcome hne⟩

/-- The first member that is not recorded leaves; nobody else is out by then. -/
theorem apply_stop_calm (hblank : ' ' ∉ address.toList)
    (hfirst : (pending roster names).head? = some machine)
    (hcalm : Calm mode settings.adminUser roster earlier names state) :
    Ensures (terms mode settings.adminUser roster earlier)
      (Membership.apply settings ns address .stop machine) s state fun outcome s' state' =>
        s' = s ∧ Calm mode settings.adminUser roster earlier names state' ∧
          (outcome = .ok true → ∃ e ∈ state'.2, Settles settings.adminUser .stop machine e) := by
  have hstop : Orders settings.adminUser .stop machine
      (.call (.runCommand ns (Membership.command settings.adminUser address .stop machine))) :=
    ⟨_, _, rfl, Membership.concerns_command hblank settings.adminUser .stop machine⟩
  refine (Membership.apply_ensures hblank ?_).mono ?_
  -- Whoever is out already is the first that is not recorded, and that is the one to leave.
  · refine ⟨fun node _ horders other hother hout => ?_, fun node _ hdisrupts => nomatch hdisrupts⟩
    have hfirst' := hcalm.firstOut other hother hout
    rw [hfirst] at hfirst'
    exact (Option.some.inj hfirst').symm.trans (horders.unique hstop).2.symm
  · rintro outcome s' state' ⟨rfl, exchange, hanswers, hquestion, hdone, hnot⟩
    have hne : ∀ request, exchange.1 ≠ .call (.updateStatus request) := by simp [hquestion]
    refine ⟨rfl, ?_⟩
    by_cases houtcome : outcome = .ok true
    · refine ⟨hcalm.step hanswers hne ?_, fun _ => ⟨exchange, ?_, hdone houtcome⟩⟩
      · rw [(stored_of_answers hanswers hne).2]
        exact hcalm.firstOut.concat_stop hfirst (hdone houtcome)
      · rw [hanswers.2]
        simp
    · have hidle : Idle settings.adminUser roster exchange := fun node _ change =>
        hnot houtcome node change
      exact ⟨hcalm.idle hanswers hne hidle, fun h => absurd h houtcome⟩

/-- A member that has left in this pass may be powered off and marked. -/
theorem shutMachine_calm {name : String}
    (hname : Imaging.snapshotName request task machine = .ok name)
    (hleft : ∃ e ∈ state.2, Settles settings.adminUser .stop machine e)
    (hcalm : Calm mode settings.adminUser roster earlier names state) :
    Ensures (terms mode settings.adminUser roster earlier)
      (Imaging.shutMachine settings request task machine name) s state fun _ s' state' =>
        s' = s ∧ Calm mode settings.adminUser roster earlier names state' := by
  refine ((Imaging.shutMachine_asks hname).preserves (fun state =>
    Calm mode settings.adminUser roster earlier names state ∧
      ∃ e ∈ state.2, Settles settings.adminUser .stop machine e) ?_ ?_ ⟨hcalm, hleft⟩).mono
    fun _ _ _ h => ⟨h.1, h.2.1⟩
  · rintro state question ⟨-, hleft⟩ hquestion
    have hhandling := hquestion.isHandling (List.mem_singleton_self machine)
    refine ⟨?_, fun node _ hdisrupts => ?_⟩
    · rintro node - ⟨ns, text, rfl, -⟩
      cases hquestion
    · have hnode : node = machine := by simpa using mem_of_disrupts hhandling hdisrupts
      exact hnode ▸ hleft
  · rintro state exchange state' ⟨hcalm, e, he, hsettles⟩ hquestion hanswers
    have hne := ne_updateStatus_of_isHandling
      (hquestion.isHandling (List.mem_singleton_self machine))
    -- Neither a patch nor a marker is a command, so the member stays out.
    have hidle : Idle settings.adminUser roster exchange := by
      refine idle_of_ne fun ns text heq => ?_
      rw [heq] at hquestion
      cases hquestion
    refine ⟨hcalm.idle hanswers hne hidle, e, ?_, hsettles⟩
    rw [hanswers.2]
    exact List.mem_append_left _ he

theorem startMachine_calm {name : String}
    (hname : Imaging.snapshotName request task machine = .ok name)
    (hblank : ' ' ∉ address.toList) (hfirst : (pending roster names).head? = some machine)
    (hcalm : Calm mode settings.adminUser roster earlier names state) :
    Ensures (terms mode settings.adminUser roster earlier)
      (Imaging.startMachine settings request task machine name (some address)) s state
      fun _ s' state' => s' = s ∧ Calm mode settings.adminUser roster earlier names state' := by
  rw [Imaging.startMachine_some]
  refine (apply_stop_calm hblank hfirst hcalm).bind ?_ ?_
  · rintro stopped s' state' ⟨rfl, hcalm, hleft⟩
    cases stopped with
    | false => exact ⟨rfl, hcalm⟩
    | true => exact shutMachine_calm hname (hleft rfl) hcalm
  · rintro failure s' state' ⟨rfl, hcalm, -⟩
    exact ⟨rfl, hcalm⟩

theorem runMachine_calm {name : String} {markers : List Resource}
    (hname : Imaging.snapshotName request task machine = .ok name)
    (hblank : ' ' ∉ address.toList) (hfirst : (pending roster names).head? = some machine)
    (hcalm : Calm mode settings.adminUser roster earlier names state) :
    Ensures (terms mode settings.adminUser roster earlier)
      (Imaging.runMachine settings request task markers machine name (some address)) s state
      fun outcome s' state' => s' = s ∧ Calm mode settings.adminUser roster earlier names state' ∧
        (outcome = .ok true →
          ∀ names, FirstOut settings.adminUser roster names (earlier ++ state'.2)) := by
  rw [Imaging.runMachine]
  split
  · exact finishMachine_calm hblank hfirst hcalm _
  · refine (startMachine_calm hname hblank hfirst hcalm).bind ?_ ?_
    · rintro _ s' state' ⟨rfl, hcalm⟩
      exact ⟨rfl, hcalm, by simp⟩
    · rintro failure s' state' ⟨rfl, hcalm⟩
      exact ⟨rfl, hcalm, by simp⟩

end Member

/-! ## Sets of machines -/

variable {markers : List Resource} {fencing : Bool}

/-- What holds once the set of the roster was visited: both what was recorded before and what is
recorded now agree with who is out. -/
def Visited (mode : Mode) (user : String) (roster : List String) (earlier : List Exchange)
    (names : Dict String) {α : Type} :
    Except Failure α → Dict String → Request × List Exchange → Prop
  | .ok _, recorded, state => Calm mode user roster earlier names state ∧
    FirstOut user roster recorded (earlier ++ state.2)
  | .error _, _, state => Calm mode user roster earlier names state

/-- A pass over the set of the roster itself: it works on the first member that is not recorded, and
ends there. -/
theorem runSet_roster {set : Resource} (hmembers : MachineSet.members set = roster)
    (hsize : Imaging.minFencedSize ≤ MachineSet.size set) (hfencing : fencing = true)
    (hagree : ∀ node ∈ roster, recorded.find? node = names.find? node)
    (hcalm : Calm mode settings.adminUser roster earlier names state) :
    Ensures (terms mode settings.adminUser roster earlier)
      (Imaging.runSet settings request task markers fencing set) recorded state
      (Visited mode settings.adminUser roster earlier names) := by
  have hpending : pending roster recorded = pending roster names := pending_congr hagree
  have hfenced : Imaging.isFenced fencing set = true := by
    rw [Imaging.isFenced, hfencing, Bool.true_and, decide_eq_true hsize]
  rw [Imaging.ensures_runSet, hmembers]
  change Ensures _ (Imaging.runMembers settings request task markers fencing set
    (pending roster recorded)) recorded state _
  rw [hpending]
  cases hnames : pending roster names with
  | nil => exact ⟨hcalm, hcalm.firstOut.congr hagree⟩
  | cons machine rest =>
    have hfirst : (pending roster names).head? = some machine := by rw [hnames, List.head?_cons]
    refine Imaging.ensures_runMembers_cons (fun _ _ => hcalm) (fun _ _ => hcalm) ?_
    intro name address hname haddress
    have hblank := Imaging.blank_notMem_fencedAddress haddress
    obtain ⟨a, rfl, -⟩ := Imaging.exists_fencedAddress hfenced haddress
    -- Only a member that has joined again is recorded, and by then nobody is out.
    refine (runMachine_calm hname (hblank a rfl) hfirst hcalm).mono ?_
    rintro (failure | finished) recorded' state' ⟨rfl, hcalm, hnobody⟩
    · exact hcalm
    · cases finished with
      | false => exact ⟨hcalm, hcalm.firstOut.congr hagree⟩
      | true => exact ⟨hcalm, hnobody rfl _⟩

/-- Who handles only other machines changes nothing about the members of the roster. -/
theorem handling_other {α : Type} {x : Activity (Dict String) α}
    (hx : Ensures (Terms.only (IsHandling settings request task machines)) x recorded ()
      fun _ recorded' _ => ∀ machine ∉ machines, recorded'.find? machine = recorded.find? machine)
    (hother : ∀ node ∈ roster, node ∉ machines)
    (hcalm : Calm mode settings.adminUser roster earlier names state) :
    Ensures (terms mode settings.adminUser roster earlier) x recorded state
      fun _ recorded' state' => (∀ node ∈ roster, recorded'.find? node = recorded.find? node) ∧
        Calm mode settings.adminUser roster earlier names state' ∧
        (FirstOut settings.adminUser roster recorded (earlier ++ state.2) →
          FirstOut settings.adminUser roster recorded' (earlier ++ state'.2)) := by
  refine (hx.preserves (fun state' => Calm mode settings.adminUser roster earlier names state' ∧
      (FirstOut settings.adminUser roster recorded (earlier ++ state.2) →
        FirstOut settings.adminUser roster recorded (earlier ++ state'.2))) ?_ ?_
    ⟨hcalm, fun h => h⟩).mono ?_
  · exact fun _ _ _ hquestion => orderly_of_isHandling hquestion hother
  · rintro state' exchange state'' ⟨hcalm, hfirstOut⟩ hquestion hanswers
    have hidle := idle_of_isHandling hquestion hother
    have hne := ne_updateStatus_of_isHandling hquestion
    refine ⟨hcalm.idle hanswers hne hidle, fun h => ?_⟩
    rw [(stored_of_answers hanswers hne).2]
    exact (hfirstOut h).concat hidle
  · rintro _ recorded' state' ⟨hrecorded, hcalm, hfirstOut⟩
    have hagree : ∀ node ∈ roster, recorded'.find? node = recorded.find? node :=
      fun node hnode => hrecorded node (hother node hnode)
    exact ⟨hagree, hcalm, fun h => (hfirstOut h).congr hagree⟩

/-- A pass over sets of which at most one is that of the roster. -/
theorem runSets_visited {sets : List Resource} (hsteady : Steady roster sets)
    (hfencing : fencing = true)
    (hagree : ∀ node ∈ roster, recorded.find? node = names.find? node)
    (hcalm : Calm mode settings.adminUser roster earlier names state) :
    Ensures (terms mode settings.adminUser roster earlier)
      (sets.mapM (Imaging.runSet settings request task markers fencing)) recorded state
      (Visited mode settings.adminUser roster earlier names) := by
  induction sets generalizing recorded state with
  | nil => exact ⟨hcalm, hcalm.firstOut.congr hagree⟩
  | cons set sets ih =>
    obtain ⟨hset, hsets⟩ := List.forall_mem_cons.1 hsteady.fenced
    obtain ⟨hshared, hdisjoint⟩ := List.pairwise_cons.1 hsteady.disjoint
    rw [Activity.ensures_mapM_cons]
    -- The set at hand is that of the roster, or it shares no member with it.
    rcases hset with ⟨hmembers, hsize⟩ | hother
    · -- No later set is that of the roster.
      have hrest : ∀ node ∈ roster, node ∉ sets.flatMap MachineSet.members := by
        intro node hnode hmem
        obtain ⟨set', hset', hmember⟩ := List.mem_flatMap.1 hmem
        exact hshared set' hset' node (hmembers ▸ hnode) hmember
      have hsub : ∀ set' ∈ sets, MachineSet.members set' ⊆ sets.flatMap MachineSet.members :=
        fun set' hset' machine hmachine => List.mem_flatMap.2 ⟨set', hset', hmachine⟩
      refine (runSet_roster hmembers hsize hfencing hagree hcalm).mono ?_
      intro outcome recorded' state' hvisited
      cases outcome with
      | error failure => exact hvisited
      | ok pendingHere =>
        obtain ⟨hcalm, hfirstOut⟩ := hvisited
        refine Activity.then_ok.2 (Activity.ensures_bind.2 ?_)
        refine (handling_other (Imaging.runSets_asks hsub) hrest hcalm).mono ?_
        rintro outcome recorded'' state'' ⟨-, hcalm, hkeeps⟩
        cases outcome with
        | error failure => exact hcalm
        | ok pendingRest => exact ⟨hcalm, hkeeps hfirstOut⟩
    · refine (handling_other (Imaging.runSet_asks (List.Subset.refl _)) hother hcalm).mono ?_
      rintro outcome recorded' state' ⟨hagree', hcalm, -⟩
      cases outcome with
      | error failure => exact hcalm
      | ok pendingHere =>
        refine Activity.then_ok.2 (Activity.ensures_bind.2 ?_)
        refine (ih ⟨hsets, hdisjoint⟩ (fun node hnode => (hagree' node hnode).trans
          (hagree node hnode)) hcalm).mono fun outcome _ _ hvisited => ?_
        cases outcome <;> exact hvisited

theorem runPass_visited {sets : List Resource} (hsteady : Steady roster sets)
    (hfencing : fencing = true) (hcalm : Calm mode settings.adminUser roster earlier names state) :
    Ensures (terms mode settings.adminUser roster earlier)
      (Imaging.runPass settings request task sets fencing) names state
      (Visited mode settings.adminUser roster earlier names) := by
  refine Imaging.ensures_runPass.2
    ⟨orderly_of_ne (by simp) (fun _ h => nomatch h), fun answer state' hanswer => ?_⟩
  have hcalm := hcalm.idle hanswer (by simp) (idle_of_ne (by simp))
  cases answer with
  | error failure => exact hcalm
  | ok markers =>
    refine (runSets_visited hsteady hfencing (fun _ _ => rfl) hcalm).mono ?_
    rintro (failure | pending) _ _ hvisited <;> exact hvisited

/-! ## Passes and runs -/

/-- What is left after a failure: both the copy of the pass and the stored request agree with who is
out. -/
structure Settled (mode : Mode) (user : String) (roster : List String) (earlier : List Exchange)
    (request : Request) (state : Request × List Exchange) : Prop where
  mode_eq : request.spec.mode = mode ∧ state.1.spec.mode = mode
  held : FirstOut user roster request.currentStatus.snapshotNames (earlier ++ state.2)
  stored : FirstOut user roster state.1.currentStatus.snapshotNames (earlier ++ state.2)

/-- The invariant of a pass: the stored request has the machines recorded that its copy has, and
both they and what is recorded by now agree with who is out. -/
structure Steadfast (mode : Mode) (user : String) (roster : List String) (earlier : List Exchange)
    (recorded : Dict String) (request : Request) (state : Request × List Exchange) : Prop where
  mode_eq : request.spec.mode = mode
  calm : Calm mode user roster earlier request.currentStatus.snapshotNames state
  firstOut : FirstOut user roster recorded (earlier ++ state.2)

theorem Calm.settled {request : Request} (h : Calm mode user roster earlier
    request.currentStatus.snapshotNames state) (hmode : request.spec.mode = mode) :
    Settled mode user roster earlier request state :=
  ⟨⟨hmode, h.mode_eq⟩, h.firstOut, h.stored ▸ h.firstOut⟩

/-- After a write of the status, stored or not. Whatever was recorded, and is made lasting if the
write was stored, agrees with who is out, and so does what the copy had recorded before. -/
theorem settled_of_stores {request : Request} {status : Request.Status} {failure : Failure}
    (hmode : request.spec.mode = mode) (hmode' : state.1.spec.mode = mode)
    (hheld : FirstOut user roster request.currentStatus.snapshotNames (earlier ++ state.2))
    (hstored : FirstOut user roster state.1.currentStatus.snapshotNames (earlier ++ state.2))
    (hstatus : FirstOut user roster status.snapshotNames (earlier ++ state.2))
    (hanswers : (terms mode user roster earlier).answers state
      ⟨.call (.updateStatus { request with status := some status }),
        (.error failure : Except Failure Request)⟩ state') :
    Settled mode user roster earlier request state' := by
  obtain ⟨⟨-, hstores⟩, hrecord⟩ := hanswers
  have hkeep : ∀ {names}, FirstOut user roster names (earlier ++ state.2) →
      FirstOut user roster names (earlier ++ state'.2) :=
    fun h => h.record hrecord (idle_of_ne (by simp))
  -- A failed write may have been stored all the same.
  cases hstores with
  | other hne => exact absurd rfl (hne _)
  | refused _ hagrees =>
    refine ⟨⟨hmode, hagrees.mode.trans hmode'⟩, hkeep hheld, ?_⟩
    rw [hagrees.snapshotNames]
    exact hkeep hstored
  | lost _ hagrees =>
    refine ⟨⟨hmode, hagrees.mode.trans hmode⟩, hkeep hheld, ?_⟩
    rw [hagrees.snapshotNames]
    exact hkeep hstatus

/-- After a write of the status that was stored. -/
theorem calm_of_stores {request answer : Request} {status : Request.Status}
    (hmode : request.spec.mode = mode)
    (hstatus : FirstOut user roster status.snapshotNames (earlier ++ state.2))
    (hanswers : (terms mode user roster earlier).answers state
      ⟨.call (.updateStatus { request with status := some status }),
        (.ok answer : Except Failure Request)⟩ state') :
    answer.spec.mode = mode ∧
      Calm mode user roster earlier answer.currentStatus.snapshotNames state' := by
  obtain ⟨⟨-, hstores⟩, hrecord⟩ := hanswers
  cases hstores with
  | other hne => exact absurd rfl (hne _)
  | accepted hagrees =>
    have hmode' : state'.1.spec.mode = mode := hagrees.mode.trans hmode
    refine ⟨hmode', hmode', rfl, ?_⟩
    rw [hagrees.snapshotNames]
    exact hstatus.record hrecord (idle_of_ne (by simp))

theorem keeps (settings : Settings) (mode : Mode) (roster : List String) (earlier : List Exchange) :
    Saga.Keeps (terms mode settings.adminUser roster earlier) settings mode
      (Steadfast mode settings.adminUser roster earlier)
      (Settled mode settings.adminUser roster earlier) (Listed roster) where
  failed_of_inv := fun _ _ _ h => h.calm.settled h.mode_eq
  asks := fun _ _ _ _ _ hplain => orderly_of_isPlain hplain
  plain := by
    intro recorded request state exchange state' h hplain hanswers
    have hne := hplain.ne_updateStatus
    -- A plain question is about no machine, so nobody leaves and nobody joins.
    have hidle : Idle settings.adminUser roster exchange := idle_of_isPlain hplain
    refine ⟨h.mode_eq, h.calm.idle hanswers hne hidle, ?_⟩
    rw [(stored_of_answers hanswers hne).2]
    exact h.firstOut.concat hidle
  managed := fun hsave _ ns kind objects _ hanswers =>
    hanswers.1.1.listed hsave ns kind objects rfl
  bundled := fun _ _ ns name bundle _ hanswers => hanswers.1.1.bundled ns name bundle rfl
  imaging := by
    intro request state imaging task sets planes h hsets hplanes
    refine (runPass_visited (hsets.steady rfl) (hplanes.fencing rfl) h.calm).mono ?_
    intro outcome recorded state' hvisited
    cases outcome with
    | ok pendingAll => exact ⟨h.mode_eq, hvisited.1, hvisited.2⟩
    | error failure => exact hvisited.settled h.mode_eq
  write := by
    intro request status state h
    refine ⟨orderly_of_ne (by simp) (fun _ h => nomatch h), ?_⟩
    intro answer state' hanswers
    cases answer with
    | ok answer =>
      obtain ⟨hmode, hcalm⟩ := calm_of_stores h.mode_eq h.firstOut hanswers
      exact ⟨hmode, hcalm, hcalm.firstOut⟩
    | error failure =>
      obtain ⟨⟨hmode, hmode'⟩, hheld, hstored⟩ := h.calm.settled h.mode_eq
      exact settled_of_stores hmode hmode' hheld hstored h.firstOut hanswers
  asks_clock := fun _ _ _ => orderly_of_isPlain trivial
  clock := by
    intro request state now state' h hanswers
    obtain ⟨hagrees, hrecord⟩ := stored_of_answers hanswers (by simp)
    have hidle : Idle settings.adminUser roster ⟨.clock, now⟩ := idle_of_isPlain trivial
    refine ⟨⟨h.mode_eq.1, hagrees.mode.trans h.mode_eq.2⟩, ?_, ?_⟩
    · rw [hrecord]
      exact h.held.concat hidle
    · rw [hagrees.snapshotNames, hrecord]
      exact h.stored.concat hidle
  write_failed := by
    intro request status state h hsame
    refine ⟨orderly_of_ne (by simp) (fun _ h => nomatch h), ?_⟩
    intro answer state' hanswers
    -- The failure is announced with the machines that were recorded before.
    have hstatus : FirstOut settings.adminUser roster status.snapshotNames (earlier ++ state.2) :=
      hsame ▸ h.held
    cases answer with
    | ok answer =>
      obtain ⟨hmode, hcalm⟩ := calm_of_stores h.mode_eq.1 hstatus hanswers
      exact hcalm.settled hmode
    | error failure =>
      exact settled_of_stores h.mode_eq.1 h.mode_eq.2 h.held h.stored hstatus hanswers

/-- The invariant of a run: who is out between two passes is the first member that is not recorded
in the stored request. -/
structure Resting (mode : Mode) (user : String) (roster : List String) (earlier : List Exchange)
    (stored : Request) : Prop where
  mode_eq : stored.spec.mode = mode
  firstOut : FirstOut user roster stored.currentStatus.snapshotNames earlier

theorem resting_nil {first : Request} : Resting first.spec.mode user roster [] first :=
  ⟨rfl, fun _ _ hout => absurd hout Membership.out_nil⟩

theorem Resting.of_agrees {stored stored' : Request} (h : Resting mode user roster earlier stored)
    (hagrees : Agrees stored' stored) : Resting mode user roster earlier stored' := by
  refine ⟨hagrees.mode.trans h.mode_eq, ?_⟩
  rw [hagrees.snapshotNames]
  exact h.firstOut

/-- A pass over the stored request asks orderly questions and keeps the invariant. -/
theorem Resting.reconcile {stored : Request}
    (h : Resting mode settings.adminUser roster earlier stored) :
    Ensures (terms mode settings.adminUser roster earlier) (Saga.reconcile settings) stored
      (stored, []) fun _ _ state =>
        Resting mode settings.adminUser roster (earlier ++ state.2) state.1 := by
  have hcalm : Calm mode settings.adminUser roster earlier stored.currentStatus.snapshotNames
      (stored, []) := by
    refine ⟨h.mode_eq, rfl, ?_⟩
    rw [List.append_nil]
    exact h.firstOut
  refine ((keeps settings mode roster earlier).reconcile h.mode_eq
    ⟨h.mode_eq, hcalm, hcalm.firstOut⟩).mono ?_
  exact fun _ _ _ hsettled => ⟨hsettled.mode_eq.2, hsettled.stored⟩

/-- Every question of every run is orderly: no member of a set is taken out of its cluster while
another is out, and a member is powered off or marked only in a pass in which it has left. Commands
may have any outcome, calls may fail, writes of the status may be lost, and machines and markers may
change at any time. -/
theorem orderly_of_asked {first last : Request} {transcripts : List (List Exchange)}
    (hrun : Saga.Runs (surroundings first.spec.mode roster) settings first transcripts last)
    (hasked : Saga.Asked transcripts earlier before question) :
    Orderly settings.adminUser roster earlier before question := by
  have hpass : ∀ earlier stored request,
      Resting first.spec.mode settings.adminUser roster earlier stored →
      (surroundings first.spec.mode roster).gives stored request →
      Ensures (terms first.spec.mode settings.adminUser roster earlier) (Saga.reconcile settings)
        request (stored, []) fun _ _ state =>
          Resting first.spec.mode settings.adminUser roster (earlier ++ state.2) state.1 := by
    intro earlier stored request h hgives
    obtain rfl : request = stored := hgives
    exact h.reconcile
  obtain ⟨stored, horderly⟩ := hrun.asked (Resting first.spec.mode settings.adminUser roster)
    (fun earlier state => Orderly settings.adminUser roster earlier state.2) resting_nil
    (fun _ _ _ h hagrees => h.of_agrees hagrees) hpass hasked
  exact horderly

/-! ## A cluster of three machines -/

/-- The machines of the cluster. -/
def trio : List String := ["vm-0", "vm-1", "vm-2"]

/-- A set of the three machines, each with an address. -/
def trioSet : Resource where
  fields := .ofList [("spec", .object [("vmCount", .int 3)]),
    ("status", .object [("vmHosts", .object (trio.map fun machine =>
      (machine, .object [("ipAddresses", .object [("ctlplane", .str "192.168.25.10/24")])])))])]

/-- A control plane that asks for machines to leave their cluster. -/
def trioPlane : Resource where
  fields := .ofList [("spec", .object [("enableFencing", .bool true)])]

/-- What is listed of each kind. -/
def trioObjects : ManagedKind → List Resource
  | .vmSet => [trioSet]
  | .controlPlane => [trioPlane]
  | _ => []

/-- Lists the set and its control plane and nothing else, and accepts whatever is asked. -/
def trioRespond : (question : Query) → Request → question.Answer × Request
  | .clock, stored => ((default : Instant), stored)
  | .call (.listManaged _ kind), stored =>
    ((.ok (trioObjects kind) : Except Failure (List Resource)), stored)
  | .call (.listConfigMaps _ _), stored => ((.ok [] : Except Failure (List ConfigMap)), stored)
  | .call (.listSecrets _ _), stored => ((.ok [] : Except Failure (List Secret)), stored)
  | .call (.listMarkers _ _ _), stored => ((.ok [] : Except Failure (List Resource)), stored)
  | .call (.runCommand _ _), stored =>
    ((.ok { success := true } : Except Failure CommandOutput), stored)
  | .call (.getMachine _ _), stored => ((.ok (some {}) : Except Failure (Option Resource)), stored)
  | .call (.createMarker _ _ _), stored => ((.ok () : Except Failure Unit), stored)
  | .call (.updateStatus request), _ => ((.ok request : Except Failure Request), request)
  | .call c, stored => ((.error (.api "not served") : Except Failure c.Answer), stored)

theorem listed_trioObjects (kind : ManagedKind) : Listed trio kind (trioObjects kind) where
  steady := by
    rintro rfl
    refine ⟨fun set hset => ?_, List.pairwise_singleton _ _⟩
    obtain rfl : set = trioSet := List.mem_singleton.1 hset
    exact .inl (by decide +kernel)
  fencing := by
    rintro rfl
    decide

theorem honest_trioRespond (question : Query) (stored : Request) :
    Honest .save trio ⟨question, (trioRespond question stored).1⟩ where
  listed := by
    intro _ ns kind objects heq
    cases question with
    | clock => cases heq
    | call c =>
      cases c with
      | listManaged ns' kind' =>
        cases heq
        exact listed_trioObjects kind
      | _ => cases heq
  bundled := by
    intro ns name bundle heq
    cases question with
    | clock => cases heq
    | call c => cases c <;> cases heq

theorem answers_trioRespond (question : Query) (stored : Request) :
    (surroundings .save trio).answers stored ⟨question, (trioRespond question stored).1⟩
      (trioRespond question stored).2 := by
  refine ⟨honest_trioRespond question stored, ?_⟩
  cases question with
  | clock => exact .other (by simp) ⟨rfl, rfl⟩
  | call c =>
    cases c with
    | updateStatus request => exact .accepted ⟨rfl, rfl⟩
    | _ => exact .other (by simp) ⟨rfl, rfl⟩

/-- A request to save in which the images of all machines are to be taken. -/
def trioRequest : Request where
  metadata := { name := some "save", ns := some "cloud", creationTimestamp := some ⟨0, false⟩ }
  spec := { includeImages := true }
  status := some { state := .saving }

/-- The first machine leaves its cluster, and its marker is made. -/
theorem orderly_trioRequest :
    let transcript := (Saga.reconcile {} trioRequest).transcript trioRespond trioRequest
    transcript.any (·.1 = .call (.runCommand "cloud"
      (Membership.command "cloud-admin" "192.168.25.10" .stop "vm-0"))) = true ∧
    ∀ earlier before question, Saga.Asked [transcript] earlier before question →
      Orderly "cloud-admin" trio earlier before question := by
  have hrun : Saga.Runs (surroundings trioRequest.spec.mode trio) {} trioRequest _ _ :=
    Saga.runs_transcript answers_trioRespond ⟨rfl, rfl⟩ rfl
  exact ⟨by decide +kernel, fun _ _ _ hasked => orderly_of_asked hrun hasked⟩

end Quorum

end NamespaceBackup
