import NamespaceBackup.Proofs.Journals
import NamespaceBackup.Proofs.Quorum
import NamespaceBackup.Proofs.Recording

/-!
# The books of a visit to the machines

A visit works through each set in order of name. It records members as long as they are finished,
and leaves the set with the first one that is not, or with the first one that is if the set is
fenced. So whom it records are the first that were waiting, and all that it changes in a set it
changes about one machine: the one that it stopped at. This holds of a visit that fails, too.

## Main definitions

* `Imaging.Touches`: a question that changes something about a machine
* `Imaging.touching`: the terms on which it is remembered whose machines were touched
* `Imaging.Attends`: what a visit does for one set

## Main results

* `Imaging.runMembers_attends`, `Imaging.runSet_attends`, `Imaging.runSets_attends`,
  `Imaging.runPass_attends`: some members, one set, several sets, all
* `Imaging.books_of_yields`: a whole visit
-/

namespace NamespaceBackup.Imaging

open Activity (Asks Ensures)
open Dialogue (Yields)
open Quorum (pending)

/-! ## Who is touched -/

/-- A question that changes something about a machine: its object, its membership, or that there is
a marker for it. -/
inductive Touches (user machine : String) : Query → Prop
  | patch (ns : String) (patch : Json) :
    Touches user machine (.call (.patchMachine ns machine patch))
  | mark (ns : String) (kind : MarkerKind) {marker : Resource} (h : Marks marker machine) :
    Touches user machine (.call (.createMarker ns kind marker))
  | command {change : Membership.Change} {question : Query}
    (h : Membership.Orders user change machine question) : Touches user machine question

/-- The questions that change something about some machine. -/
def isTouch : Query → Bool
  | .call (.patchMachine ..) | .call (.createMarker ..) | .call (.runCommand ..) => true
  | _ => false

/-- The terms on which it is remembered who was touched. -/
def touching (user : String) : Terms Query Query.Answer (String → Prop) where
  answers touched exchange touched' :=
    ∀ machine, touched' machine ↔ touched machine ∨ Touches user machine exchange.1

theorem path_touching (user : String) {transcript : List Exchange} {touched : String → Prop} :
    (touching user).answers.Path touched transcript fun machine =>
      touched machine ∨ ∃ exchange ∈ transcript, Touches user machine exchange.1 := by
  induction transcript generalizing touched with
  | nil => simp
  | cons exchange transcript ih =>
    refine .cons (v := fun machine => touched machine ∨ Touches user machine exchange.1)
      (fun _ => Iff.rfl) ?_
    convert ih using 2 with machine
    simp [or_assoc]

variable {settings : Settings} {request : Request} {task : Task} {machines : List String}
  {machine other name : String} {address : Option String} {question : Query} {σ : Type} {s : σ}
  {touched : String → Prop} {user : String}

theorem not_touches_read {ns : String} :
    ¬ Touches user other (.call (.getMachine ns machine)) := by
  rintro (_ | _ | ⟨_, _, ⟨⟩, -⟩)

theorem touches_patch {ns : String} {patch : Json} :
    Touches user other (.call (.patchMachine ns machine patch)) ↔ other = machine := by
  constructor
  · rintro (_ | _ | ⟨_, _, ⟨⟩, -⟩)
    rfl
  · rintro rfl
    exact .patch ns patch

theorem touches_buildMarker {ns : String} {kind : MarkerKind} :
    Touches user other (.call (.createMarker ns kind
      (buildMarker settings request task machine name))) ↔ other = machine := by
  constructor
  · rintro (_ | ⟨_, _, hmarks⟩ | ⟨_, _, ⟨⟩, -⟩)
    exact marks_buildMarker.1 hmarks
  · rintro rfl
    exact .mark ns kind (marks_buildMarker.2 rfl)

theorem touches_command {ns text : String} {change : Membership.Change}
    (h : Membership.Concerns user change machine text) :
    Touches user other (.call (.runCommand ns text)) ↔ other = machine := by
  constructor
  · rintro (_ | _ | horders)
    exact (horders.unique ⟨ns, text, rfl, h⟩).2
  · rintro rfl
    exact .command ⟨ns, text, rfl, h⟩

/-- Whoever is touched when machines are handled is one of them. -/
theorem mem_of_touches (h : IsHandling settings request task machines question)
    (htouches : Touches settings.adminUser machine question) : machine ∈ machines := by
  cases h with
  | read => exact absurd htouches not_touches_read
  | powerOn hmem => exact touches_patch.1 htouches ▸ hmem
  | powerOff hmem => exact touches_patch.1 htouches ▸ hmem
  | mark hmem => exact touches_buildMarker.1 htouches ▸ hmem
  | command hmem hblank change =>
    exact (touches_command (Membership.concerns_command hblank _ change _)).1 htouches ▸ hmem

/-- Whatever a visit changes it changes about one of the machines. -/
theorem exists_touches (h : IsImaging settings request task machines question)
    (htouch : isTouch question = true) :
    ∃ machine ∈ machines, Touches settings.adminUser machine question := by
  rcases h with _ | h
  · cases htouch
  · cases h with
    | read => cases htouch
    | powerOn hmem => exact ⟨_, hmem, touches_patch.2 rfl⟩
    | powerOff hmem => exact ⟨_, hmem, touches_patch.2 rfl⟩
    | mark hmem => exact ⟨_, hmem, touches_buildMarker.2 rfl⟩
    | command hmem hblank change =>
      exact ⟨_, hmem, (touches_command (Membership.concerns_command hblank _ change _)).2 rfl⟩

/-! ## One machine -/

/-- Nobody but one machine was touched since. -/
def OnlyTouches (machine : String) (touched touched' : String → Prop) : Prop :=
  ∀ other, other ≠ machine → (touched' other ↔ touched other)

theorem asks_only {x : Activity σ Bool} (hx : Asks (IsHandling settings request task [machine]) x) :
    Ensures (touching settings.adminUser) x s touched fun _ s' touched' =>
      s' = s ∧ OnlyTouches machine touched touched' := by
  refine hx.preserves (OnlyTouches machine touched) (fun _ _ _ _ => trivial) ?_ fun _ _ => Iff.rfl
  intro before exchange after honly hquestion hanswers other hne
  have hnot : ¬ Touches settings.adminUser other exchange.1 := fun htouches =>
    hne (List.mem_singleton.1 (mem_of_touches hquestion htouches))
  rw [hanswers other, or_iff_left hnot]
  exact honly other hne

/-- A machine that need not join a cluster is finished only if nothing is left to be changed. -/
theorem finishMachine_untouched {markerReady : Bool} :
    Ensures (touching settings.adminUser)
      (finishMachine settings request machine markerReady none) s touched
      fun outcome _ touched' => outcome = .ok true → touched' = touched := by
  cases markerReady with
  | false => exact nofun
  | true =>
    refine Activity.ensures_call_bind.2 ⟨trivial, ?_⟩
    intro (answer : Except Failure (Option Resource)) touched' hanswers
    have heq : touched' = touched := funext fun other =>
      propext ((hanswers other).trans (or_iff_left not_touches_read))
    rcases answer with failure | (_ | object)
    · exact nofun
    · exact nofun
    · refine Activity.then_ok.2 ?_
      by_cases hkept : Machine.isKeptRunning object = true
      · by_cases hready : Machine.isReady object = true
        · simp only [hkept, hready]
          exact fun _ => heq
        · simp only [hkept, hready]
          exact nofun
      · simp only [hkept]
        refine Activity.ensures_call_bind.2 ⟨trivial, fun answer _ _ => ?_⟩
        cases answer <;> exact nofun

/-- The step for a machine touches nobody else, and finishes a machine that need not join a cluster
only if nothing is left to be changed. -/
theorem runMachine_touches {markers : List Resource}
    (hname : snapshotName request task machine = .ok name)
    (hblank : ∀ a ∈ address, ' ' ∉ a.toList) :
    Ensures (touching settings.adminUser)
      (runMachine settings request task markers machine name address) s touched
      fun outcome s' touched' => (s' = s ∧ OnlyTouches machine touched touched') ∧
        (outcome = .ok true → address = none → touched' = touched) := by
  refine (asks_only (runMachine_asks (List.mem_singleton_self machine) hname hblank)).and ?_
  rw [runMachine]
  split
  case h_1 marker _ =>
    cases address with
    | none => exact finishMachine_untouched.mono fun _ _ _ h hdone _ => h hdone
    | some a =>
      have hfinish (markerReady : Bool) : Asks (IsHandling settings request task [machine])
          (finishMachine settings request machine markerReady (some a) : Activity σ Bool) :=
        (finishMachine_asks hblank markerReady).mono fun _ h =>
          h.isHandling (List.mem_singleton_self machine)
      refine (asks_only (hfinish _)).mono fun _ _ _ _ _ hnone => ?_
      cases hnone
  case h_2 =>
    -- A machine that is only started is not finished.
    have hstart : Asks (fun _ => True)
        (startMachine settings request task machine name address : Activity σ Unit) :=
      (startMachine_asks (List.mem_singleton_self machine) hname hblank).mono fun _ _ => trivial
    refine hstart.preserves_bind (fun _ => True) (fun _ _ _ _ => trivial)
      (fun _ _ _ _ _ _ => trivial) trivial ?_ ?_
    · rintro _ _ _ ⟨⟩
    · rintro _ _ _ ⟨⟩

/-! ## One set -/

/-- What a visit does for a set: whom it records are the first of those who were waiting, and no
more than one if the set is fenced. It touches one member at most: the first of those who are still
waiting, or the only one whom it records if the set is fenced. -/
structure Attends (fenced : Bool) (waiting rest done : List String) (touched : String → Prop) :
    Prop where
  split : waiting = done ++ rest
  one : fenced = true → done.length ≤ 1
  sole : ∃ subject : Option String,
    (subject = rest.head? ∨ fenced = true ∧ done = subject.toList) ∧
      ∀ machine, touched machine → subject = some machine

namespace Attends

variable {fenced : Bool} {waiting rest done : List String} {touched touched' : String → Prop}

/-- Nobody is recorded, and nobody but the first is touched. -/
theorem stop (h : ∀ machine, touched machine → waiting.head? = some machine) :
    Attends fenced waiting waiting [] touched where
  split := rfl
  one _ := Nat.zero_le 1
  sole := ⟨waiting.head?, .inl rfl, h⟩

theorem mono (h : Attends fenced waiting rest done touched)
    (htouched : ∀ machine, touched' machine → touched machine) :
    Attends fenced waiting rest done touched' where
  split := h.split
  one := h.one
  sole := by
    obtain ⟨subject, hsubject, hsole⟩ := h.sole
    exact ⟨subject, hsubject, fun machine hmachine => hsole machine (htouched machine hmachine)⟩

/-- The first member of a fenced set is recorded, and the visit to the set is over. -/
theorem join {machine : String} (h : ∀ other, touched other → other = machine) :
    Attends true (machine :: rest) rest [machine] touched where
  split := rfl
  one _ := Nat.le_refl 1
  sole := ⟨some machine, .inr ⟨rfl, rfl⟩, fun other hother => congrArg some (h other hother).symm⟩

/-- The first member of a set that is not fenced is recorded, and the visit goes on. -/
theorem next {machine : String} (h : Attends false waiting rest done touched) :
    Attends false (machine :: waiting) rest (machine :: done) touched where
  split := congrArg (machine :: ·) h.split
  one := nofun
  sole := by
    obtain ⟨subject, hsubject, hsole⟩ := h.sole
    exact ⟨subject, hsubject.imp_right nofun, hsole⟩

end Attends

theorem isSome_fencedAddress {fencing : Bool} {set : Resource}
    (h : fencedAddress settings fencing set machine = .ok address) :
    address.isSome = isFenced fencing set := by
  cases hfenced : isFenced fencing set with
  | true =>
    obtain ⟨a, rfl, -⟩ := exists_fencedAddress hfenced h
    rfl
  | false =>
    rw [fencedAddress, hfenced] at h
    cases h
    rfl

/-- What is known after a visit to some members who were not recorded: whom it has recorded, and
that it has touched nobody else. -/
structure Attendance (fenced : Bool) (members : List String) (recorded : Dict String)
    (touched : String → Prop) (outcome : Except Failure (List String)) (recorded' : Dict String)
    (touched' : String → Prop) (done rest : List String) : Prop where
  attends : Attends fenced members rest done fun machine => machine ∈ members ∧ touched' machine
  recorded_iff : ∀ machine, recorded'.contains machine = true ↔
    recorded.contains machine = true ∨ machine ∈ done
  pending : ∀ pending, outcome = .ok pending → pending = rest
  others : ∀ machine ∉ members, (touched' machine ↔ touched machine)

variable {markers : List Resource} {fencing : Bool} {set : Resource} {recorded : Dict String}
  {members : List String}

/-- A visit that ends before anybody is recorded, having touched nobody but the first member. -/
theorem Attendance.stop {outcome : Except Failure (List String)} {touched' : String → Prop}
    {rest : List String} {fenced : Bool} (honly : OnlyTouches machine touched touched')
    (huntouched : ∀ other ∈ machine :: rest, ¬ touched other)
    (hpending : ∀ pending, outcome = .ok pending → pending = machine :: rest) :
    Attendance fenced (machine :: rest) recorded touched outcome recorded touched' []
      (machine :: rest) where
  attends := by
    refine .stop ?_
    rintro other ⟨hmem, htouched⟩
    by_contra hne
    have hother : other ≠ machine := fun heq => hne (congrArg some heq.symm)
    exact huntouched other hmem ((honly other hother).1 htouched)
  recorded_iff := by simp
  pending := hpending
  others other hother := honly other fun heq => hother (heq ▸ List.mem_cons_self)

/-- A visit to a fenced set ends with the first member that is recorded. -/
theorem Attendance.join {outcome : Except Failure (List String)} {touched' : String → Prop}
    {rest : List String} (honly : OnlyTouches machine touched touched')
    (huntouched : ∀ other ∈ machine :: rest, ¬ touched other)
    (hpending : ∀ pending, outcome = .ok pending → pending = rest) :
    Attendance true (machine :: rest) recorded touched outcome (recorded.insert machine name) touched'
      [machine] rest where
  attends := by
    refine .join ?_
    rintro other ⟨hmem, htouched⟩
    by_contra hne
    exact huntouched other hmem ((honly other hne).1 htouched)
  recorded_iff other := by
    simp only [Dict.contains_insert, Bool.or_eq_true, decide_eq_true_eq, List.mem_singleton,
      eq_comm (a := other)]
    exact or_comm
  pending := hpending
  others other hother := honly other fun heq => hother (heq ▸ List.mem_cons_self)

/-- A visit to a set that is not fenced goes on with the other members once one is recorded that it
did not have to touch. -/
theorem Attendance.next {outcome : Except Failure (List String)} {recorded' : Dict String}
    {touched' : String → Prop} {rest done left : List String} (hmachine : machine ∉ rest)
    (huntouched : ¬ touched machine)
    (h : Attendance false rest (recorded.insert machine name) touched outcome recorded' touched' done
      left) :
    Attendance false (machine :: rest) recorded touched outcome recorded' touched' (machine :: done)
      left where
  attends := by
    refine .next (h.attends.mono ?_)
    rintro other ⟨hmem, htouched⟩
    rcases List.mem_cons.1 hmem with rfl | hmem
    · exact absurd ((h.others other hmachine).1 htouched) huntouched
    · exact ⟨hmem, htouched⟩
  recorded_iff other := by
    simp only [h.recorded_iff, Dict.contains_insert, Bool.or_eq_true, decide_eq_true_eq,
      List.mem_cons, eq_comm (a := other)]
    tauto
  pending := h.pending
  others other hother := h.others other fun hmem => hother (List.mem_cons_of_mem _ hmem)

theorem runMembers_attends (hnodup : members.Nodup)
    (huntouched : ∀ machine ∈ members, ¬ touched machine) :
    Ensures (touching settings.adminUser)
      (runMembers settings request task markers fencing set members) recorded touched
      fun outcome recorded' touched' => ∃ done rest,
        Attendance (isFenced fencing set) members recorded touched outcome recorded' touched' done
          rest := by
  induction members generalizing recorded touched with
  | nil =>
    refine ⟨[], [], .stop (by simp), by simp, ?_, fun _ _ => Iff.rfl⟩
    rintro pending heq
    exact (Except.ok.inj heq).symm
  | cons machine rest ih =>
    obtain ⟨hmachine, hrest⟩ := List.nodup_cons.1 hnodup
    obtain ⟨hfirst, hothers⟩ := List.forall_mem_cons.1 huntouched
    have hsame : OnlyTouches machine touched touched := fun _ _ => Iff.rfl
    refine ensures_runMembers_cons (fun _ _ => ⟨_, _, .stop hsame huntouched nofun⟩)
      (fun _ _ => ⟨_, _, .stop hsame huntouched nofun⟩) ?_
    intro name address hname haddress
    refine (runMachine_touches hname (blank_notMem_fencedAddress haddress)).mono ?_
    rintro outcome recorded' touched' ⟨⟨rfl, honly⟩, hquiet⟩
    have hfenced := isSome_fencedAddress haddress
    have hended : ∀ {left pending : List String},
        (.ok left : Except Failure (List String)) = .ok pending → pending = left :=
      fun heq => (Except.ok.inj heq).symm
    rcases outcome with failure | _ | _
    · exact ⟨_, _, .stop honly huntouched nofun⟩
    · exact ⟨_, _, .stop honly huntouched fun _ => hended⟩
    · cases address with
      | some a =>
        -- The visit to the set is over, since the machine has joined its cluster.
        rw [← hfenced]
        exact ⟨[machine], rest, .join honly huntouched fun _ => hended⟩
      | none =>
        -- Nobody was touched, so whoever is touched is among the rest.
        obtain rfl := hquiet rfl rfl
        rw [← hfenced] at ih ⊢
        simp only [Option.isSome_none, Bool.false_eq_true, if_false]
        refine (ih hrest hothers).mono ?_
        rintro outcome recorded'' touched'' ⟨done, left, hvisited⟩
        exact ⟨machine :: done, left, hvisited.next hmachine hfirst⟩

/-- Who is still waiting is not recorded, and who is recorded is not waiting any more. -/
theorem pending_of_recorded {roster done rest : List String} {recorded' : Dict String}
    (hnodup : roster.Nodup) (hsplit : pending roster recorded = done ++ rest)
    (hrecorded : ∀ machine, recorded'.contains machine = true ↔
      recorded.contains machine = true ∨ machine ∈ done) : pending roster recorded' = rest := by
  have hfilter : pending roster recorded' = (pending roster recorded).filter (· ∉ done) := by
    rw [pending, pending, List.filter_filter]
    refine List.filter_congr fun machine _ => ?_
    have hcontains : recorded'.contains machine =
        (recorded.contains machine || decide (machine ∈ done)) := by
      rw [Bool.eq_iff_iff, hrecorded]
      simp
    rw [hcontains]
    simp [Bool.and_comm]
  have happend : (done ++ rest).Nodup := by
    rw [← hsplit]
    exact hnodup.filter _
  have hdisjoint := (List.nodup_append.1 happend).2.2
  rw [hfilter, hsplit, List.filter_append, List.filter_eq_nil_iff.2 (by simp), List.nil_append]
  refine List.filter_eq_self.2 fun machine hmachine => ?_
  exact decide_eq_true fun hdone => hdisjoint machine hdone machine hmachine rfl

/-- What is known of a set after a visit: whom the visit has recorded, who is left, and that it has
worked on one member at most. -/
def Attended (fencing : Bool) (set : Resource) (recorded recorded' : Dict String)
    (touched : String → Prop) : Prop :=
  ∃ done, Attends (isFenced fencing set) (pending (MachineSet.members set) recorded)
    (pending (MachineSet.members set) recorded') done fun machine =>
      machine ∈ MachineSet.members set ∧ touched machine

/-- What is as it was before: the records of others, and whether they were touched. -/
def Elsewhere (roster : List String) (recorded recorded' : Dict String)
    (touched touched' : String → Prop) : Prop :=
  ∀ machine ∉ roster, recorded'.contains machine = recorded.contains machine ∧
    (touched' machine ↔ touched machine)

theorem runSet_attends (huntouched : ∀ machine ∈ MachineSet.members set, ¬ touched machine) :
    Ensures (touching settings.adminUser) (runSet settings request task markers fencing set)
      recorded touched fun outcome recorded' touched' =>
        (∀ waiting, outcome = .ok waiting → waiting = pending (MachineSet.members set) recorded') ∧
        Attended fencing set recorded recorded' touched' ∧
        Elsewhere (MachineSet.members set) recorded recorded' touched touched' := by
  have hnodup := MachineSet.nodup_members set
  have hsub : pending (MachineSet.members set) recorded ⊆ MachineSet.members set :=
    fun _ h => (List.mem_filter.1 h).1
  refine ensures_runSet.2 ((runMembers_attends (hnodup.filter _) fun machine hmachine =>
    huntouched machine (hsub hmachine)).mono ?_)
  rintro outcome recorded' touched' ⟨done, rest, hvisited⟩
  have hrest := pending_of_recorded hnodup hvisited.attends.split hvisited.recorded_iff
  refine ⟨fun waiting heq => hrest ▸ hvisited.pending waiting heq, ⟨done, ?_⟩, ?_⟩
  · -- Whoever was recorded before is not touched.
    rw [hrest]
    refine hvisited.attends.mono ?_
    rintro machine ⟨hmember, htouched⟩
    refine ⟨?_, htouched⟩
    by_contra hnot
    exact huntouched machine hmember ((hvisited.others machine hnot).1 htouched)
  · intro machine hnot
    have hdone : machine ∉ done := by
      intro hdone
      have hwaiting : machine ∈ pending (MachineSet.members set) recorded := by
        rw [show pending _ _ = done ++ rest from hvisited.attends.split]
        exact List.mem_append_left _ hdone
      exact hnot (hsub hwaiting)
    refine ⟨?_, hvisited.others machine fun hwaiting => hnot (hsub hwaiting)⟩
    rw [Bool.eq_iff_iff, hvisited.recorded_iff, or_iff_left hdone]

/-! ## Several sets -/

section Frame

variable {recorded' : Dict String} {touched' : String → Prop} {roster : List String}

theorem Elsewhere.trans {other : List String} {recorded'' : Dict String} {touched'' : String → Prop}
    (h : Elsewhere roster recorded recorded' touched touched')
    (h' : Elsewhere other recorded' recorded'' touched' touched'') :
    Elsewhere (roster ++ other) recorded recorded'' touched touched'' := by
  intro machine hnot
  rw [List.mem_append, not_or] at hnot
  obtain ⟨hrecorded, htouched⟩ := h machine hnot.1
  obtain ⟨hrecorded', htouched'⟩ := h' machine hnot.2
  exact ⟨hrecorded'.trans hrecorded, htouched'.trans htouched⟩

theorem Elsewhere.pending_eq (h : Elsewhere roster recorded recorded' touched touched')
    (hdisjoint : ∀ machine ∈ members, machine ∉ roster) :
    pending members recorded' = pending members recorded :=
  List.filter_congr fun machine hmachine => by
    rw [(h machine (hdisjoint machine hmachine)).1]

/-- What a visit did for a set is not undone elsewhere. -/
theorem Attended.before {recorded'' : Dict String} {touched'' : String → Prop}
    (h : Attended fencing set recorded recorded' touched')
    (h' : Elsewhere roster recorded' recorded'' touched' touched'')
    (hdisjoint : ∀ machine ∈ MachineSet.members set, machine ∉ roster) :
    Attended fencing set recorded recorded'' touched'' := by
  obtain ⟨done, hattends⟩ := h
  refine ⟨done, ?_⟩
  rw [h'.pending_eq hdisjoint]
  refine hattends.mono ?_
  rintro machine ⟨hmember, htouched⟩
  exact ⟨hmember, (h' machine (hdisjoint machine hmember)).2.1 htouched⟩

/-- What was done elsewhere makes no difference to a visit. -/
theorem Attended.after {recorded'' : Dict String} {touched'' : String → Prop}
    (h : Attended fencing set recorded' recorded'' touched'')
    (h' : Elsewhere roster recorded recorded' touched touched')
    (hdisjoint : ∀ machine ∈ MachineSet.members set, machine ∉ roster) :
    Attended fencing set recorded recorded'' touched'' := by
  obtain ⟨done, hattends⟩ := h
  rw [h'.pending_eq hdisjoint] at hattends
  exact ⟨done, hattends⟩

/-- A set whose members are elsewhere is as it was. -/
theorem Attended.of_elsewhere (h : Elsewhere roster recorded recorded' touched touched')
    (hdisjoint : ∀ machine ∈ MachineSet.members set, machine ∉ roster)
    (huntouched : ∀ machine ∈ MachineSet.members set, ¬ touched machine) :
    Attended fencing set recorded recorded' touched' := by
  refine ⟨[], ?_⟩
  rw [h.pending_eq hdisjoint]
  refine .stop ?_
  rintro machine ⟨hmember, htouched⟩
  exact absurd ((h machine (hdisjoint machine hmember)).2.1 htouched) (huntouched machine hmember)

end Frame

/-- Sets that share no member are visited one after the other, and no visit disturbs another. -/
theorem runSets_attends {sets : List Resource}
    (hdisjoint : sets.Pairwise fun a b =>
      ∀ machine ∈ MachineSet.members a, machine ∉ MachineSet.members b)
    (huntouched : ∀ set ∈ sets, ∀ machine ∈ MachineSet.members set, ¬ touched machine) :
    Ensures (touching settings.adminUser)
      (sets.mapM (runSet settings request task markers fencing)) recorded touched
      fun outcome recorded' touched' =>
        (∀ waiting, outcome = .ok waiting →
          waiting = sets.map fun set => pending (MachineSet.members set) recorded') ∧
        (∀ set ∈ sets, Attended fencing set recorded recorded' touched') ∧
        Elsewhere (sets.flatMap MachineSet.members) recorded recorded' touched touched' := by
  induction sets generalizing recorded touched with
  | nil =>
    refine ⟨?_, by simp, fun _ _ => ⟨rfl, Iff.rfl⟩⟩
    rintro waiting heq
    exact (Except.ok.inj heq).symm
  | cons set sets ih =>
    obtain ⟨hset, hsets⟩ := List.pairwise_cons.1 hdisjoint
    have hapart : ∀ other ∈ sets, ∀ machine ∈ MachineSet.members other,
        machine ∉ MachineSet.members set := fun other hother machine hmachine hmember =>
      hset other hother machine hmember hmachine
    rw [Activity.ensures_mapM_cons]
    refine (runSet_attends (huntouched set (by simp))).mono ?_
    rintro outcome recorded' touched' ⟨hwaiting, hattended, helsewhere⟩
    cases outcome with
    | error failure =>
      refine ⟨nofun, fun other hother => ?_, fun machine hnot => helsewhere machine ?_⟩
      · rcases List.mem_cons.1 hother with rfl | hother
        · exact hattended
        · exact .of_elsewhere helsewhere (hapart other hother)
            (huntouched other (List.mem_cons_of_mem _ hother))
      · rw [List.flatMap_cons, List.mem_append, not_or] at hnot
        exact hnot.1
    | ok waiting =>
      have huntouched' : ∀ other ∈ sets, ∀ machine ∈ MachineSet.members other,
          ¬ touched' machine := fun other hother machine hmachine htouched =>
        huntouched other (List.mem_cons_of_mem _ hother) machine hmachine
          ((helsewhere machine (hapart other hother machine hmachine)).2.1 htouched)
      have hrest : ∀ machine ∈ MachineSet.members set,
          machine ∉ sets.flatMap MachineSet.members := by
        intro machine hmachine hmem
        obtain ⟨other, hother, hmember⟩ := List.mem_flatMap.1 hmem
        exact hapart other hother machine hmember hmachine
      rw [Activity.then_ok, Activity.ensures_bind]
      refine (ih hsets huntouched').mono ?_
      rintro outcome recorded'' touched'' ⟨hwaitings, hattendeds, helsewheres⟩
      have hall : ∀ other ∈ set :: sets, Attended fencing other recorded recorded'' touched'' := by
        intro other hother
        rcases List.mem_cons.1 hother with rfl | hother
        · exact hattended.before helsewheres hrest
        · exact (hattendeds other hother).after helsewhere (hapart other hother)
      have helsewhere'' := helsewhere.trans helsewheres
      cases outcome with
      | error failure => exact ⟨nofun, hall, helsewhere''⟩
      | ok waitings =>
        refine ⟨?_, hall, helsewhere''⟩
        rintro _ heq
        obtain rfl := Except.ok.inj heq
        rw [List.map_cons, helsewheres.pending_eq hrest, hwaiting waiting rfl,
          hwaitings waitings rfl]

/-! ## A whole visit -/

/-- A visit gives the members that are not recorded at the end, and attends every set. -/
theorem runPass_attends {sets : List Resource}
    (hdisjoint : sets.Pairwise fun a b =>
      ∀ machine ∈ MachineSet.members a, machine ∉ MachineSet.members b) :
    Ensures (touching settings.adminUser) (runPass settings request task sets fencing) recorded
      (fun _ => False) fun outcome recorded' touched' =>
        (∀ waiting, outcome = .ok waiting →
          waiting = sets.flatMap fun set => pending (MachineSet.members set) recorded') ∧
        ∀ set ∈ sets, Attended fencing set recorded recorded' touched' := by
  refine ensures_runPass.2 ⟨trivial, fun answer touched' hanswers => ?_⟩
  have huntouched : ∀ machine, ¬ touched' machine := fun machine htouched => by
    rcases (hanswers machine).1 htouched with ⟨⟨⟩⟩ | (_ | _ | ⟨_, _, ⟨⟩, -⟩)
  cases answer with
  | error failure =>
    refine ⟨nofun, fun set _ => ⟨[], .stop ?_⟩⟩
    rintro machine ⟨-, htouched⟩
    exact absurd htouched (huntouched machine)
  | ok markers =>
    refine (runSets_attends hdisjoint fun _ _ machine _ => huntouched machine).mono ?_
    rintro outcome recorded' touched' ⟨hwaiting, hattended, -⟩
    refine ⟨fun waiting heq => ?_, hattended⟩
    cases outcome with
    | error failure => cases heq
    | ok waitings =>
      obtain rfl := Except.ok.inj heq
      rw [hwaiting waitings rfl, List.flatMap_def]

/-- The books of a visit. It gives the members that are not recorded at the end, set by set and in
order. It keeps all records and adds to each set those of the first members that were waiting. All
that it changes in a set it changes about one member. A visit that fails gives nothing, and all else
holds of it too. -/
theorem books_of_yields {sets : List Resource} {transcript : List Exchange}
    {outcome : Except Failure (List String)} {recorded' : Dict String}
    (hdisjoint : sets.Pairwise fun a b =>
      ∀ machine ∈ MachineSet.members a, machine ∉ MachineSet.members b)
    (h : Yields (runPass settings request task sets fencing recorded) transcript
      (outcome, recorded')) :
    (∀ waiting, outcome = .ok waiting →
      waiting = sets.flatMap fun set => pending (MachineSet.members set) recorded') ∧
    Extends request task recorded recorded' ∧
    (∀ set ∈ sets, (MachineSet.members set).Pairwise (· < ·) ∧
      Attended fencing set recorded recorded' fun machine =>
        ∃ exchange ∈ transcript, Touches settings.adminUser machine exchange.1) ∧
    ∀ exchange ∈ transcript, isTouch exchange.1 = true →
      ∃ set ∈ sets, ∃ machine ∈ MachineSet.members set,
        Touches settings.adminUser machine exchange.1 := by
  have hsub : ∀ set ∈ sets, MachineSet.members set ⊆ sets.flatMap MachineSet.members :=
    fun set hset machine hmachine => List.mem_flatMap.2 ⟨set, hset, hmachine⟩
  have hpath : (touching settings.adminUser).answers.Path (fun _ => False) transcript _ :=
    path_touching settings.adminUser
  obtain ⟨hwaiting, hattended⟩ := (runPass_attends hdisjoint).ends h hpath
  have haccounts := (runPass_accounts hsub).ends h (Activity.path_only _ transcript)
  refine ⟨hwaiting, ?_, fun set hset => ⟨?_, ?_⟩, fun exchange hexchange htouch => ?_⟩
  · cases outcome with
    | error failure => exact haccounts
    | ok waiting => exact haccounts.1
  · exact List.pairwise_map.2 (Dict.ascending _)
  · obtain ⟨done, hattends⟩ := hattended set hset
    exact ⟨done, hattends.mono fun machine hmachine => ⟨hmachine.1, .inr hmachine.2⟩⟩
  · obtain ⟨first, rest, rfl⟩ := List.append_of_mem hexchange
    have hasked := Dialogue.Ensures.asked (runPass_asks hsub) h (Activity.path_only _ first)
    obtain ⟨machine, hmem, htouches⟩ := exists_touches hasked htouch
    obtain ⟨set, hset, hmember⟩ := List.mem_flatMap.1 hmem
    exact ⟨set, hset, machine, hmember, htouches⟩

/-! ## A visit to two sets -/

/-- A set of two machines, which is too small to be fenced. -/
def pairSet : Resource where
  fields := .ofList [("spec", .object [("vmCount", .int 2)]),
    ("status", .object [("vmHosts", .object [("b", .null), ("a", .null)])])]

/-- A marker that is ready. -/
def readyMarker (name : String) : Resource where
  metadata := { name := some name }
  fields := .ofList [("status", .object [("readyToUse", .bool true)])]

/-- A machine that is kept running and is up. -/
def runningMachine : Resource where
  fields := .ofList [("spec", .object [("runStrategy", .str Machine.rerunOnFailure)]),
    ("status", .object [("ready", .bool true)])]

/-- Answers under which the first machine of each set has a marker that is ready, all machines are
up, and whatever is asked is done. -/
def readyAnswer : (question : Query) → question.Answer
  | .clock => (default : Instant)
  | .call (.listMarkers _ _ _) =>
    (.ok [readyMarker "a-nightly-0", readyMarker "vm-0-nightly-0"] : Except Failure (List Resource))
  | .call (.getMachine _ _) => (.ok (some runningMachine) : Except Failure (Option Resource))
  | .call (.patchMachine _ _ _) => (.ok () : Except Failure Unit)
  | .call (.createMarker _ _ _) => (.ok () : Except Failure Unit)
  | .call (.runCommand _ _) => (.ok { success := true } : Except Failure CommandOutput)
  | .call c => (.error (.api "not served") : Except Failure c.Answer)

/-- A visit to a set of two, and to one of three that is fenced. -/
def visitSets : Activity (Dict String) (List String) :=
  runPass {} ⟨"cloud", "nightly", "nightly-0"⟩ .save [pairSet, Quorum.trioSet] true

/-- In the smaller set one machine is recorded and the visit works on the next. In the fenced one it
works on the machine that it records, and on nobody else. -/
theorem visitSets_books :
    let visit := visitSets .empty
    let respond := fun question (_ : Unit) => (readyAnswer question, ())
    let recorded := (visit.run respond ()).1.2
    recorded.keys = ["a", "vm-0"] ∧
      Attended true pairSet .empty recorded (fun machine =>
        ∃ exchange ∈ visit.transcript respond (), Touches "cloud-admin" machine exchange.1) ∧
      Attended true Quorum.trioSet .empty recorded (fun machine =>
        ∃ exchange ∈ visit.transcript respond (), Touches "cloud-admin" machine exchange.1) ∧
      (visit.run respond ()).1.1.toOption = some ["b", "vm-1", "vm-2"] := by
  intro visit respond recorded
  have hpass := Dialogue.yields_transcript respond visit ()
  have hdisjoint : [pairSet, Quorum.trioSet].Pairwise fun a b =>
      ∀ machine ∈ MachineSet.members a, machine ∉ MachineSet.members b := by decide +kernel
  obtain ⟨-, -, hsets, -⟩ := books_of_yields hdisjoint hpass
  exact ⟨by decide +kernel, (hsets pairSet (by simp)).2, (hsets Quorum.trioSet (by simp)).2,
    by decide +kernel⟩

end NamespaceBackup.Imaging
