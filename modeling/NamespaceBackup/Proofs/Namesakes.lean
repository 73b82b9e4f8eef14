import NamespaceBackup.Proofs.Keys
import NamespaceBackup.Proofs.Ownership
import NamespaceBackup.Proofs.Stages

/-!
# Markers of one name

The name of a marker joins the name of its machine and the marker of its request by a dash. Names of
machines and of requests may have dashes of their own, so the joined text does not tell where the one
ends and the other begins. Whoever finds a marker in the place of the one that it makes takes it for
its own. It is its own, unless part of the name of one machine has moved into the name of the other's
request; then the markers of the two are for two machines, and a later pass does not find its own.

## Main definitions

* `Namesakes.Moved`: a part of a name that moved from machine to request
* `Namesakes.Makes`: a marker as a pass makes it
* `Namesakes.Populated`: a namespace whose markers were all made by passes
* `Namesakes.Found`: what a pass looks for before it makes a marker
* `Namesakes.Coincide`: markers of one name

## Main results

* `Namesakes.joined_eq_iff`, `Namesakes.Makes.anyName_eq_iff`: which names are the same
* `Namesakes.covers_isMaking`: a pass makes markers in the name of its own request only
* `Namesakes.exists_maker`: every marker was made for somebody
* `Namesakes.conflict_tells`: whose the marker is that is there already
-/

namespace NamespaceBackup

namespace Namesakes

open Dialogue (Yields)
open Ownership (Covers StoresSame Tells)
open Saga

/-! ## Names with a dash between them -/

section Names

variable {machine machine' name name' : String}

/-- The second machine and request come from the first ones if a part of the machine's name moves,
with the dash before it, to the front of the name of the request. -/
def Moved (machine name machine' name' : String) : Prop :=
  ∃ part, machine = machine' ++ "-" ++ part ∧ name' = part ++ "-" ++ name

theorem Moved.joined_eq (h : Moved machine name machine' name') :
    machine ++ "-" ++ name = machine' ++ "-" ++ name' := by
  obtain ⟨part, rfl, rfl⟩ := h
  simp only [String.append_assoc]

/-- Where the first machine's name is the longer one, what it has more begins with the other's dash. -/
theorem eq_or_moved {rest : List Char} (hmachine : machine.toList = machine'.toList ++ rest)
    (hname : '-' :: name'.toList = rest ++ '-' :: name.toList) :
    machine = machine' ∧ name = name' ∨ Moved machine name machine' name' := by
  obtain ⟨rfl, htail⟩ | ⟨part, rfl, htail⟩ := List.cons_eq_append_iff.1 hname
  · rw [List.append_nil, String.toList_inj] at hmachine
    exact .inl ⟨hmachine, String.toList_inj.1 (List.cons.inj htail).2⟩
  · refine .inr ⟨String.ofList part, String.toList_inj.1 ?_, String.toList_inj.1 ?_⟩
    · simpa using hmachine
    · simpa using htail

/-- Two names joined by a dash can be read in another way only if a part of one of them moves. -/
theorem joined_eq_iff :
    machine ++ "-" ++ name = machine' ++ "-" ++ name' ↔
      machine = machine' ∧ name = name' ∨ Moved machine name machine' name' ∨
        Moved machine' name' machine name := by
  constructor
  · intro h
    have hlist : machine.toList ++ '-' :: name.toList = machine'.toList ++ '-' :: name'.toList := by
      simpa using congrArg String.toList h
    obtain ⟨rest, hlonger, hrest⟩ | ⟨rest, hlonger, hrest⟩ := List.append_eq_append_iff.1 hlist
    · obtain ⟨rfl, rfl⟩ | hmoved := eq_or_moved hlonger hrest
      · exact .inl ⟨rfl, rfl⟩
      · exact .inr (.inr hmoved)
    · exact (eq_or_moved hlonger hrest).imp_right .inl
  · rintro (⟨rfl, rfl⟩ | hmoved | hmoved)
    · rfl
    · exact hmoved.joined_eq
    · exact hmoved.joined_eq.symm

/-- If two names read alike when joined, the first parts are the same if the second ones are. -/
theorem left_eq_iff (h : machine ++ "-" ++ name = machine' ++ "-" ++ name') :
    machine = machine' ↔ name = name' := by
  constructor
  · rintro rfl
    exact String.append_right_inj _ |>.1 h
  · rintro rfl
    rw [String.append_assoc, String.append_assoc] at h
    exact String.append_left_inj _ |>.1 h

end Names

/-! ## What passes make -/

/-- A marker as a pass makes it for a machine, in the name of a request. -/
structure Makes (settings : Settings) (owner : Request) (request : Imaging.Request)
    (task : Imaging.Task) (machine snapshot : String) (marker : Resource) : Prop where
  tells : Tells owner request.ns request.name request.marker
  snapshot_eq : Imaging.snapshotName request task machine = .ok snapshot
  marker_eq : marker = Imaging.buildMarker settings request task machine snapshot

variable {settings : Settings} {owner given : Request} {request request' : Imaging.Request}
  {task task' : Imaging.Task} {machine other snapshot snapshot' ns name text : String}
  {kind : MarkerKind} {marker made stored : Resource} {question : Query}

/-- The questions of a pass that makes markers in the name of its own request only. -/
def IsMaking (settings : Settings) (owner : Request) (question : Query) : Prop :=
  ∀ ns kind marker, question = .call (.createMarker ns kind marker) →
    ∃ request task machine snapshot, request.ns = ns ∧ task.markerKind = kind ∧
      Makes settings owner request task machine snapshot marker

theorem isMaking_of_isImaging {machines : List String}
    (htells : Tells owner request.ns request.name request.marker)
    (h : Imaging.IsImaging settings request task machines question) :
    IsMaking settings owner question := by
  cases h with
  | list => rintro _ _ _ ⟨⟩
  | handle h =>
    cases h with
    | mark _ hsnapshot =>
      rintro _ _ _ ⟨⟩
      exact ⟨request, task, _, _, rfl, rfl, htells, hsnapshot, rfl⟩
    | read | powerOn | powerOff | command => rintro _ _ _ ⟨⟩

/-- A pass makes markers in the name of its own request only. -/
theorem covers_isMaking : Covers settings owner (IsMaking settings owner) where
  clock := by rintro _ _ _ ⟨⟩
  status _ := by rintro _ _ _ ⟨⟩
  source _ _ := by rintro _ _ _ ⟨⟩
  listing _ _ h := by cases h <;> rintro _ _ _ ⟨⟩
  deletion _ _ _ h := by cases h <;> rintro _ _ _ ⟨⟩
  loading _ _ _ _ h := by cases h <;> rintro _ _ _ ⟨⟩
  bundling _ _ _ _ _ _ _ h := by cases h <;> rintro _ _ _ ⟨⟩
  imaging _ _ _ _ _ _ htells := isMaking_of_isImaging htells

theorem exists_makes {transcript : List Exchange} {outcome : Except Failure Action × Request}
    {answer : Except Failure Unit} (h : Yields (reconcile settings owner) transcript outcome)
    (hstores : ∀ exchange ∈ transcript, StoresSame exchange)
    (hmem : (⟨.call (.createMarker ns kind marker), answer⟩ : Exchange) ∈ transcript) :
    ∃ request task machine snapshot, request.ns = ns ∧ task.markerKind = kind ∧
      Makes settings owner request task machine snapshot marker :=
  covers_isMaking.asked h hstores hmem ns kind marker rfl

/-! ## Markers of a namespace -/

/-- A marker that is stored as it was made, apart from what the platform adds to it. -/
structure Remains (made stored : Resource) : Prop where
  anyName_eq : stored.anyName = made.anyName
  label?_eq : ∀ key value, made.metadata.label? key = some value →
    stored.metadata.label? key = some value
  spec_eq : stored.fields.find? "spec" = made.fields.find? "spec"

protected theorem Remains.refl (made : Resource) : Remains made made := ⟨rfl, fun _ _ h => h, rfl⟩

theorem Remains.trans {between : Resource} (h : Remains made between) (h' : Remains between stored) :
    Remains made stored where
  anyName_eq := h'.anyName_eq.trans h.anyName_eq
  label?_eq key value hmade := h'.label?_eq key value (h.label?_eq key value hmade)
  spec_eq := h'.spec_eq.trans h.spec_eq

/-- A namespace whose markers were all made by passes. Calls of passes over any requests are performed
in any order, and the platform works on the markers in between or removes them. -/
inductive Populated (settings : Settings) (ns : String) : Cluster → Prop
  | empty {cluster : Cluster}
    (h : ∀ kind name, ((cluster.space ns).markers kind).find? name = none) :
    Populated settings ns cluster
  | called {cluster : Cluster} {owner : Request} {transcript : List Exchange}
    {outcome : Except Failure Action × Request} {c : Call} {answer : Except Failure c.Answer}
    (h : Populated settings ns cluster)
    (hdated : ∀ created ∈ owner.metadata.creationTimestamp, 0 ≤ created.seconds)
    (hpass : Yields (reconcile settings owner) transcript outcome)
    (hstores : ∀ exchange ∈ transcript, StoresSame exchange)
    (hmem : (⟨.call c, answer⟩ : Exchange) ∈ transcript) :
    Populated settings ns (cluster.perform c).2
  | handled {cluster after : Cluster} (h : Populated settings ns cluster)
    (hremains : ∀ kind name stored, ((after.space ns).markers kind).find? name = some stored →
      ∃ old, ((cluster.space ns).markers kind).find? name = some old ∧ Remains old stored) :
    Populated settings ns after

variable {cluster : Cluster}

/-- A marker that is there after a call was there before, or the call makes it. -/
theorem find?_markers_perform {c : Call}
    (h : (((cluster.perform c).2.space ns).markers kind).find? name = some stored) :
    ((cluster.space ns).markers kind).find? name = some stored ∨
      c = .createMarker ns kind stored ∧ stored.anyName = name := by
  by_cases hkey : c.ns = ns ∧ c.key? = some (.marker kind name)
  swap
  · have hkept : ((cluster.perform c).2.space ns).lookup? (.marker kind name) =
        (cluster.space ns).lookup? (.marker kind name) :=
      Cluster.lookup?_perform (fun hns hname => hkey ⟨hns, hname⟩) cluster
    exact .inl (hkept.symm.trans h)
  obtain ⟨hns, hkey⟩ := hkey
  cases c with
  | createMarker place kind' marker =>
    obtain rfl : place = ns := hns
    cases hkey
    rw [Cluster.perform, Cluster.addOrFail] at h
    split at h
    case isTrue => exact .inl h
    case isFalse =>
      rw [Cluster.commit, Cluster.space_withSpace, Space.markers_withMarkers, Dict.find?_insert,
        if_pos rfl] at h
      cases h
      exact .inr ⟨rfl, rfl⟩
  | _ => cases hkey

/-- Every marker was made in the name of some request, under the name by which it is found. -/
theorem exists_maker (h : Populated settings ns cluster)
    (hstored : ((cluster.space ns).markers kind).find? name = some stored) :
    ∃ owner request task machine snapshot made,
      (∀ created ∈ owner.metadata.creationTimestamp, 0 ≤ created.seconds) ∧
      request.ns = ns ∧ task.markerKind = kind ∧
      Makes settings owner request task machine snapshot made ∧ made.anyName = name ∧
      Remains made stored := by
  induction h generalizing kind name stored with
  | empty h =>
    rw [h] at hstored
    cases hstored
  | called _ hdated hpass hstores hmem ih =>
    obtain hstored | ⟨rfl, hname⟩ := find?_markers_perform hstored
    · exact ih hstored
    · obtain ⟨request, task, machine, snapshot, hns, hkind, hmakes⟩ :=
        exists_makes hpass hstores hmem
      exact ⟨_, request, task, machine, snapshot, stored, hdated, hns, hkind, hmakes, hname,
        .refl stored⟩
  | handled _ hremains ih =>
    obtain ⟨old, hold, hstays⟩ := hremains _ _ _ hstored
    obtain ⟨owner, request, task, machine, snapshot, made, hdated, hns, hkind, hmakes, hname,
      hremains⟩ := ih hold
    exact ⟨owner, request, task, machine, snapshot, made, hdated, hns, hkind, hmakes, hname,
      hremains.trans hstays⟩

/-! ## A marker that is there already -/

theorem Makes.anyName_eq (h : Makes settings owner request task machine snapshot marker) :
    marker.anyName = Imaging.markerName request machine := by
  rw [h.marker_eq]
  exact Imaging.anyName_buildMarker h.snapshot_eq

theorem exists_second (h : Tells owner ns name text)
    (hdated : ∀ created ∈ owner.metadata.creationTimestamp, 0 ≤ created.seconds) :
    ∃ second, 0 ≤ second ∧ owner.createdSecond? = some second ∧
      text = name ++ "-" ++ toString second := by
  obtain ⟨_, second, hname, hsecond, rfl⟩ := Request.marker?_eq_some_iff.1 h.marker_eq
  obtain ⟨created, hcreated, rfl⟩ := Option.map_eq_some_iff.1 hsecond
  cases h.name_eq.symm.trans hname
  exact ⟨_, hdated created hcreated, hsecond, rfl⟩

/-- Markers of two passes have one name if their requests were made in one second and the names of
machine and request read alike. -/
theorem Makes.anyName_eq_iff (h : Makes settings owner request task machine snapshot marker)
    (h' : Makes settings given request' task' other snapshot' made)
    (howner : ∀ created ∈ owner.metadata.creationTimestamp, 0 ≤ created.seconds)
    (hgiven : ∀ created ∈ given.metadata.creationTimestamp, 0 ≤ created.seconds) :
    marker.anyName = made.anyName ↔
      machine ++ "-" ++ request.name = other ++ "-" ++ request'.name ∧
        owner.createdSecond? = given.createdSecond? := by
  obtain ⟨second, hsecond, hcreated, htext⟩ := exists_second h.tells howner
  obtain ⟨second', hsecond', hcreated', htext'⟩ := exists_second h'.tells hgiven
  rw [h.anyName_eq, h'.anyName_eq, Imaging.markerName, Imaging.markerName, htext, htext', hcreated,
    hcreated', Option.some.injEq]
  simp only [← String.append_assoc]
  constructor
  · exact Request.marker_inj hsecond hsecond'
  · rintro ⟨hjoined, rfl⟩
    rw [hjoined]

/-- A call that makes a marker fails only if there is one of that name already. -/
theorem exists_of_conflict {failure : Failure}
    (h : (cluster.perform (.createMarker ns kind marker)).1 = .error failure) :
    failure.isConflict = true ∧
      ∃ old, ((cluster.space ns).markers kind).find? marker.anyName = some old := by
  rw [Cluster.perform, Cluster.addOrFail] at h
  split at h
  case isTrue hthere =>
    cases h
    exact ⟨rfl, Option.isSome_iff_exists.1 hthere⟩
  case isFalse => cases h

/-- What a pass looks for before it makes a marker: one of its request that is for the snapshot. -/
def Found (settings : Settings) (request : Imaging.Request) (task : Imaging.Task)
    (snapshot : String) (space : Space) : Prop :=
  ∃ found ∈ Imaging.listed settings request task space,
    task.markerKind.isFor found snapshot = true

/-- Whether a marker is for a snapshot, its name or its spec tells. -/
theorem isFor_congr {a b : Resource} (hname : a.anyName = b.anyName)
    (h : kind = .snapshot ∨ a.fields.find? "spec" = b.fields.find? "spec") :
    kind.isFor a snapshot = kind.isFor b snapshot := by
  cases kind with
  | snapshot => simp only [MarkerKind.isFor, hname]
  | restore =>
    have hspec := h.resolve_left (by simp)
    refine decide_eq_decide.2 ?_
    rw [Resource.at?_cons, Resource.at?_cons, hspec]

theorem marks_congr {a b : Resource} (h : a.fields.find? "spec" = b.fields.find? "spec") :
    Imaging.Marks a machine ↔ Imaging.Marks b machine := by
  simp only [Imaging.Marks, Resource.at?_cons, h]

theorem Makes.marks_iff (h : Makes settings owner request task machine snapshot marker) :
    Imaging.Marks marker other ↔ other = machine := by
  rw [h.marker_eq]
  exact Imaging.marks_buildMarker

theorem Makes.isFor (h : Makes settings owner request task machine snapshot marker) :
    task.markerKind.isFor marker snapshot = true := by
  rw [h.marker_eq]
  exact Imaging.isFor_buildMarker h.snapshot_eq

/-- The markers of a namespace go by the names under which they are stored. -/
theorem anyName_of_find? (h : Populated settings ns cluster)
    (hstored : ((cluster.space ns).markers kind).find? name = some stored) :
    stored.anyName = name := by
  obtain ⟨_, _, _, _, _, made, -, -, -, -, rfl, hremains⟩ := exists_maker h hstored
  exact hremains.anyName_eq

/-- Two passes over requests of one namespace make markers of one name. -/
structure Coincide (settings : Settings) (given owner : Request) (request request' : Imaging.Request)
    (task task' : Imaging.Task) (machine other snapshot snapshot' : String) (marker made : Resource) :
    Prop where
  makes : Makes settings given request task machine snapshot marker
  makes' : Makes settings owner request' task' other snapshot' made
  dated : ∀ created ∈ given.metadata.creationTimestamp, 0 ≤ created.seconds
  dated' : ∀ created ∈ owner.metadata.creationTimestamp, 0 ≤ created.seconds
  ns_eq : request'.ns = request.ns
  anyName_eq : made.anyName = marker.anyName

namespace Coincide

variable {old : Resource} (h : Coincide settings given owner request request' task task' machine other
  snapshot snapshot' marker made)

include h

theorem joined_eq : other ++ "-" ++ request'.name = machine ++ "-" ++ request.name :=
  ((h.makes'.anyName_eq_iff h.makes h.dated' h.dated).1 h.anyName_eq).1

theorem createdSecond?_eq : owner.createdSecond? = given.createdSecond? :=
  ((h.makes'.anyName_eq_iff h.makes h.dated' h.dated).1 h.anyName_eq).2

/-- The machines are the same if the requests are. -/
theorem machine_eq_iff : other = machine ↔ request'.marker = request.marker := by
  rw [left_eq_iff h.joined_eq,
    Request.marker_eq_iff h.dated' h.dated h.makes'.tells.marker_eq h.makes.tells.marker_eq,
    h.makes'.tells.name_eq, h.makes.tells.name_eq, Option.some.injEq,
    and_iff_left h.createdSecond?_eq]

theorem request_eq_iff : other = machine ↔ request' = request := by
  constructor
  · intro heq
    have hname := (left_eq_iff h.joined_eq).1 heq
    have htext := h.machine_eq_iff.1 heq
    have hns := h.ns_eq
    obtain ⟨ns', name', text'⟩ := request'
    obtain ⟨ns, name, text⟩ := request
    simp only at hname htext hns
    rw [hname, htext, hns]
  · rintro rfl
    exact h.machine_eq_iff.2 rfl

/-- Machine and request are the same, or a part of the name of the one moved to that of the other. -/
theorem same_or_moved :
    other = machine ∧ request' = request ∨
      request'.marker ≠ request.marker ∧
        (Moved other request'.name machine request.name ∨
          Moved machine request.name other request'.name) := by
  by_cases heq : other = machine
  · exact .inl ⟨heq, h.request_eq_iff.1 heq⟩
  · refine .inr ⟨fun htext => heq (h.machine_eq_iff.2 htext), ?_⟩
    exact (joined_eq_iff.1 h.joined_eq).resolve_left fun hboth => heq hboth.1

variable (hkeys : settings.markerLabel ≠ settings.requestLabel)
  (hcomma : ',' ∉ settings.markerLabel.toList) (hequals : '=' ∉ settings.markerLabel.toList)
  (hname : ∀ name ∈ given.metadata.name, ',' ∉ name.toList) (hremains : Remains made old)

include hkeys hcomma hequals hname hremains

/-- A pass lists the marker in the place of its own only if it is for the same machine. -/
theorem mem_listed_iff {space : Space}
    (hold : (space.markers task.markerKind).find? marker.anyName = some old) :
    old ∈ Imaging.listed settings request task space ↔ other = machine := by
  have hlabel : old.metadata.label? settings.markerLabel = some request'.marker := by
    refine hremains.label?_eq _ _ ?_
    rw [h.makes'.marker_eq]
    exact (Ownership.bears_buildMarker hkeys task' other snapshot').marked
  have hcommas := Request.comma_notMem_marker hname h.makes.tells.marker_eq
  rw [Imaging.mem_listed_iff, and_iff_right ⟨_, hold⟩,
    Settings.selects_markerSelector hcomma hequals hcommas, hlabel, Option.some.injEq]
  exact h.machine_eq_iff.symm

/-- So does it find the marker that it looks for, if that is told by its name or by its spec. -/
theorem found_iff (hpopulated : Populated settings ns cluster)
    (hold : ((cluster.space ns).markers task.markerKind).find? marker.anyName = some old)
    (hfor : task.markerKind = .snapshot ∨ old.fields.find? "spec" = marker.fields.find? "spec") :
    Found settings request task snapshot (cluster.space ns) ↔ other = machine := by
  have hlisted := h.mem_listed_iff hkeys hcomma hequals hname hremains hold
  constructor
  · rintro ⟨found, hfound, hfoundFor⟩
    obtain hsnapshot | hspec := hfor
    · -- Snapshots are told by their names, and there is but one of that name.
      obtain ⟨⟨name, hstored⟩, -⟩ := Imaging.mem_listed_iff.1 hfound
      have hmakesFor := h.makes.isFor
      rw [hsnapshot, MarkerKind.isFor, decide_eq_true_eq] at hfoundFor hmakesFor
      rw [← anyName_of_find? hpopulated hstored, hfoundFor, ← hmakesFor] at hstored
      cases hold.symm.trans hstored
      exact hlisted.1 hfound
    · -- A spec names its machine.
      have hmarks : Imaging.Marks marker other :=
        (marks_congr (hspec.symm.trans hremains.spec_eq)).2 (h.makes'.marks_iff.2 rfl)
      exact h.makes.marks_iff.1 hmarks
  · intro heq
    refine ⟨old, hlisted.2 heq, ?_⟩
    rw [isFor_congr (anyName_of_find? hpopulated hold) hfor]
    exact h.makes.isFor

end Coincide

/-- If a marker cannot be made because there is one of its name, then that one was made by a pass for
a request of the same second. It is the request's own and is for the same machine, or part of the name
of one machine moved into the name of the other's request. The next pass lists it if it is its own, and
not otherwise; so it does not find the marker that it looks for if that is a snapshot or has the spec
of the one that it would make. -/
theorem conflict_tells (hkeys : settings.markerLabel ≠ settings.requestLabel)
    (hcomma : ',' ∉ settings.markerLabel.toList) (hequals : '=' ∉ settings.markerLabel.toList)
    (hname : ∀ name ∈ given.metadata.name, ',' ∉ name.toList)
    (hgiven : ∀ created ∈ given.metadata.creationTimestamp, 0 ≤ created.seconds)
    (hpopulated : Populated settings ns cluster) {transcript : List Exchange}
    {outcome : Except Failure Action × Request}
    (h : Yields (reconcile settings given) transcript outcome)
    (hstores : ∀ exchange ∈ transcript, StoresSame exchange) {failure : Failure}
    (hmem : (⟨.call (.createMarker ns kind marker), (.error failure : Except Failure Unit)⟩ :
      Exchange) ∈ transcript)
    (hconflict : (cluster.perform (.createMarker ns kind marker)).1 = .error failure) :
    failure.isConflict = true ∧
      ∃ owner request request' task task' machine other snapshot snapshot' made old,
        request.ns = ns ∧ task.markerKind = kind ∧ task'.markerKind = kind ∧
        Coincide settings given owner request request' task task' machine other snapshot snapshot'
          marker made ∧
        ((cluster.space ns).markers kind).find? marker.anyName = some old ∧ Remains made old ∧
        owner.createdSecond? = given.createdSecond? ∧
        (other = machine ∧ request' = request ∨
          request'.marker ≠ request.marker ∧
            (Moved other request'.name machine request.name ∨
              Moved machine request.name other request'.name)) ∧
        (old ∈ Imaging.listed settings request task (cluster.space ns) ↔
          other = machine ∧ request' = request) ∧
        (kind = .snapshot ∨ old.fields.find? "spec" = marker.fields.find? "spec" →
          (Found settings request task snapshot (cluster.space ns) ↔
            other = machine ∧ request' = request)) := by
  obtain ⟨hisConflict, old, hold⟩ := exists_of_conflict hconflict
  obtain ⟨request, task, machine, snapshot, rfl, rfl, hmakes⟩ := exists_makes h hstores hmem
  obtain ⟨owner, request', task', other, snapshot', made, howner, hns, hkind, hmakes', hsame,
    hremains⟩ := exists_maker hpopulated hold
  have hcoincide : Coincide settings given owner request request' task task' machine other snapshot
      snapshot' marker made := ⟨hmakes, hmakes', hgiven, howner, hns, hsame⟩
  have hown : other = machine ↔ other = machine ∧ request' = request := by
    rw [← hcoincide.request_eq_iff, and_self]
  refine ⟨hisConflict, owner, request, request', task, task', machine, other, snapshot, snapshot', made,
    old, rfl, rfl, hkind, hcoincide, hold, hremains, hcoincide.createdSecond?_eq,
    hcoincide.same_or_moved, ?_, fun hfor => ?_⟩
  · rw [← hown]
    exact hcoincide.mem_listed_iff hkeys hcomma hequals hname hremains hold
  · rw [← hown]
    exact hcoincide.found_iff hkeys hcomma hequals hname hremains hpopulated hold hfor

/-! ## Two requests of one second -/

/-- A request to save, made in one second with all others. -/
def saveOf (name : String) : Request where
  metadata :=
    { name := some name, ns := some "cloud", creationTimestamp := some ⟨1700000000, false⟩ }
  spec := { includeImages := true }
  status := some { state := .saving }

/-- A set of one machine. -/
def soleSet (machine : String) : Resource where
  metadata := { name := some machine }
  fields := .ofList [("status", .object [("vmHosts", .object [(machine, .object [])])])]

/-- Two machines in sets of their own, the name of one of which begins with that of the other. -/
def neighbours : Cluster where
  spaces := .ofList [("cloud",
    { managed := .ofList [(ManagedKind.vmSet.name, .ofList [("a", soleSet "a"), ("a-b", soleSet "a-b")])]
      machines := .ofList [("a", {}), ("a-b", {})] })]

/-- The marker that is made for a machine in the name of such a request. -/
def markerOf (name machine : String) : Resource :=
  Imaging.buildMarker {} ⟨"cloud", name, name ++ "-1700000000"⟩ .save machine
    (machine ++ "-" ++ (name ++ "-1700000000"))

/-- The pass over a request, with nobody else around. -/
def passOver (name : String) (cluster : Cluster) : List Exchange :=
  (reconcile {} (saveOf name)).transcript (Cluster.respond ⟨1700000000, 0⟩) cluster

/-- The two machines after the pass over one of the requests has made its first marker. -/
def crowded : Cluster := (neighbours.perform (.createMarker "cloud" .snapshot (markerOf "b-c" "a"))).2

/-- Not a write of a status that succeeds. -/
def isSilent : Exchange → Bool
  | ⟨.call (.updateStatus _), (.ok _ : Except Failure Request)⟩ => false
  | _ => true

theorem storesSame_of_isSilent {exchange : Exchange} (h : isSilent exchange = true) :
    StoresSame exchange := by
  rintro written stored rfl
  cases h

/-- A snapshot is made, or is answered that it is there already. -/
def isMade (marker : Resource) (answer : Except Failure Unit) : Exchange → Bool
  | ⟨.call (.createMarker ns kind marker'), (answer' : Except Failure Unit)⟩ =>
    ns = "cloud" && kind = .snapshot && marker' = marker && answer' = answer
  | _ => false

theorem eq_of_isMade {marker : Resource} {answer : Except Failure Unit} {exchange : Exchange}
    (h : isMade marker answer exchange = true) :
    exchange = ⟨.call (.createMarker "cloud" .snapshot marker), answer⟩ := by
  unfold isMade at h
  split at h
  · simp only [Bool.and_eq_true, decide_eq_true_eq] at h
    obtain ⟨⟨⟨rfl, rfl⟩, rfl⟩, rfl⟩ := h
    rfl
  · cases h

theorem mem_passOver {name : String} {cluster : Cluster} {marker : Resource}
    {answer : Except Failure Unit} (h : (passOver name cluster).any (isMade marker answer) = true) :
    (⟨.call (.createMarker "cloud" .snapshot marker), answer⟩ : Exchange) ∈
      passOver name cluster := by
  obtain ⟨exchange, hmem, hmade⟩ := List.any_eq_true.1 h
  rwa [eq_of_isMade hmade] at hmem

theorem yields_passOver (name : String) (cluster : Cluster) :
    ∃ outcome, Yields (reconcile {} (saveOf name)) (passOver name cluster) outcome :=
  ⟨_, Dialogue.yields_transcript (Cluster.respond ⟨1700000000, 0⟩) _ cluster⟩

theorem populated_crowded : Populated {} "cloud" crowded := by
  obtain ⟨_, hpass⟩ := yields_passOver "b-c" neighbours
  have hmade : (passOver "b-c" neighbours).any (isMade (markerOf "b-c" "a") (.ok ())) = true := by
    decide +kernel
  have hsilent : (passOver "b-c" neighbours).all isSilent = true := by decide +kernel
  refine .called (.empty ?_) (by simp [saveOf]) hpass ?_ (mem_passOver hmade)
  · rintro (_ | _) name <;> rfl
  · exact fun exchange hmem => storesSame_of_isSilent (List.all_eq_true.1 hsilent _ hmem)

/-- The snapshot of machine `a-b` for the request `c` has the name of that of machine `a` for the
request `b-c`. If the latter is there, the former is not made, and the next pass does not find it. -/
theorem neighbour_unfound :
    (markerOf "c" "a-b").anyName = (markerOf "b-c" "a").anyName ∧
      Moved "a-b" "c" "a" "b-c" ∧
      ((crowded.space "cloud").markers .snapshot).find? "a-b-c-1700000000" =
        some (markerOf "b-c" "a") ∧
      ¬ Found {} ⟨"cloud", "c", "c-1700000000"⟩ .save "a-b-c-1700000000"
        (crowded.space "cloud") := by
  have hthere : ((crowded.space "cloud").markers .snapshot).find? "a-b-c-1700000000" =
      some (markerOf "b-c" "a") := by decide +kernel
  have hrefused : (passOver "c" crowded).any (isMade (markerOf "c" "a-b")
      (.error (.conflict ((markerOf "c" "a-b").anyName ++ " already exists")))) = true := by
    decide +kernel
  have hsilent : (passOver "c" crowded).all isSilent = true := by decide +kernel
  have hperform : crowded.perform (.createMarker "cloud" .snapshot (markerOf "c" "a-b")) = _ :=
    Imaging.perform_createMarker_of_taken hthere
  obtain ⟨_, hpass⟩ := yields_passOver "c" crowded
  obtain ⟨-, _, ⟨_, name, text⟩, request', task, _, machine, other, snapshot, _, made, old, rfl, hkind,
      -, ⟨hmakes, hmakes', -, -, -, -⟩, hold, hremains, -, -, -, hfound⟩ :=
    conflict_tells (by decide) (by decide) (by decide) (by simp [saveOf]) (by simp [saveOf])
      populated_crowded hpass
      (fun exchange hmem => storesSame_of_isSilent (List.all_eq_true.1 hsilent _ hmem))
      (mem_passOver hrefused) (congrArg Prod.fst hperform)
  obtain rfl : task = .save := by
    cases task with
    | save => rfl
    | restore => cases hkind
  obtain rfl : "c" = name := Option.some.inj hmakes.tells.name_eq
  have htext : (saveOf "c").marker? = some "c-1700000000" := by decide +kernel
  obtain rfl : "c-1700000000" = text := Option.some.inj (htext.symm.trans hmakes.tells.marker_eq)
  obtain rfl : "a-b" = machine := hmakes.marks_iff.1 (Imaging.marks_buildMarker.2 rfl)
  obtain rfl : "a-b-c-1700000000" = snapshot := Except.ok.inj hmakes.snapshot_eq
  obtain rfl : markerOf "b-c" "a" = old := Option.some.inj (hthere.symm.trans hold)
  have hother : "a" = other :=
    hmakes'.marks_iff.1 ((marks_congr hremains.spec_eq).1 (Imaging.marks_buildMarker.2 rfl))
  refine ⟨by decide +kernel, ⟨"b", by decide, by decide⟩, hthere, fun hfind => ?_⟩
  have heq := ((hfound (.inl rfl)).1 hfind).1
  exact absurd (hother.trans heq) (by decide)

end Namesakes

end NamespaceBackup
