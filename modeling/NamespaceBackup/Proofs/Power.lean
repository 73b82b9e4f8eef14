import NamespaceBackup.Json.Writer
import NamespaceBackup.Proofs.Footprint
import NamespaceBackup.Proofs.Parsing
import NamespaceBackup.Proofs.Reading

/-!
# Power

A machine is powered on and off by merge patches. Each of the two names both fields by which an
object asks to run, one with a value and one with `null`, so whichever comes last leaves no trace of
those before it and never both fields, whatever the object was. Nothing else in it changes.

## Main definitions

* `Json.Overrides`: a patch that leaves no trace of an earlier one
* `Machine.Power`, `Machine.powered`: what a machine is told, and its object when it was told so
* `Machine.Obeys`: what its object says then

## Main results

* `Resource.ofJson?_merge`: what is read of a stored object after a merge patch to its spec
* `Machine.Power.overrides`: power patches override each other
* `Machine.obeys_last`: an object that was patched any number of times obeys the last patch
-/

namespace NamespaceBackup

/-! ## Patches that override others -/

namespace Json

variable {name : String} {json patch earlier : Json} {fields changes : List (String × Json)}

/-- Wherever a patch is made after an earlier one, it does what it does without. -/
def Overrides (patch earlier : Json) : Prop :=
  ∀ old : Option Json, (∀ json ∈ old, json.Ordered) →
    mergedField (mergedField old earlier) patch = mergedField old patch

/-- What is not an object takes the place of whatever is there. -/
theorem overrides_of_scalar (h : ∀ fields, patch ≠ .obj fields) : patch.Overrides earlier := by
  intro old _
  cases patch with
  | obj fields => exact absurd rfl (h fields)
  | null => rfl
  | _ => simp [mergedField, merge]

theorem mergedField_obj (old : Option Json) :
    mergedField old (.obj changes) = some (.obj (mergeFields (old.getD .null).fields changes)) := by
  rw [mergedField, merge]
  intro heq
  cases heq

/-- An object overrides another one that names no other fields, if it does so field by field. -/
theorem overrides_object
    (h : ∀ name value, (Dict.ofList fields).find? name = some value →
      ∃ new, (Dict.ofList changes).find? name = some new ∧ new.Overrides value) :
    (object changes).Overrides (object fields) := by
  intro old hold
  have hordered : FieldsOrdered (old.getD .null).fields := by
    cases old with
    | none => exact Ordered.null.fieldsOrdered
    | some json => exact (hold json rfl).fieldsOrdered
  have hfields := (Dict.ofList fields).ascending
  have hchanges := (Dict.ofList changes).ascending
  rw [object, object, mergedField_obj, mergedField_obj, mergedField_obj]
  refine congrArg (some <| obj ·) (Assoc.Ascending.ext ?_ ?_ fun name => ?_)
  · exact ascending_mergeFields (ascending_mergeFields hordered.1 _) _
  · exact ascending_mergeFields hordered.1 _
  · show Assoc.find? name (mergeFields (mergeFields (old.getD .null).fields _) _) = _
    rw [find?_mergeFields hchanges, find?_mergeFields hchanges, find?_mergeFields hfields]
    cases hearlier : Assoc.find? name (Dict.ofList fields).entries with
    | none => rfl
    | some value =>
      obtain ⟨new, hnew, hoverrides⟩ := h name value hearlier
      rw [show Assoc.find? name (Dict.ofList changes).entries = some new from hnew]
      exact hoverrides _ fun json hjson =>
        hordered.2 name json (Assoc.mem_of_find?_eq_some hjson)

theorem Overrides.merge (h : (object changes).Overrides (object fields)) (hjson : json.Ordered) :
    (json.merge (object fields)).merge (object changes) = json.merge (object changes) :=
  Option.some.inj (h (some json) fun _ heq => Option.some.inj heq ▸ hjson)

end Json

namespace Resource

variable {json : Json} {before : Resource} {changes : List (String × Json)}

/-- A merge patch to the spec of an object, as it is read, is one field more. -/
theorem patched_spec (r : Resource) :
    r.patched (.object [("spec", .object changes)]) =
      r.withField "spec" (((r.fields.find? "spec").getD .null).merge (.object changes)) := by
  have hfields : (r.patched (.object [("spec", .object changes)])).fields =
      r.fields.insert "spec" (((r.fields.find? "spec").getD .null).merge (.object changes)) := by
    refine Dict.ext_find? fun name => ?_
    have hpatch : Assoc.find? name (Dict.ofList [("spec", Json.object changes)]).entries =
        if "spec" = name then some (.object changes) else none := Dict.find?_insert ..
    rw [Json.object, find?_patched r (Dict.ofList _).ascending, hpatch, Dict.find?_insert]
    by_cases hname : "spec" = name
    · subst hname
      rfl
    · rw [if_neg hname, if_neg hname]
  rw [withField, ← hfields]
  rfl

/-- What is read of a stored object after a merge patch to its spec. -/
theorem ofJson?_merge (hjson : json.Ordered) (hread : ofJson? json = some before) :
    ofJson? (json.merge (.object [("spec", .object changes)])) =
      some (before.patched (.object [("spec", .object changes)])) := by
  cases json with
  | obj fields =>
    have hmerge : (Json.obj fields).merge (.object [("spec", .object changes)]) =
        .ofDict ((⟨fields, hjson.ascending⟩ : Dict Json).insert "spec"
          (((Assoc.find? "spec" fields).getD .null).merge (.object changes))) := rfl
    have hread : ofJson? (Json.ofDict ⟨fields, hjson.ascending⟩) = some before := hread
    rw [hmerge, ofJson?_insert hread (by decide) (by decide) (by decide), patched_spec,
      find?_of_ofJson? hread (by decide) (by decide) (by decide)]
    rfl
  | _ => cases hread

end Resource

/-! ## Machines that are told to be on or off -/

namespace Machine

/-- What a machine is told. -/
inductive Power where
  | on
  | off
deriving DecidableEq, Repr

namespace Power

/-- The patch that tells it. -/
def patch : Power → Json
  | on => powerOn
  | off => powerOff

/-- What becomes of the fields by which an object asks to run. -/
def changes : Power → List (String × Json)
  | on => [("running", .null), ("runStrategy", .str rerunOnFailure)]
  | off => [("runStrategy", .null), ("running", .bool false)]

theorem patch_eq (power : Power) : power.patch = .object [("spec", .object power.changes)] := by
  cases power <;> rfl

/-- What a field becomes is not an object. -/
theorem isScalar {power : Power} {name : String} {value : Json}
    (h : (Dict.ofList power.changes).find? name = some value) : ∀ fields, value ≠ .obj fields := by
  rintro fields rfl
  have hmem := Dict.mem_of_mem_ofList (Dict.mem_entries_iff.2 h)
  cases power <;> simp [changes] at hmem

/-- Both patches name the same fields. -/
theorem isSome_find?_changes (power : Power) (name : String) :
    ((Dict.ofList power.changes).find? name).isSome = true ↔ name ∈ powerFields := by
  cases power <;>
    simp only [changes, Dict.ofList, List.foldl, Dict.find?_insert, Dict.find?_empty,
      powerFields] <;>
    grind

/-- Power patches override each other. -/
theorem overrides (last earlier : Power) : last.patch.Overrides earlier.patch := by
  rw [patch_eq, patch_eq]
  refine Json.overrides_object fun name value hvalue => ?_
  rw [Dict.ofList, List.foldl_cons, List.foldl_nil, Dict.find?_insert] at hvalue ⊢
  split at hvalue
  case isTrue hname =>
    cases hvalue
    refine ⟨_, if_pos hname, Json.overrides_object fun name value hvalue => ?_⟩
    have hsome := (last.isSome_find?_changes name).2
      ((earlier.isSome_find?_changes name).1 (Option.isSome_of_eq_some hvalue))
    obtain ⟨new, hnew⟩ := Option.isSome_iff_exists.1 hsome
    exact ⟨new, hnew, Json.overrides_of_scalar (isScalar hnew)⟩
  case isFalse => cases hvalue

theorem ordered_patch (power : Power) : power.patch.Ordered := by
  rw [patch_eq]
  refine .object fun name value hmem => ?_
  rw [List.mem_singleton] at hmem
  cases hmem
  refine .object fun name value hmem => ?_
  cases power with
  | on =>
    simp only [changes, List.mem_cons, Prod.mk.injEq, List.not_mem_nil, or_false] at hmem
    rcases hmem with ⟨-, rfl⟩ | ⟨-, rfl⟩
    · exact .null
    · exact .str _
  | off =>
    simp only [changes, List.mem_cons, Prod.mk.injEq, List.not_mem_nil, or_false] at hmem
    rcases hmem with ⟨-, rfl⟩ | ⟨-, rfl⟩
    · exact .null
    · exact .bool _

end Power

/-- A stored machine that was told several things, one after the other. -/
def powered (json : Json) (powers : List Power) : Json :=
  powers.foldl (fun json power => json.merge power.patch) json

/-- Of all that a machine was told only the last thing counts. -/
theorem powered_append_singleton {json : Json} (hjson : json.Ordered) (earlier : List Power)
    (last : Power) : powered json (earlier ++ [last]) = json.merge last.patch := by
  induction earlier generalizing json with
  | nil => rfl
  | cons first rest ih =>
    have hoverrides := last.overrides first
    rw [Power.patch_eq, Power.patch_eq] at hoverrides
    calc powered json (first :: rest ++ [last])
        = (json.merge first.patch).merge last.patch := ih (hjson.merge first.ordered_patch)
      _ = json.merge last.patch := by
        rw [Power.patch_eq, Power.patch_eq]
        exact hoverrides.merge hjson

/-- What the object of a machine says when it was told to be on or off. -/
structure Obeys (power : Power) (before after : Resource) : Prop where
  keptRunning : isKeptRunning after = true ↔ power = .on
  on : power = .on → after.at? ["spec", "runStrategy"] = some (.str rerunOnFailure) ∧
    after.at? ["spec", "running"] = none
  off : power = .off → after.at? ["spec", "running"] = some (.bool false) ∧
    after.at? ["spec", "runStrategy"] = none
  /-- The platform refuses an object that has both. -/
  exclusive : after.at? ["spec", "running"] = none ∨ after.at? ["spec", "runStrategy"] = none
  /-- All other fields of the spec stay; if there were none, none are there now. -/
  spec : ∀ name, name ∉ powerFields → after.at? ["spec", name] = before.at? ["spec", name]
  fields : ∀ name, name ≠ "spec" → after.fields.find? name = before.fields.find? name
  types : after.types = before.types
  metadata : after.metadata = before.metadata

theorem at?_spec (machine : Resource) (name : String) :
    machine.at? ["spec", name] = ((machine.fields.find? "spec").getD .null).field? name := by
  rw [Resource.at?_cons]
  cases machine.fields.find? "spec" with
  | none => rfl
  | some spec => exact Option.bind_fun_some _

/-- The fields of the spec of a machine that was told something: those that the patch names are
replaced or gone, all others stay. -/
theorem at?_spec_patched (machine : Resource) (power : Power) (name : String) :
    (machine.patched power.patch).at? ["spec", name] =
      match (Dict.ofList power.changes).find? name with
      | none => machine.at? ["spec", name]
      | some value => if value = .null then none else some value := by
  rw [at?_spec, at?_spec, Power.patch_eq, Resource.patched_spec, Resource.withField,
    Dict.find?_insert, if_pos rfl, Option.getD_some]
  refine (Json.field?_merge _ (Dict.ofList power.changes).ascending).trans ?_
  show (match (Dict.ofList power.changes).find? name with | none => _ | some value => _) = _
  cases hvalue : (Dict.ofList power.changes).find? name with
  | none => rfl
  | some value =>
    have hscalar := Power.isScalar hvalue
    cases value with
    | obj fields => exact absurd rfl (hscalar fields)
    | null => rfl
    | _ => simp [Json.mergedField, Json.merge]

theorem obeys_patched (machine : Resource) (power : Power) :
    Obeys power machine (machine.patched power.patch) := by
  have hspec := at?_spec_patched machine power
  have hkept (name : String) (hname : name ∉ powerFields) :
      (machine.patched power.patch).at? ["spec", name] = machine.at? ["spec", name] := by
    rw [hspec, Option.not_isSome_iff_eq_none.1 (mt (power.isSome_find?_changes name).1 hname)]
  have hfields (name : String) (hname : name ≠ "spec") :
      (machine.patched power.patch).fields.find? name = machine.fields.find? name := by
    rw [Power.patch_eq, Resource.patched_spec, Resource.withField,
      Dict.find?_insert_of_ne (Ne.symm hname)]
  cases power with
  | on =>
    have hstrategy : (machine.patched Power.on.patch).at? ["spec", "runStrategy"] =
        some (.str rerunOnFailure) := hspec "runStrategy"
    have hrunning : (machine.patched Power.on.patch).at? ["spec", "running"] = none :=
      hspec "running"
    have hnot : Power.on ≠ Power.off := by decide
    exact ⟨by simp [isKeptRunning, hstrategy], fun _ => ⟨hstrategy, hrunning⟩, (absurd · hnot),
      .inl hrunning, hkept, hfields, rfl, rfl⟩
  | off =>
    have hrunning : (machine.patched Power.off.patch).at? ["spec", "running"] =
        some (.bool false) := hspec "running"
    have hstrategy : (machine.patched Power.off.patch).at? ["spec", "runStrategy"] = none :=
      hspec "runStrategy"
    have hnot : Power.off ≠ Power.on := by decide
    exact ⟨by simp [isKeptRunning, hstrategy], (absurd · hnot), fun _ => ⟨hrunning, hstrategy⟩,
      .inr hstrategy, hkept, hfields, rfl, rfl⟩

/-- A stored machine, whatever its spec is, that was told any number of things is as if it was told
the last of them only. It is read as a machine that obeys it, and all else in it is as it was. -/
theorem obeys_last {json : Json} {before : Resource} (hjson : json.Ordered)
    (hread : Resource.ofJson? json = some before) (earlier : List Power) (last : Power) :
    powered json (earlier ++ [last]) = json.merge last.patch ∧
      (∀ name, name ≠ "spec" →
        (powered json (earlier ++ [last])).field? name = json.field? name) ∧
      Resource.ofJson? (powered json (earlier ++ [last])) = some (before.patched last.patch) ∧
      Obeys last before (before.patched last.patch) := by
  rw [powered_append_singleton hjson]
  refine ⟨rfl, fun name hname => ?_, ?_, obeys_patched before last⟩
  · rw [Power.patch_eq]
    refine (Json.field?_merge json (Dict.ofList _).ascending).trans ?_
    have hpatch : Assoc.find? name (Dict.ofList [("spec", Json.object last.changes)]).entries =
        none := (Dict.find?_insert ..).trans (if_neg hname.symm)
    rw [hpatch]
  · rw [Power.patch_eq]
    exact Resource.ofJson?_merge hjson hread

/-- A machine as it may be stored, whose spec is not even an object. -/
def oddMachine : Json :=
  .object [("metadata", .object [("name", .str "vm-0")]), ("spec", .str "halted"),
    ("status", .object [("ready", .bool true)])]

/-- Once powered on, off and on again it is kept running. -/
theorem oddMachine_obeys :
    ∃ before after, Resource.ofJson? oddMachine = some before ∧
      Resource.ofJson? (powered oddMachine [.on, .off, .on]) = some after ∧
      Obeys .on before after := by
  have hparse : Json.parse oddMachine.text = some oddMachine := by decide +kernel
  obtain ⟨before, hread⟩ : ∃ before, Resource.ofJson? oddMachine = some before :=
    Option.isSome_iff_exists.1 (by decide +kernel)
  obtain ⟨-, -, hafter, hobeys⟩ := obeys_last (Json.ordered_of_parse hparse) hread [.on, .off] .on
  exact ⟨before, _, hread, hafter, hobeys⟩

end Machine

end NamespaceBackup
