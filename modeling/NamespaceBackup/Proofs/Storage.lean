import NamespaceBackup.Bundle
import NamespaceBackup.Proofs.Rereading

/-!
# What is stored is kept

All that outlives a pass is stored as JSON: what a request asks for, its status, and the content of
a bundle. Nothing of it is lost on the way there and back. Of an object in a bundle only its
metadata is understood; all else is kept as it was given, if version and kind are given as texts or
not at all.

## Main definitions

* `TypeMeta.isOther`: a field that says nothing of the type
* `Resource.Typed`: version and kind are given once each and as texts, or neither is given
* `Resource.Kept`: an object as it was given and as it is written
* `Bundle.Content.objectsOf?`, `Bundle.Content.listOf`, `Bundle.Content.snapshotNameOf?`: what is
  given as the content of a bundle
* `Bundle.Content.Keeps`: what is written has all that was given

## Main results

* `Resource.ofJson?_toJson`, `Resource.kept_toJson`: an object is read again from what is written of
  it, which has all fields that were given
* `Bundle.Content.ofJson?_toJson`, `Bundle.Content.keeps_toJson`: the same of a bundle
* `stored_survives`: what is stored is kept
-/

namespace NamespaceBackup

/-! ## Version and kind -/

namespace Record

variable {σ : Type} {fields : List (String × σ)} {name : String}

theorem values_cons {key : String} {source : σ} :
    (⟨(key, source) :: fields⟩ : Record σ).values name =
      if key = name then source :: (⟨fields⟩ : Record σ).values name
      else (⟨fields⟩ : Record σ).values name := by
  unfold values
  by_cases hkey : key = name <;> simp [hkey]

theorem values_filter (p : String → Bool) :
    (⟨fields.filter (p ·.1)⟩ : Record σ).values name =
      if p name then (⟨fields⟩ : Record σ).values name else [] := by
  rw [values, List.filter_filter]
  split
  case isTrue hname =>
    refine congrArg (List.map Prod.snd) (List.filter_congr fun field _ => ?_)
    by_cases heq : field.1 = name <;> simp [heq, hname]
  case isFalse hname =>
    rw [List.map_eq_nil_iff, List.filter_eq_nil_iff]
    intro field _ hfield
    simp only [Bool.and_eq_true, decide_eq_true_eq] at hfield
    exact hname (hfield.1 ▸ hfield.2)

theorem last?_filter (p : String → Bool) :
    (⟨fields.filter (p ·.1)⟩ : Record σ).last? name =
      if p name then (⟨fields⟩ : Record σ).last? name else none := by
  rw [last?, values_filter]
  split <;> rfl

theorem last?_entries (dict : Dict Json) : (⟨dict.entries⟩ : Record Json).last? name =
    dict.find? name := by
  rw [last?, values_entries]
  cases dict.find? name <;> rfl

end Record

theorem Dict.find?_ofList_filter {α : Type} {pairs : List (String × α)} {name : String}
    (p : String → Bool) : (ofList (pairs.filter (p ·.1))).find? name =
      if p name then (ofList pairs).find? name else none := by
  rw [find?_ofList_eq_getLast?, find?_ofList_eq_getLast?]
  exact Record.last?_filter p

namespace TypeMeta

/-- A field that says nothing of the type. -/
def isOther (name : String) : Bool := name ≠ "apiVersion" && name ≠ "kind"

variable {apiVersion kind : Option String} {fields : List (String × Json)} {types : TypeMeta}

/-- A text that is given once has been taken, or is still there. -/
theorem taken_or_given {taken : Option String} {values : List Json} {text : String}
    (h : taken.toList.map .str ++ values = [.str text]) :
    taken = some text ∧ values = [] ∨ taken = none ∧ values = [.str text] := by
  cases taken with
  | none => exact .inr ⟨rfl, h⟩
  | some => exact .inl (by simpa using h)

/-- Version and kind are taken out if both are texts that are given once. -/
theorem take_of_texts
    (hversion : apiVersion.toList.map .str ++ (⟨fields⟩ : Record Json).values "apiVersion" =
      [.str types.apiVersion])
    (hkind : kind.toList.map .str ++ (⟨fields⟩ : Record Json).values "kind" = [.str types.kind]) :
    take apiVersion kind fields = (some types, fields.filter (isOther ·.1)) := by
  -- On the fields that are left: what of the two texts was not taken yet is still among them.
  induction fields generalizing apiVersion kind with
  | nil =>
    obtain ⟨rfl, -⟩ | ⟨-, ⟨⟩⟩ := taken_or_given hversion
    obtain ⟨rfl, -⟩ | ⟨-, ⟨⟩⟩ := taken_or_given hkind
    rfl
  | cons field rest ih =>
    obtain ⟨name, value⟩ := field
    rw [Record.values_cons] at hversion hkind
    rw [take_cons, List.filter_cons]
    by_cases hname : name = "apiVersion"
    · subst hname
      rw [if_pos rfl] at hversion
      rw [if_neg (by decide)] at hkind
      -- Had a version been taken, this one would be the second.
      obtain ⟨-, ⟨⟩⟩ | ⟨rfl, hvalues⟩ := taken_or_given hversion
      obtain ⟨rfl, hrest⟩ := List.cons_eq_cons.1 hvalues
      rw [if_pos rfl, if_neg (by simp [isOther])]
      exact ih (by rw [hrest]; rfl) hkind
    rw [if_neg hname] at hversion ⊢
    by_cases hname' : name = "kind"
    · subst hname'
      rw [if_pos rfl] at hkind
      obtain ⟨-, ⟨⟩⟩ | ⟨rfl, hvalues⟩ := taken_or_given hkind
      obtain ⟨rfl, hrest⟩ := List.cons_eq_cons.1 hvalues
      rw [if_pos rfl, if_neg (by simp [isOther])]
      exact ih hversion (by rw [hrest]; rfl)
    · rw [if_neg hname'] at hkind ⊢
      rw [ih hversion hkind, if_pos (by simp [isOther, hname, hname'])]

/-- Nothing is taken out if neither is given. -/
theorem take_of_absent (hversion : (⟨fields⟩ : Record Json).values "apiVersion" = [])
    (hkind : (⟨fields⟩ : Record Json).values "kind" = []) :
    take none none fields = (none, fields.filter (isOther ·.1)) := by
  induction fields with
  | nil => rfl
  | cons field rest ih =>
    obtain ⟨name, value⟩ := field
    rw [Record.values_cons] at hversion hkind
    by_cases hname : name = "apiVersion"
    · rw [if_pos hname] at hversion
      cases hversion
    by_cases hname' : name = "kind"
    · rw [if_pos hname'] at hkind
      cases hkind
    rw [if_neg hname] at hversion
    rw [if_neg hname'] at hkind
    rw [take_cons, if_neg hname, if_neg hname', ih hversion hkind, List.filter_cons,
      if_pos (by simp [isOther, hname, hname'])]

/-- Version and kind are taken out if both are texts that are given once, or neither is given. -/
theorem take_of_values {types : Option TypeMeta}
    (hversion : (⟨fields⟩ : Record Json).values "apiVersion" =
      types.toList.map fun types => .str types.apiVersion)
    (hkind : (⟨fields⟩ : Record Json).values "kind" =
      types.toList.map fun types => .str types.kind) :
    take none none fields = (types, fields.filter (isOther ·.1)) := by
  cases types with
  | none => exact take_of_absent hversion hkind
  | some types => exact take_of_texts hversion hkind

end TypeMeta

/-! ## Objects -/

namespace Resource

section Given

variable {σ : Type} [Json.Source σ] {source : σ} {r : Resource} {name : String}

/-- The value that counts of a field of what is given as an object. -/
def given? (source : σ) (name : String) : Option Json :=
  (Record.ofObject? source).bind fun record => (record.last? name).bind Json.Source.value?

/-- Version and kind are given once each and as texts, or neither is given. -/
def Typed (source : σ) : Prop :=
  ∀ record, Record.ofObject? source = some record → ∃ types : Option TypeMeta,
    (record.values "apiVersion").map Json.Source.value? =
      types.toList.map (fun types => some (.str types.apiVersion)) ∧
    (record.values "kind").map Json.Source.value? =
      types.toList.map (fun types => some (.str types.kind))

/-- The value of a field, version and kind included. -/
def value? (r : Resource) (name : String) : Option Json :=
  if name = "apiVersion" then r.types.map (.str ·.apiVersion)
  else if name = "kind" then r.types.map (.str ·.kind)
  else r.fields.find? name

/-- Of an object that was read all fields but its metadata are known. -/
theorem exists_others (hread : ofJson? source = some r) (htyped : Typed source) :
    ∃ record others, Record.ofObject? source = some record ∧
      (∀ name, ((⟨others⟩ : Record Json).values name).map some =
        if name = "metadata" then [] else (record.values name).map Json.Source.value?) ∧
      (⟨others⟩ : Record Json).values "apiVersion" =
        r.types.toList.map (fun types => .str types.apiVersion) ∧
      (⟨others⟩ : Record Json).values "kind" =
        r.types.toList.map (fun types => .str types.kind) ∧
      r.fields = Dict.ofList (others.filter (TypeMeta.isOther ·.1)) := by
  obtain ⟨record, others, hopen, -, htypes, hfields⟩ := ofJson?_eq_some.1 hread
  obtain ⟨hrecord, hothers⟩ := Record.of_ofOpenObject? hopen
  obtain ⟨types, hversion, hkind⟩ := htyped record hrecord
  have hvalues (name : String) : ((⟨others⟩ : Record Json).values name).map some =
      if name = "metadata" then [] else (record.values name).map Json.Source.value? := by
    rw [← values_of_mapM hothers name, Record.values_filter (· ∉ ["metadata"])]
    by_cases hname : name = "metadata" <;> simp [hname]
  -- Version and kind go through unchanged, so they are the texts that were given.
  have htexts {name : String} (hname : name ≠ "metadata") {field : TypeMeta → String}
      (hgiven : (record.values name).map Json.Source.value? =
        types.toList.map (fun types => some (.str (field types)))) :
      (⟨others⟩ : Record Json).values name =
        types.toList.map (fun types => .str (field types)) := by
    refine (List.map_inj_right fun _ _ => Option.some.inj).1 ?_
    rw [hvalues, if_neg hname, hgiven, List.map_map]
    rfl
  have hversion' := htexts (by decide) hversion
  have hkind' := htexts (by decide) hkind
  rw [TypeMeta.take_of_values hversion' hkind'] at htypes hfields
  have htypes : r.types = types := htypes
  exact ⟨record, others, hrecord, hvalues, htypes ▸ hversion', htypes ▸ hkind', hfields⟩

/-- No other field is called like those that are understood. -/
theorem find?_eq_none_of_ofJson? (hread : ofJson? source = some r) (htyped : Typed source)
    (hname : name = "metadata" ∨ TypeMeta.isOther name = false) : r.fields.find? name = none := by
  obtain ⟨record, others, -, hvalues, -, -, hfields⟩ := exists_others hread htyped
  rw [hfields, Dict.find?_ofList_filter]
  rcases hname with rfl | hname
  · have hnone := hvalues "metadata"
    rw [if_pos rfl, List.map_eq_nil_iff] at hnone
    rw [if_pos (by decide), Dict.find?_ofList_eq_getLast?]
    exact congrArg List.getLast? hnone
  · rw [hname]
    rfl

/-- Of an object that was read every field but its metadata is known as it was given. -/
theorem given?_of_ofJson? (hread : ofJson? source = some r) (htyped : Typed source)
    (hname : name ≠ "metadata") : given? source name = r.value? name := by
  obtain ⟨record, others, hrecord, hvalues, hversion, hkind, hfields⟩ :=
    exists_others hread htyped
  have hlast : (record.last? name).bind Json.Source.value? =
      (⟨others⟩ : Record Json).last? name := by
    have hlast := congrArg List.getLast? (hvalues name)
    rw [if_neg hname, List.getLast?_map, List.getLast?_map] at hlast
    unfold Record.last?
    cases hgiven : (record.values name).getLast? <;>
      cases hother : ((⟨others⟩ : Record Json).values name).getLast? <;>
      rw [hgiven, hother] at hlast
    · rfl
    · cases hlast
    · cases hlast
    · exact (Option.some.inj hlast).symm
  rw [given?, hrecord, Option.bind_some, hlast, value?]
  split
  case isTrue heq =>
    rw [heq, Record.last?, hversion]
    cases r.types <;> rfl
  case isFalse hversion' =>
    split
    case isTrue heq =>
      rw [heq, Record.last?, hkind]
      cases r.types <;> rfl
    case isFalse hkind' =>
      rw [hfields, Dict.find?_ofList_filter, if_pos (by simp [TypeMeta.isOther, hversion', hkind']),
        Dict.find?_ofList_eq_getLast?]
      rfl

end Given

variable {r : Resource} {name : String}

/-- An object whose other fields are not called like those that are understood. -/
def Separate (r : Resource) : Prop :=
  ∀ name, name = "metadata" ∨ TypeMeta.isOther name = false → r.fields.find? name = none

/-- What is written of an object, field by field. -/
theorem exists_dict_of_toJson (h : r.Separate) :
    ∃ dict : Dict Json, r.toJson = .ofDict dict ∧ ∀ name, dict.find? name =
      if name = "metadata" then some r.metadata.toJson else r.value? name := by
  refine ⟨_, rfl, fun name => ?_⟩
  have hfields := h name
  cases htypes : r.types with
  | none =>
    simp [Dict.find?_ofList_cons, value?, htypes]
    grind [TypeMeta.isOther]
  | some types =>
    simp [Dict.find?_ofList_cons, value?, htypes]
    grind [TypeMeta.isOther]

/-- An object is read again from what is written of it. -/
theorem ofJson?_toJson (h : r.Separate)
    (hmetadata : Metadata.ofJson? r.metadata.toJson = some r.metadata) :
    ofJson? r.toJson = some r := by
  obtain ⟨dict, hdict, hfind⟩ := exists_dict_of_toJson h
  have hothers (name : String) (hname : name ≠ "metadata") :
      (⟨(dict.erase "metadata").entries⟩ : Record Json).values name = (r.value? name).toList := by
    rw [Record.values_entries, Dict.find?_erase, if_neg hname.symm, hfind, if_neg hname]
  have hversion : (⟨(dict.erase "metadata").entries⟩ : Record Json).values "apiVersion" =
      r.types.toList.map fun types => .str types.apiVersion := by
    rw [hothers _ (by decide), value?, if_pos rfl, Option.toList_map]
  have hkind : (⟨(dict.erase "metadata").entries⟩ : Record Json).values "kind" =
      r.types.toList.map fun types => .str types.kind := by
    rw [hothers _ (by decide), value?, if_neg (by decide), if_pos rfl, Option.toList_map]
  have hfields : Dict.ofList ((dict.erase "metadata").entries.filter (TypeMeta.isOther ·.1)) =
      r.fields := by
    -- A field that is taken out is none of the others, as these are separate.
    refine Dict.ext_find? fun name => ?_
    rw [Dict.find?_ofList_filter, Dict.find?_ofList_entries, Dict.find?_erase, hfind]
    have hfields := h name
    grind [value?, TypeMeta.isOther]
  rw [hdict, ofJson?_ofDict, hfind, if_pos rfl, TypeMeta.take_of_values hversion hkind, hfields]
  simp [hmetadata]

/-- What is written of an object gives version and kind, or neither. -/
theorem typed_toJson (h : r.Separate) : Typed r.toJson := by
  obtain ⟨dict, hdict, hfind⟩ := exists_dict_of_toJson h
  rintro record hrecord
  rw [hdict] at hrecord
  cases hrecord
  refine ⟨r.types, ?_, ?_⟩
  all_goals
    rw [Record.values_entries, hfind]
    cases htypes : r.types <;> simp [value?, htypes, Json.Source.value?]

section Given

variable {σ : Type} [Json.Source σ] {source : σ}

theorem separate_of_ofJson? (hread : ofJson? source = some r) (htyped : Typed source) :
    r.Separate :=
  fun _ hname => find?_eq_none_of_ofJson? hread htyped hname

/-- The metadata of an object that was read is read again, also if none was given. -/
theorem metadata_of_ofJson? (hread : ofJson? source = some r) :
    Metadata.ofJson? r.metadata.toJson = some r.metadata := by
  obtain ⟨record, _, -, hmetadata, -, -⟩ := ofJson?_eq_some.1 hread
  have hvalue := Record.eq_of_withDefault hmetadata
  split at hvalue
  case h_1 =>
    rw [hvalue]
    exact Metadata.ofJson?_toJson_default
  case h_2 => exact Metadata.rereads.reread hvalue

theorem reread_of_ofJson? (hread : ofJson? source = some r) (htyped : Typed source) :
    ofJson? r.toJson = some r :=
  ofJson?_toJson (separate_of_ofJson? hread htyped) (metadata_of_ofJson? hread)

/-- What was given of an object and what is written of it are read alike, and have the same fields
but for the metadata. -/
structure Kept (given : σ) (written : Json) : Prop where
  read : ∃ r, ofJson? given = some r ∧ ofJson? written = some r
  fields : ∀ name, name ≠ "metadata" → given? written name = given? given name

theorem kept_toJson (hread : ofJson? source = some r) (htyped : Typed source) :
    Kept source r.toJson := by
  -- Both are read as the same object, which knows all fields of either.
  have hreread := reread_of_ofJson? hread htyped
  refine ⟨⟨r, hread, hreread⟩, fun name hname => ?_⟩
  rw [given?_of_ofJson? hreread (typed_toJson (separate_of_ofJson? hread htyped)) hname,
    given?_of_ofJson? hread htyped hname]

end Given

end Resource

/-! ## Bundles -/

namespace Bundle.Content

section Given

variable {σ α : Type} [Json.Source σ] {read : σ → Option α}

/-- The items of a list that is wrapped as a record. -/
def itemsOf (source : σ) : List σ :=
  ((Record.ofObjectOrArray? ["items"] 0 source).bind fun record =>
    (record.last? "items").bind Json.Source.items?).getD []

/-- A part of what is given as the content of a bundle. -/
def part? (source : σ) (name : String) : Option σ :=
  (Record.ofObjectOrArray? fieldNames 0 source).bind (·.last? name)

/-- The entry called `key` of a part that is given as a dictionary. -/
def keyed? (source : σ) (name key : String) : Option σ :=
  (part? source name).bind fun part => (Record.ofObject? part).bind (·.last? key)

/-- The objects that are given of a kind, if any list of them is given. -/
def objectsOf? (source : σ) (kind : String) : Option (List σ) :=
  (keyed? source "crs" kind).map itemsOf

/-- The config maps or the secrets that are given. -/
def listOf (source : σ) (name : String) : List σ := ((part? source name).map itemsOf).getD []

/-- The name that is given of a machine's snapshot. -/
def snapshotNameOf? (source : σ) (machine : String) : Option String :=
  (keyed? source "vmSnapshotNames" machine).bind Source.text?

/-- What is written has all that was given: of every kind the same objects in their order, all
config maps and secrets in theirs, and the names of the same snapshots. -/
structure Keeps (given : σ) (written : Json) : Prop where
  objects : ∀ kind,
    Option.Rel (List.Forall₂ Resource.Kept) (objectsOf? given kind) (objectsOf? written kind)
  configMaps : List.Forall₂ (fun old new => ∃ m, ConfigMap.ofJson? old = some m ∧
    ConfigMap.ofJson? new = some m) (listOf given "configMaps") (listOf written "configMaps")
  secrets : List.Forall₂ (fun old new => ∃ s, Secret.ofJson? old = some s ∧
    Secret.ofJson? new = some s) (listOf given "secrets") (listOf written "secrets")
  snapshotNames : ∀ machine, snapshotNameOf? written machine = snapshotNameOf? given machine

variable {source : σ} {xs : List α} {record : Record σ} {name : String} {content : Content}

/-- A wrapped list is read item by item. -/
theorem forall₂_itemsOf (h : items? read source = some xs) :
    List.Forall₂ (fun item x => read item = some x) (itemsOf source) xs := by
  obtain ⟨record, hrecord, hitems⟩ := Option.bind_eq_some_iff.1 h
  have hvalue := Record.eq_of_withDefault hitems
  rw [itemsOf, hrecord, Option.bind_some]
  split at hvalue
  case h_1 hnone =>
    rw [hvalue, hnone]
    exact .nil
  case h_2 list hlast =>
    obtain ⟨items, hitems, hread⟩ := Option.bind_eq_some_iff.1 hvalue
    rw [hlast, Option.bind_some, hitems]
    exact mapM_eq_some_iff.1 hread

theorem forall₂_listOf (hrecord : Record.ofObjectOrArray? fieldNames 0 source = some record)
    (h : record.withDefault name [] (items? read) = some xs) :
    List.Forall₂ (fun item x => read item = some x) (listOf source name) xs := by
  have hvalue := Record.eq_of_withDefault h
  rw [listOf, part?, hrecord, Option.bind_some]
  split at hvalue
  case h_1 hnone =>
    rw [hvalue, hnone]
    exact .nil
  case h_2 list hlast =>
    rw [hlast]
    exact forall₂_itemsOf hvalue

theorem keyed?_of_withDefault {dict : Dict α}
    (hrecord : Record.ofObjectOrArray? fieldNames 0 source = some record)
    (h : record.withDefault name .empty (Source.dict? read) = some dict) (key : String) :
    (keyed? source name key).map read = (dict.find? key).map some := by
  have hvalue := Record.eq_of_withDefault h
  rw [keyed?, part?, hrecord, Option.bind_some]
  split at hvalue
  case h_1 hnone =>
    rw [hvalue, hnone]
    rfl
  case h_2 part hlast =>
    rw [hlast, Option.bind_some]
    exact Source.find?_of_dict? hvalue key

/-- The content of a bundle is read part by part. -/
theorem ofJson?_eq_some : ofJson? source = some content ↔
    ∃ record, Record.ofObjectOrArray? fieldNames 0 source = some record ∧
      record.withDefault "crs" .empty (Source.dict? (items? Resource.ofJson?)) =
        some content.resources ∧
      record.withDefault "configMaps" [] (items? ConfigMap.ofJson?) = some content.configMaps ∧
      record.withDefault "secrets" [] (items? Secret.ofJson?) = some content.secrets ∧
      record.withDefault "vmSnapshotNames" .empty (Source.dict? Source.text?) =
        some content.snapshotNames := by
  simp only [ofJson?, Option.bind_eq_bind, Option.bind_eq_some_iff, Option.pure_def,
    Option.some.injEq]
  constructor
  · rintro ⟨record, hrecord, _, h1, _, h2, _, h3, _, h4, rfl⟩
    exact ⟨record, hrecord, h1, h2, h3, h4⟩
  · rintro ⟨record, hrecord, h1, h2, h3, h4⟩
    exact ⟨record, hrecord, _, h1, _, h2, _, h3, _, h4, rfl⟩

/-- All objects of a kind are read. -/
theorem objectsOf?_of_ofJson? (hread : ofJson? source = some content)
    (htyped : ∀ kind objects given, objectsOf? source kind = some objects → given ∈ objects →
      Resource.Typed given) (kind : String) :
    Option.Rel (List.Forall₂ fun given r => Resource.ofJson? given = some r ∧ Resource.Typed given)
      (objectsOf? source kind) (content.resources.find? kind) := by
  obtain ⟨record, hrecord, hresources, -⟩ := ofJson?_eq_some.1 hread
  have hkeyed := keyed?_of_withDefault hrecord hresources kind
  have htyped := htyped kind
  unfold objectsOf? at htyped ⊢
  -- A list is given of a kind if and only if one is kept.
  cases hgiven : keyed? source "crs" kind <;> cases hfind : content.resources.find? kind <;>
    rw [hgiven, hfind] at hkeyed
  · exact .none
  · cases hkeyed
  · cases hkeyed
  · rw [hgiven] at htyped
    have hitems := forall₂_itemsOf (Option.some.inj hkeyed)
    refine .some (((List.forall₂_and_left ..).2 ⟨?_, hitems⟩).imp fun _ _ h => ⟨h.2, h.1⟩)
    exact fun given hgiven => htyped _ given rfl hgiven

end Given

/-! ### What is written -/

section Written

variable {α : Type} {reread : Json → Option α} {write : α → Json} {content : Content}
  {name key : String}

@[simp] theorem itemsOf_ofItems (items : List Json) : itemsOf (ofItems items) = items := by
  rw [itemsOf, ofItems, Record.ofObjectOrArray?_object, Option.bind_some, Record.last?_entries]
  rfl

theorem items?_written {xs : List α} (h : ∀ x ∈ xs, reread (write x) = some x) :
    items? reread (ofItems (xs.map write)) = some xs := by
  rw [items?, ofItems, Record.ofObjectOrArray?_object]
  exact withDefault_written (list?_written h) rfl

/-- Every part is written. -/
theorem part?_toJson : part? content.toJson name =
    (Dict.ofList [
      ("crs", .ofDict (content.resources.map fun rs => ofItems (rs.map (·.toJson)))),
      ("configMaps", ofItems (content.configMaps.map (·.toJson))),
      ("secrets", ofItems (content.secrets.map (·.toJson))),
      ("vmSnapshotNames", .ofTexts content.snapshotNames)]).find? name := by
  rw [part?, toJson, Record.ofObjectOrArray?_object, Option.bind_some, Record.last?_entries]

theorem keyed?_toJson {dict : Dict Json} (h : part? content.toJson name = some (.ofDict dict)) :
    keyed? content.toJson name key = dict.find? key := by
  rw [keyed?, h, Option.bind_some]
  exact Record.last?_entries dict

theorem objectsOf?_toJson (kind : String) : objectsOf? content.toJson kind =
    (content.resources.find? kind).map fun rs => rs.map (·.toJson) := by
  have hpart : part? content.toJson "crs" =
      some (.ofDict (content.resources.map fun rs => ofItems (rs.map (·.toJson)))) := by
    simp [part?_toJson, Dict.find?_ofList_cons]
  rw [objectsOf?, keyed?_toJson hpart, Dict.find?_map, Option.map_map]
  exact congrArg (Option.map · _) (funext fun rs => itemsOf_ofItems _)

theorem listOf_configMaps_toJson :
    listOf content.toJson "configMaps" = content.configMaps.map (·.toJson) := by
  simp [listOf, part?_toJson, Dict.find?_ofList_cons]

theorem listOf_secrets_toJson :
    listOf content.toJson "secrets" = content.secrets.map (·.toJson) := by
  simp [listOf, part?_toJson, Dict.find?_ofList_cons]

theorem snapshotNameOf?_toJson (machine : String) :
    snapshotNameOf? content.toJson machine = content.snapshotNames.find? machine := by
  have hpart : part? content.toJson "vmSnapshotNames" = some (.ofTexts content.snapshotNames) := by
    simp [part?_toJson, Dict.find?_ofList_cons]
  rw [snapshotNameOf?, keyed?_toJson hpart, Dict.find?_map]
  cases content.snapshotNames.find? machine <;> rfl

end Written

/-! ### What was given -/

section Given

variable {σ : Type} [Json.Source σ] {source : σ} {content : Content}

/-- The content of a bundle is read again from what is written of it. -/
theorem ofJson?_toJson (hread : ofJson? source = some content)
    (htyped : ∀ kind objects given, objectsOf? source kind = some objects → given ∈ objects →
      Resource.Typed given) : ofJson? content.toJson = some content := by
  obtain ⟨record, hrecord, -, hconfigMaps, hsecrets, -⟩ := ofJson?_eq_some.1 hread
  have hresources : Source.dict? (items? Resource.ofJson?)
      (Json.ofDict (content.resources.map fun rs => ofItems (rs.map (·.toJson)))) =
        some content.resources := by
    refine dict?_written fun kind rs hrs => items?_written fun r hr => ?_
    have hobjects := objectsOf?_of_ofJson? hread htyped kind
    rw [hrs] at hobjects
    generalize objectsOf? source kind = objects at hobjects
    cases hobjects with
    | some hobjects =>
      obtain ⟨given, -, hgiven, htyped⟩ := exists_of_forall₂ hobjects hr
      exact Resource.reread_of_ofJson? hgiven htyped
  have hconfigMaps : items? ConfigMap.ofJson? (ofItems (content.configMaps.map (·.toJson))) =
      some content.configMaps := by
    refine items?_written fun m hm => ?_
    obtain ⟨given, -, hgiven⟩ := exists_of_forall₂ (forall₂_listOf hrecord hconfigMaps) hm
    exact ConfigMap.rereads.reread hgiven
  have hsecrets : items? Secret.ofJson? (ofItems (content.secrets.map (·.toJson))) =
      some content.secrets := by
    refine items?_written fun s hs => ?_
    obtain ⟨given, -, hgiven⟩ := exists_of_forall₂ (forall₂_listOf hrecord hsecrets) hs
    exact Secret.rereads.reread hgiven
  have hnames : Source.dict? Source.text? (Json.ofTexts content.snapshotNames) =
      some content.snapshotNames := dict?_written fun _ _ _ => rfl
  refine ofJson?_eq_some.2 ⟨_, Record.ofObjectOrArray?_object .., withDefault_written hresources ?_,
    withDefault_written hconfigMaps ?_, withDefault_written hsecrets ?_,
    withDefault_written hnames ?_⟩
  all_goals simp [Dict.find?_ofList_cons]

/-- What is written of a bundle has all that was given. -/
theorem keeps_toJson (hread : ofJson? source = some content)
    (htyped : ∀ kind objects given, objectsOf? source kind = some objects → given ∈ objects →
      Resource.Typed given) : Keeps source content.toJson := by
  obtain ⟨record, hrecord, -, hconfigMaps, hsecrets, hnames⟩ := ofJson?_eq_some.1 hread
  refine ⟨fun kind => ?_, ?_, ?_, fun machine => ?_⟩
  · rw [objectsOf?_toJson]
    have hobjects := objectsOf?_of_ofJson? hread htyped kind
    generalize objectsOf? source kind = objects at hobjects ⊢
    generalize content.resources.find? kind = rs at hobjects ⊢
    cases hobjects with
    | none => exact .none
    | some hobjects =>
      refine .some (List.forall₂_map_right_iff.2 (hobjects.imp fun given r h => ?_))
      exact Resource.kept_toJson h.1 h.2
  · rw [listOf_configMaps_toJson, List.forall₂_map_right_iff]
    exact (forall₂_listOf hrecord hconfigMaps).imp fun given m h =>
      ⟨m, h, ConfigMap.rereads.reread h⟩
  · rw [listOf_secrets_toJson, List.forall₂_map_right_iff]
    exact (forall₂_listOf hrecord hsecrets).imp fun given s h => ⟨s, h, Secret.rereads.reread h⟩
  · rw [snapshotNameOf?_toJson, snapshotNameOf?]
    have hname := keyed?_of_withDefault hrecord hnames machine
    cases hgiven : keyed? source "vmSnapshotNames" machine <;>
      cases hfind : content.snapshotNames.find? machine <;> rw [hgiven, hfind] at hname
    · rfl
    · cases hname
    · cases hname
    · exact (Option.some.inj hname).symm

end Given

end Bundle.Content

/-- What is stored is kept. Whatever a request asks for, and whatever its status is, it is read
again from what is written of it. The content of a bundle, as it was read from a value or a
document, is read again from what is written of it, which has all that was given, if version and
kind of every object are given once each and as texts, or neither is given.

What is written, and read again, is a value. If its text, as `Json.text` writes it, is parsed in
between, a real number in it may move by rounding, as `Json.Numeral` says. -/
theorem stored_survives :
    (∀ spec : Request.Spec, Request.Spec.ofJson? spec.toJson = some spec) ∧
      (∀ status : Request.Status, Request.Status.ofJson? status.toJson = some status) ∧
      ∀ {σ : Type} [Json.Source σ] {source : σ} {content : Bundle.Content},
        Bundle.Content.ofJson? source = some content →
        (∀ kind objects given, Bundle.Content.objectsOf? source kind = some objects →
          given ∈ objects → Resource.Typed given) →
        Bundle.Content.ofJson? content.toJson = some content ∧
          Bundle.Content.Keeps source content.toJson :=
  ⟨Request.Spec.ofJson?_toJson, Request.Status.ofJson?_toJson, fun hread htyped =>
    ⟨Bundle.Content.ofJson?_toJson hread htyped, Bundle.Content.keeps_toJson hread htyped⟩⟩

/-! ### Objects that do and do not survive -/

section Examples

open Json (Document)

/-- A bundle with one network. -/
def bundleOf (network : Document) : Document :=
  .obj [(some "crs", .obj [(some "Network", .obj [(some "items", .arr [network])])]),
    (some "vmSnapshotNames", .obj [(some "db-0", .scalar (.str "nightly-db-0"))])]

/-- A network that gives version and kind as it should. -/
def typedNetwork : Document :=
  .obj [(some "kind", .scalar (.str "Network")),
    (some "spec", .obj [(some "vlan", .scalar (.int 7))]),
    (some "apiVersion", .scalar (.str "director.infra.io/v1beta1")),
    (some "metadata", .obj [(some "name", .scalar (.str "ctlplane"))])]

theorem objectsOf?_bundleOf (network : Document) (kind : String) :
    Bundle.Content.objectsOf? (bundleOf network) kind =
      if "Network" = kind then some [network] else none := by
  have hkeyed : Bundle.Content.objectsOf? (bundleOf network) kind =
      ((⟨[("Network", .obj [(some "items", .arr [network])])]⟩ : Record Document).last? kind).map
        Bundle.Content.itemsOf := rfl
  rw [hkeyed, Record.last?_cons]
  split <;> rfl

theorem typedNetwork_survives : ∃ content,
    Bundle.Content.ofJson? (bundleOf typedNetwork) = some content ∧
      Bundle.Content.ofJson? content.toJson = some content ∧
      Bundle.Content.Keeps (bundleOf typedNetwork) content.toJson := by
  obtain ⟨content, hread⟩ := Option.isSome_iff_exists.1
    (by decide : (Bundle.Content.ofJson? (bundleOf typedNetwork)).isSome = true)
  refine ⟨content, hread, stored_survives.2.2 hread fun kind objects given hobjects hgiven => ?_⟩
  rw [objectsOf?_bundleOf] at hobjects
  split at hobjects
  case isFalse => cases hobjects
  case isTrue =>
    cases hobjects
    rw [List.mem_singleton.1 hgiven]
    rintro record ⟨⟩
    exact ⟨some ⟨"director.infra.io/v1beta1", "Network"⟩, rfl, rfl⟩

/-- A network whose version is a number. -/
def numberedNetwork : Document :=
  .obj [(some "apiVersion", .scalar (.int 5)), (some "kind", .scalar (.str "Network")),
    (some "metadata", .obj [(some "name", .scalar (.str "ctlplane"))])]

/-- A network whose version is given twice. -/
def repeatedNetwork : Document :=
  .obj [(some "apiVersion", .scalar (.str "v1")), (some "apiVersion", .scalar (.str "v1")),
    (some "kind", .scalar (.str "Network")),
    (some "metadata", .obj [(some "name", .scalar (.str "ctlplane"))])]

/-- What is left of them both. -/
def untypedContent : Bundle.Content where
  resources := .ofList [("Network", [{
    metadata := { name := some "ctlplane" }
    fields := .ofList [("kind", .str "Network")] }])]
  snapshotNames := .ofList [("db-0", "nightly-db-0")]

/-- A network gives version and kind, but the version is not written, and what is written is not
written alike when it is read again. -/
def LosesType (network : Document) : Prop :=
  (Resource.given? network "apiVersion").isSome = true ∧
    (Resource.given? network "kind").isSome = true ∧
    ∃ content written, Bundle.Content.ofJson? (bundleOf network) = some content ∧
      Bundle.Content.objectsOf? content.toJson "Network" = some [written] ∧
      Resource.given? written "apiVersion" = none ∧
      (Bundle.Content.ofJson? content.toJson).map (·.toJson) ≠ some content.toJson

theorem type_lost : LosesType numberedNetwork ∧ LosesType repeatedNetwork := by
  have hread : Bundle.Content.ofJson? (bundleOf numberedNetwork) = some untypedContent := by decide
  have hread' : Bundle.Content.ofJson? (bundleOf repeatedNetwork) = some untypedContent := by decide
  have hwritten : ∃ written,
      Bundle.Content.objectsOf? untypedContent.toJson "Network" = some [written] ∧
        Resource.given? written "apiVersion" = none := ⟨_, rfl, by decide⟩
  have hagain : (Bundle.Content.ofJson? untypedContent.toJson).map (·.toJson) ≠
      some untypedContent.toJson := by decide
  obtain ⟨written, hobjects, hversion⟩ := hwritten
  exact ⟨⟨by decide, by decide, _, written, hread, hobjects, hversion, hagain⟩,
    ⟨by decide, by decide, _, written, hread', hobjects, hversion, hagain⟩⟩

end Examples

end NamespaceBackup
