import Mathlib.Data.List.Induction
import NamespaceBackup.Object.ConfigMap
import NamespaceBackup.Object.Resource
import NamespaceBackup.Proofs.Objects

/-!
# Objects that are read

What is read of a record depends on the last value of each of its fields, and in a value that was
written from a dictionary each field has one value at most. Version and kind of an object count only
together; all else is kept as it is.

## Main definitions

* `Record.last?`: the value of a field that counts

## Main results

* `Dict.find?_ofList_append`, `Json.merge_object_singleton`: what is built from lists of fields
* `Record.eq_of_withDefault`, `Record.exists_of_nullable`: what a field is read as
* `Json.Document.exists_last_of_value?`: the value of a document has the values that count
* `Record.required_entries`, `Record.withDefault_entries`, `Record.nullable_entries`: the fields of
  what was written from a dictionary
* `Metadata.ofJson?_eq_some`, `ConfigMap.ofJson?_eq_some`, `Secret.ofJson?_eq_some`,
  `Resource.ofJson?_eq_some`: what is read, field by field
* `TypeMeta.take_insert`: a field that says nothing of the type may be put in afterwards
* `Resource.ofJson?_insert`: what one more field changes
-/

namespace NamespaceBackup

namespace Dict

variable {α : Type} {pairs : List (String × α)} {name : String}

/-- Of several pairs with one name the last counts. -/
theorem find?_ofList_eq_getLast? :
    (ofList pairs).find? name = ((pairs.filter (·.1 = name)).map Prod.snd).getLast? := by
  induction pairs using List.reverseRecOn with
  | nil => rfl
  | append_singleton front last ih =>
    obtain ⟨key, value⟩ := last
    rw [ofList, List.foldl_append, List.foldl_cons, List.foldl_nil, find?_insert, ← ofList, ih,
      List.filter_append, List.map_append]
    by_cases hkey : key = name <;> simp [hkey]

/-- Of two lists of pairs the later counts. -/
theorem find?_ofList_append (front back : List (String × α)) :
    (ofList (front ++ back)).find? name =
      ((ofList back).find? name).or ((ofList front).find? name) := by
  simp only [find?_ofList_eq_getLast?, List.filter_append, List.map_append, List.getLast?_append]

theorem find?_ofList_cons {key : String} {value : α} :
    (ofList ((key, value) :: pairs)).find? name =
      ((ofList pairs).find? name).or (if key = name then some value else none) :=
  find?_ofList_append [(key, value)] pairs

@[simp] theorem find?_ofList_nil : (ofList ([] : List (String × α))).find? name = none := rfl

@[simp] theorem find?_ofList_entries (dict : Dict α) :
    (ofList dict.entries).find? name = dict.find? name :=
  find?_ofList dict.ascending name

end Dict

namespace Json

variable {name key : String}

@[simp] theorem find?_ofList_optional {value : Option Json} :
    (Dict.ofList (optional key value)).find? name = if key = name then value else none := by
  cases value with
  | none => exact (ite_self _).symm
  | some => exact Dict.find?_ofList_cons

/-- A merge patch that names one field changes that one only. -/
theorem merge_object_singleton {fields changed : List (String × Json)} {value : Json}
    (hkey : (Dict.ofList changed).find? key = mergedField ((Dict.ofList fields).find? key) value)
    (hother : ∀ name, name ≠ key →
      (Dict.ofList changed).find? name = (Dict.ofList fields).find? name) :
    (object fields).merge (object [(key, value)]) = object changed := by
  have hpatch (name : String) : Assoc.find? name (Dict.ofList [(key, value)]).entries =
      if key = name then some value else none := Dict.find?_ofList_cons
  have hascending := (Dict.ofList [(key, value)]).ascending
  rw [object, object, merge]
  refine congrArg obj (Assoc.Ascending.ext (ascending_mergeFields (Dict.ofList fields).ascending _)
    (Dict.ofList changed).ascending fun name => ?_)
  rw [find?_mergeFields hascending, hpatch]
  by_cases hname : key = name
  · subst hname
    rw [if_pos rfl]
    exact hkey.symm
  · rw [if_neg hname]
    exact (hother name (Ne.symm hname)).symm

end Json

/-! ## The value that counts -/

namespace Record

variable {σ α : Type} {record : Record σ} {name : String} {read : σ → Option α}
  {value default : α}

/-- The value of a field that counts: the last one. -/
def last? (record : Record σ) (name : String) : Option σ := (record.values name).getLast?

/-- A field with a default has that, or what is read of the value that counts. -/
theorem eq_of_withDefault (h : record.withDefault name default read = some value) :
    match record.last? name with
    | none => value = default
    | some source => read source = some value := by
  obtain ⟨values, hvalues, rfl⟩ := Option.map_eq_some_iff.1 h
  rw [last?]
  rcases List.eq_nil_or_concat (record.values name) with hnil | ⟨front, last, hlast⟩
  · rw [hnil] at hvalues ⊢
    cases hvalues
    rfl
  · rw [hlast, List.concat_eq_append, List.mapM_append] at hvalues
    rw [hlast, List.concat_eq_append, List.getLast?_concat]
    simp only [List.mapM_cons, List.mapM_nil, Option.bind_eq_bind, Option.pure_def,
      Option.bind_eq_some_iff, Option.some.injEq] at hvalues
    obtain ⟨values, -, _, ⟨value, hvalue, _, rfl, rfl⟩, rfl⟩ := hvalues
    simpa using hvalue

/-- What a field that may be absent or `null` is read as, if it is neither. -/
theorem exists_of_nullable [Json.Source σ] {value : Option α} {source : σ}
    (h : record.nullable name read = some value) (hlast : record.last? name = some source)
    (hnull : Source.isNull source = false) : ∃ x, value = some x ∧ read source = some x := by
  have hvalue := eq_of_withDefault h
  rw [hlast] at hvalue
  simp only [hnull, Bool.false_eq_true, if_false] at hvalue
  obtain ⟨x, hx, rfl⟩ := Option.map_eq_some_iff.1 hvalue
  exact ⟨x, rfl, hx⟩

theorem last?_cons {key : String} {source : σ} {fields : List (String × σ)} :
    (⟨(key, source) :: fields⟩ : Record σ).last? name =
      ((⟨fields⟩ : Record σ).last? name).or (if key = name then some source else none) := by
  unfold last? values
  by_cases hkey : key = name
  · simp [hkey, List.getLast?_cons, Option.or_some]
  · simp [hkey]

end Record

namespace Json.Document

variable {fields : List (Option String × Document)} {values : List (String × Json)}
  {named : List (String × Document)} {document source : Document} {json : Json} {name : String}

theorem find?_of_fieldValues? (name : String) (hvalues : fieldValues? fields = some values)
    (hnamed : fields.mapM (fun field => field.1.map (·, field.2)) = some named) :
    match (⟨named⟩ : Record Document).last? name with
    | none => (Dict.ofList values).find? name = none
    | some source => ∃ value, source.value? = some value ∧
        (Dict.ofList values).find? name = some value := by
  induction fields generalizing values named with
  | nil =>
    cases hvalues
    cases hnamed
    rfl
  | cons field rest ih =>
    simp only [fieldValues?, Option.bind_eq_bind, Option.bind_eq_some_iff, Option.pure_def,
      Option.some.injEq] at hvalues
    obtain ⟨key, hkey, value, hvalue, others, hothers, rfl⟩ := hvalues
    simp only [List.mapM_cons, hkey, Option.map_some, Option.bind_eq_bind, Option.bind_some,
      Option.bind_eq_some_iff, Option.pure_def, Option.some.injEq] at hnamed
    obtain ⟨front, hfront, rfl⟩ := hnamed
    have ih := ih hothers hfront
    rw [Record.last?_cons, Dict.find?_ofList_cons]
    cases hlast : (⟨front⟩ : Record Document).last? name with
    | none =>
      rw [hlast] at ih
      rw [Option.none_or, ih, Option.none_or]
      by_cases hname : key = name
      · simpa [hname] using hvalue
      · simp [hname]
    | some source =>
      rw [hlast] at ih
      obtain ⟨last, hsource, hfind⟩ := ih
      exact ⟨last, hsource, by rw [hfind, Option.some_or]⟩

/-- A field of the value of a document is the value of the field that counts. -/
theorem exists_last_of_value? {record : Record Document} {value : Json}
    (hvalue : document.value? = some json) (hrecord : Record.ofObject? document = some record)
    (hfield : json.field? name = some value) :
    ∃ source, record.last? name = some source ∧ source.value? = some value := by
  obtain ⟨named, hnamed, rfl⟩ := Option.map_eq_some_iff.1 hrecord
  cases document with
  | obj fields =>
    obtain ⟨values, hvalues, rfl⟩ := Option.map_eq_some_iff.1 hvalue
    have hlast := find?_of_fieldValues? name hvalues hnamed
    rw [field?_object] at hfield
    split at hlast
    case h_1 =>
      rw [hfield] at hlast
      cases hlast
    case h_2 source hsource =>
      obtain ⟨last, hlast, hfind⟩ := hlast
      exact ⟨source, hsource, hlast.trans (hfind.symm.trans hfield)⟩
  | void | scalar | arr => cases hnamed

end Json.Document

/-! ## Records of values -/

namespace Record

variable {α : Type} {dict : Dict Json} {name : String} {read : Json → Option α} {default : α}

/-- What was written from a dictionary has each field once at most. -/
theorem values_entries (dict : Dict Json) (name : String) :
    (⟨dict.entries⟩ : Record Json).values name = (dict.find? name).toList := by
  have hentries (fields : List (String × Json)) (h : Assoc.Ascending fields) :
      (fields.filter (·.1 = name)).map Prod.snd = (Assoc.find? name fields).toList := by
    induction fields with
    | nil => rfl
    | cons head rest ih =>
      obtain ⟨key, value⟩ := head
      obtain ⟨hless, hrest⟩ := List.pairwise_cons.1 h
      have ih := ih hrest
      rw [Assoc.find?]
      split
      case isTrue heq =>
        subst heq
        rw [Assoc.find?_eq_none_of_lt hless] at ih
        simp [ih]
      case isFalse hne => simpa [hne] using ih
  exact hentries dict.entries dict.ascending

theorem isUnique_entries (dict : Dict Json) (names : List String) :
    (⟨dict.entries⟩ : Record Json).isUnique names = true := by
  rw [isUnique, List.all_eq_true]
  intro name _
  rw [values_entries]
  cases dict.find? name <;> simp

theorem required_entries :
    (⟨dict.entries⟩ : Record Json).required name read = (dict.find? name).bind read := by
  rw [required, values_entries]
  cases dict.find? name with
  | none => rfl
  | some value => cases hread : read value <;> simp [hread]

theorem withDefault_entries :
    (⟨dict.entries⟩ : Record Json).withDefault name default read =
      (match dict.find? name with
      | none => some default
      | some value => read value) := by
  rw [withDefault, values_entries]
  cases dict.find? name with
  | none => rfl
  | some value => cases hread : read value <;> simp [hread]

theorem nullable_entries :
    (⟨dict.entries⟩ : Record Json).nullable name read =
      (match dict.find? name with
      | none => some none
      | some value => if value = .null then some none else (read value).map some) := by
  rw [nullable, withDefault_entries]
  cases dict.find? name with
  | none => rfl
  | some value => simp [Source.isNull, Json.Source.value?]

theorem fixed_entries {text : String} :
    (⟨dict.entries⟩ : Record Json).fixed name text =
      (match dict.find? name with
      | none => some ()
      | some value => if value = .str text then some () else none) := by
  rw [fixed, withDefault_entries]
  cases dict.find? name with
  | none => rfl
  | some value =>
    cases value <;> simp [Source.text?, Json.Source.value?, Json.str?]

end Record

/-! ## Metadata, config maps and secrets -/

section Kinds

variable {σ : Type} [Json.Source σ] {json : σ}

/-- Metadata is read field by field. -/
theorem Metadata.ofJson?_eq_some {m : Metadata} :
    ofJson? json = some m ↔ ∃ record, Record.ofObject? json = some record ∧
      record.nullable "annotations" (Source.dict? Source.text?) = some m.annotations ∧
      record.nullable "creationTimestamp" Timestamp.ofJson? = some m.creationTimestamp ∧
      record.nullable "deletionGracePeriodSeconds" (Source.signed? 64) =
        some m.deletionGracePeriodSeconds ∧
      record.nullable "deletionTimestamp" Timestamp.ofJson? = some m.deletionTimestamp ∧
      record.nullable "finalizers" (Source.list? Source.text?) = some m.finalizers ∧
      record.nullable "generateName" Source.text? = some m.generateName ∧
      record.nullable "generation" (Source.signed? 64) = some m.generation ∧
      record.nullable "labels" (Source.dict? Source.text?) = some m.labels ∧
      record.nullable "managedFields" (Source.list? FieldOwnership.ofJson?) =
        some m.managedFields ∧
      record.nullable "name" Source.text? = some m.name ∧
      record.nullable "namespace" Source.text? = some m.ns ∧
      record.nullable "ownerReferences" (Source.list? OwnerReference.ofJson?) =
        some m.ownerReferences ∧
      record.nullable "resourceVersion" Source.text? = some m.resourceVersion ∧
      record.nullable "selfLink" Source.text? = some m.selfLink ∧
      record.nullable "uid" Source.text? = some m.uid := by
  constructor
  · intro h
    obtain ⟨record, hrecord, h⟩ := Option.bind_eq_some_iff.1 h
    obtain ⟨_, h1, h⟩ := Option.bind_eq_some_iff.1 h
    obtain ⟨_, h2, h⟩ := Option.bind_eq_some_iff.1 h
    obtain ⟨_, h3, h⟩ := Option.bind_eq_some_iff.1 h
    obtain ⟨_, h4, h⟩ := Option.bind_eq_some_iff.1 h
    obtain ⟨_, h5, h⟩ := Option.bind_eq_some_iff.1 h
    obtain ⟨_, h6, h⟩ := Option.bind_eq_some_iff.1 h
    obtain ⟨_, h7, h⟩ := Option.bind_eq_some_iff.1 h
    obtain ⟨_, h8, h⟩ := Option.bind_eq_some_iff.1 h
    obtain ⟨_, h9, h⟩ := Option.bind_eq_some_iff.1 h
    obtain ⟨_, h10, h⟩ := Option.bind_eq_some_iff.1 h
    obtain ⟨_, h11, h⟩ := Option.bind_eq_some_iff.1 h
    obtain ⟨_, h12, h⟩ := Option.bind_eq_some_iff.1 h
    obtain ⟨_, h13, h⟩ := Option.bind_eq_some_iff.1 h
    obtain ⟨_, h14, h⟩ := Option.bind_eq_some_iff.1 h
    obtain ⟨_, h15, ⟨⟩⟩ := Option.bind_eq_some_iff.1 h
    exact ⟨record, hrecord, h1, h2, h3, h4, h5, h6, h7, h8, h9, h10, h11, h12, h13, h14, h15⟩
  · rintro ⟨record, hrecord, h1, h2, h3, h4, h5, h6, h7, h8, h9, h10, h11, h12, h13, h14, h15⟩
    refine Option.bind_eq_some_iff.2 ⟨_, hrecord, ?_⟩
    refine Option.bind_eq_some_iff.2 ⟨_, h1, ?_⟩
    refine Option.bind_eq_some_iff.2 ⟨_, h2, ?_⟩
    refine Option.bind_eq_some_iff.2 ⟨_, h3, ?_⟩
    refine Option.bind_eq_some_iff.2 ⟨_, h4, ?_⟩
    refine Option.bind_eq_some_iff.2 ⟨_, h5, ?_⟩
    refine Option.bind_eq_some_iff.2 ⟨_, h6, ?_⟩
    refine Option.bind_eq_some_iff.2 ⟨_, h7, ?_⟩
    refine Option.bind_eq_some_iff.2 ⟨_, h8, ?_⟩
    refine Option.bind_eq_some_iff.2 ⟨_, h9, ?_⟩
    refine Option.bind_eq_some_iff.2 ⟨_, h10, ?_⟩
    refine Option.bind_eq_some_iff.2 ⟨_, h11, ?_⟩
    refine Option.bind_eq_some_iff.2 ⟨_, h12, ?_⟩
    refine Option.bind_eq_some_iff.2 ⟨_, h13, ?_⟩
    refine Option.bind_eq_some_iff.2 ⟨_, h14, ?_⟩
    refine Option.bind_eq_some_iff.2 ⟨_, h15, ?_⟩
    rfl

/-- A config map is read field by field. -/
theorem ConfigMap.ofJson?_eq_some {c : ConfigMap} :
    ofJson? json = some c ↔ ∃ record metadata, Record.ofObject? json = some record ∧
      record.fixed "apiVersion" "v1" = some () ∧ record.fixed "kind" "ConfigMap" = some () ∧
      record.nullable "metadata" Metadata.ofJson? = some metadata ∧
      metadata.getD {} = c.metadata ∧
      record.nullable "data" (Source.dict? Source.text?) = some c.data ∧
      record.nullable "binaryData" (Source.dict? Source.bytes?) = some c.binaryData ∧
      record.nullable "immutable" Source.truth? = some c.immutable := by
  simp only [ofJson?, Option.bind_eq_bind, Option.bind_eq_some_iff, Option.pure_def,
    Option.some.injEq]
  constructor
  · rintro ⟨record, hrecord, _, hversion, _, hkind, metadata, hmetadata, _, hdata, _, hbinary, _,
      himmutable, rfl⟩
    exact ⟨record, metadata, hrecord, hversion, hkind, hmetadata, rfl, hdata, hbinary, himmutable⟩
  · rintro ⟨record, metadata, hrecord, hversion, hkind, hmetadata, heq, hdata, hbinary, himmutable⟩
    refine ⟨record, hrecord, _, hversion, _, hkind, metadata, hmetadata, _, hdata, _, hbinary, _,
      himmutable, ?_⟩
    rw [heq]

/-- A secret is read field by field. -/
theorem Secret.ofJson?_eq_some {s : Secret} :
    ofJson? json = some s ↔ ∃ record metadata, Record.ofObject? json = some record ∧
      record.fixed "apiVersion" "v1" = some () ∧ record.fixed "kind" "Secret" = some () ∧
      record.nullable "metadata" Metadata.ofJson? = some metadata ∧
      metadata.getD {} = s.metadata ∧
      record.nullable "data" (Source.dict? Source.bytes?) = some s.data ∧
      record.nullable "stringData" (Source.dict? Source.text?) = some s.stringData ∧
      record.nullable "immutable" Source.truth? = some s.immutable ∧
      record.nullable "type" Source.text? = some s.secretType := by
  simp only [ofJson?, Option.bind_eq_bind, Option.bind_eq_some_iff, Option.pure_def,
    Option.some.injEq]
  constructor
  · rintro ⟨record, hrecord, _, hversion, _, hkind, metadata, hmetadata, _, hdata, _, htexts, _,
      himmutable, _, htype, rfl⟩
    exact ⟨record, metadata, hrecord, hversion, hkind, hmetadata, rfl, hdata, htexts, himmutable,
      htype⟩
  · rintro ⟨record, metadata, hrecord, hversion, hkind, hmetadata, heq, hdata, htexts, himmutable,
      htype⟩
    refine ⟨record, hrecord, _, hversion, _, hkind, metadata, hmetadata, _, hdata, _, htexts, _,
      himmutable, _, htype, ?_⟩
    rw [heq]

end Kinds

/-! ## Version and kind -/

namespace TypeMeta

variable {apiVersion kind : Option String} {name : String} {value : Json}
  {fields rest : List (String × Json)}

theorem take_cons : take apiVersion kind ((name, value) :: rest) =
    if name = "apiVersion" then
      match apiVersion, value with
      | none, .str text => take (some text) kind rest
      | _, _ => (none, rest)
    else if name = "kind" then
      match kind, value with
      | none, .str text => take apiVersion (some text) rest
      | _, _ => (none, rest)
    else ((take apiVersion kind rest).1, (name, value) :: (take apiVersion kind rest).2) := rfl

/-- What is taken out are fields of the list. -/
theorem take_sublist (apiVersion kind : Option String) (fields : List (String × Json)) :
    (take apiVersion kind fields).2.Sublist fields := by
  induction fields generalizing apiVersion kind with
  | nil => exact .refl _
  | cons head rest ih =>
    rw [take_cons]
    split
    · split
      · exact (ih _ _).cons _
      · exact List.sublist_cons_self ..
    · split
      · split
        · exact (ih _ _).cons _
        · exact List.sublist_cons_self ..
      · exact (ih _ _).cons_cons _

/-- A field that says nothing of the type stays as it is. -/
theorem find?_take (hversion : name ≠ "apiVersion") (hkind : name ≠ "kind") :
    Assoc.find? name (take apiVersion kind fields).2 = Assoc.find? name fields := by
  induction fields generalizing apiVersion kind with
  | nil => rfl
  | cons head rest ih =>
    rw [take_cons, Assoc.find?]
    split
    case isTrue heq =>
      rw [heq, if_neg hversion.symm]
      split
      · exact ih
      · rfl
    case isFalse =>
      split
      case isTrue heq =>
        rw [heq, if_neg hkind.symm]
        split
        · exact ih
        · rfl
      case isFalse => rw [Assoc.find?, ih]

/-- A field that says nothing of the type may as well be put in afterwards. -/
theorem take_insert (h : Assoc.Ascending fields) (hversion : name ≠ "apiVersion")
    (hkind : name ≠ "kind") :
    take apiVersion kind (Assoc.insert name value fields) =
      ((take apiVersion kind fields).1,
        Assoc.insert name value (take apiVersion kind fields).2) := by
  have hfirst (apiVersion kind : Option String) (rest : List (String × Json)) :
      take apiVersion kind ((name, value) :: rest) =
        ((take apiVersion kind rest).1, (name, value) :: (take apiVersion kind rest).2) := by
    rw [take_cons, if_neg hversion, if_neg hkind]
  induction fields generalizing apiVersion kind with
  | nil => exact hfirst ..
  | cons head rest ih =>
    obtain ⟨key, old⟩ := head
    obtain ⟨hless, hrest⟩ := List.pairwise_cons.1 h
    rw [Assoc.insert]
    split
    case isTrue hlt =>
      -- All that is left behind the new field comes after it.
      have hfront {others : List (String × Json)} (hothers : others.Sublist ((key, old) :: rest)) :
          Assoc.insert name value others = (name, value) :: others := by
        cases others with
        | nil => rfl
        | cons other others =>
          have hother : name < other.1 := by
            rcases List.mem_cons.1 (hothers.subset List.mem_cons_self) with rfl | hmem
            · exact hlt
            · exact String.lt_trans hlt (hless other hmem)
          rw [Assoc.insert, if_pos hother]
      rw [hfirst, hfront (take_sublist _ _ _)]
    case isFalse hlt =>
      split
      case isTrue heq =>
        subst heq
        rw [hfirst, take_cons, if_neg hversion, if_neg hkind, Assoc.insert, if_neg hlt, if_pos rfl]
      case isFalse hne =>
        rw [take_cons, take_cons]
        split
        · split
          · exact ih hrest
          · rfl
        · split
          · split
            · exact ih hrest
            · rfl
          · rw [ih hrest]
            simp [Assoc.insert, hlt, hne]

end TypeMeta

/-! ## Objects -/

/-- What is kept of the fields of an open record. -/
theorem Record.of_ofOpenObject? {σ : Type} [Json.Source σ] {names : List String} {source : σ}
    {record : Record σ} {others : List (String × Json)}
    (h : Record.ofOpenObject? names source = some (record, others)) :
    Record.ofObject? source = some record ∧
      (record.fields.filter (·.1 ∉ names)).mapM
        (fun field => (Json.Source.value? field.2).map (field.1, ·)) = some others := by
  obtain ⟨_, hrecord, h⟩ := Option.bind_eq_some_iff.1 h
  obtain ⟨_, hothers, ⟨⟩⟩ := Option.bind_eq_some_iff.1 h
  exact ⟨(Option.filter_eq_some_iff.1 hrecord).1, hothers⟩

namespace Resource

/-- An object is read as its metadata, its type if it says so, and all other fields. -/
theorem ofJson?_eq_some {σ : Type} [Json.Source σ] {json : σ} {r : Resource} :
    ofJson? json = some r ↔ ∃ record others,
      Record.ofOpenObject? ["metadata"] json = some (record, others) ∧
      record.withDefault "metadata" {} Metadata.ofJson? = some r.metadata ∧
      r.types = (TypeMeta.take none none others).1 ∧
      r.fields = Dict.ofList (TypeMeta.take none none others).2 := by
  simp only [ofJson?, Option.bind_eq_bind, Option.bind_eq_some_iff, Option.pure_def,
    Option.some.injEq, Prod.exists]
  constructor
  · rintro ⟨record, others, hrecord, metadata, hmetadata, rfl⟩
    exact ⟨record, others, hrecord, hmetadata, rfl, rfl⟩
  · rintro ⟨record, others, hrecord, hmetadata, htypes, hfields⟩
    exact ⟨record, others, hrecord, _, hmetadata, by rw [← htypes, ← hfields]⟩

variable {dict : Dict Json} {name : String} {value : Json} {r : Resource}

/-- How an object is read whose fields are those of a dictionary. -/
theorem ofJson?_ofDict (dict : Dict Json) :
    ofJson? (Json.ofDict dict) =
      (match dict.find? "metadata" with
        | none => some ({} : Metadata)
        | some metadata => Metadata.ofJson? metadata).map fun metadata =>
          { types := (TypeMeta.take none none (dict.erase "metadata").entries).1, metadata
            fields := .ofList (TypeMeta.take none none (dict.erase "metadata").entries).2 } := by
  have hothers : dict.entries.filter (fun field => field.1 ∉ ["metadata"]) =
      (dict.erase "metadata").entries := by
    simp [Dict.erase, Assoc.erase]
  have hrecord : Record.ofOpenObject? ["metadata"] (Json.ofDict dict) =
      some (⟨dict.entries⟩, (dict.erase "metadata").entries) := by
    have hobject : Record.ofObject? (Json.ofDict dict) = some ⟨dict.entries⟩ := rfl
    rw [Record.ofOpenObject?, hobject, Option.filter, if_pos (Record.isUnique_entries ..)]
    simp only [Option.bind_eq_bind, Option.bind_some, Json.Source.value?, Option.map_some,
      Option.pure_def, hothers]
    have hvalues : (dict.erase "metadata").entries.mapM (fun field => some (field.1, field.2)) =
        some (dict.erase "metadata").entries := by
      simpa using List.mapM_pure (m := Option) (l := (dict.erase "metadata").entries) (f := id)
    rw [hvalues, Option.bind_some]
  rw [ofJson?, hrecord]
  simp only [Option.bind_eq_bind, Option.bind_some, Option.pure_def, Record.withDefault_entries]
  exact Option.map_eq_bind.symm

/-- A field that says nothing of the type is read as it is. -/
theorem find?_of_ofJson? (hread : ofJson? (Json.ofDict dict) = some r)
    (hmetadata : name ≠ "metadata") (hversion : name ≠ "apiVersion") (hkind : name ≠ "kind") :
    r.fields.find? name = dict.find? name := by
  rw [ofJson?_ofDict, Option.map_eq_some_iff] at hread
  obtain ⟨metadata, -, rfl⟩ := hread
  have hrest := (dict.erase "metadata").ascending.sublist
    (TypeMeta.take_sublist none none _)
  rw [Dict.find?_ofList hrest, TypeMeta.find?_take hversion hkind]
  exact (dict.find?_erase ..).trans (if_neg hmetadata.symm)

/-- One more field, or another value of one, changes nothing else. -/
theorem ofJson?_insert (hread : ofJson? (Json.ofDict dict) = some r) (hmetadata : name ≠ "metadata")
    (hversion : name ≠ "apiVersion") (hkind : name ≠ "kind") :
    ofJson? (Json.ofDict (dict.insert name value)) = some (r.withField name value) := by
  have herase : ((dict.insert name value).erase "metadata").entries =
      Assoc.insert name value (dict.erase "metadata").entries := by
    refine congrArg Dict.entries (Dict.ext_find? (y := (dict.erase "metadata").insert name value)
      fun key => ?_)
    simp only [Dict.find?_erase, Dict.find?_insert]
    grind
  rw [ofJson?_ofDict, Option.map_eq_some_iff] at hread
  obtain ⟨metadata, hread, rfl⟩ := hread
  rw [ofJson?_ofDict, Dict.find?_insert, if_neg hmetadata, hread, herase,
    TypeMeta.take_insert (dict.erase _).ascending hversion hkind, Option.map_some]
  have hrest := (dict.erase "metadata").ascending.sublist
    (TypeMeta.take_sublist none none _)
  rw [withField, Dict.ofList_eq hrest, Dict.ofList_eq (Assoc.Ascending.insert hrest name value)]
  rfl

end Resource

end NamespaceBackup
