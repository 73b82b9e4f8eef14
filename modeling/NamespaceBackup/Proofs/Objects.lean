import NamespaceBackup.Object.Resource

/-!
# Fields of objects

What is read from an object that was built or changed field by field.

## Main results

* `Json.at?_cons`, `Resource.at?_cons`: reading along a path, field by field
* `Dict.ofList_eq`: the dictionary of pairs that are in order already
* `Json.mergedField_none_object`: a patch to nothing that has no field to remove
* `Json.field?_merge`: a field of a value after a merge patch
* `Resource.find?_patched`: a field of an object after a merge patch
-/

namespace NamespaceBackup

namespace Dict

variable {α β : Type}

theorem find?_foldl_insert {pairs : List (String × α)} (h : Assoc.Ascending pairs) (dict : Dict α)
    (name : String) :
    (pairs.foldl (fun dict pair => dict.insert pair.1 pair.2) dict).find? name =
      ((Assoc.find? name pairs) <|> dict.find? name) := by
  induction pairs generalizing dict with
  | nil => rfl
  | cons head rest ih =>
    obtain ⟨key, value⟩ := head
    obtain ⟨hkey, hrest⟩ := List.pairwise_cons.1 h
    rw [List.foldl_cons, ih hrest, find?_insert, Assoc.find?]
    -- A later pair would come first, but the names ascend.
    by_cases heq : key = name
    · subst heq
      simp [Assoc.find?_eq_none_of_lt hkey]
    · simp [heq]

/-- Pairs that are in order are the entries of their dictionary. -/
theorem ofList_eq {pairs : List (String × α)} (h : Assoc.Ascending pairs) :
    ofList pairs = ⟨pairs, h⟩ := by
  refine ext_find? fun name => ?_
  rw [ofList, find?_foldl_insert h, find?_empty, Option.orElse_eq_orElse, Option.orElse_eq_or,
    Option.or_none]
  rfl

theorem find?_ofList {pairs : List (String × α)} (h : Assoc.Ascending pairs) (name : String) :
    (ofList pairs).find? name = Assoc.find? name pairs := by
  rw [ofList_eq h]
  rfl

@[simp] theorem find?_map (f : α → β) (dict : Dict α) (name : String) :
    (dict.map f).find? name = (dict.find? name).map f := by
  ext value
  rw [← mem_entries_iff]
  simp only [map, List.mem_map, Prod.mk.injEq, Option.map_eq_some_iff, ← mem_entries_iff]
  constructor
  · rintro ⟨⟨key, old⟩, hmem, rfl, rfl⟩
    exact ⟨old, hmem, rfl⟩
  · rintro ⟨old, hmem, rfl⟩
    exact ⟨(name, old), hmem, rfl, rfl⟩

theorem mem_of_mem_foldl_insert {pairs : List (String × α)} {dict : Dict α} {pair : String × α}
    (h : pair ∈ (pairs.foldl (fun dict pair => dict.insert pair.1 pair.2) dict).entries) :
    pair ∈ pairs ∨ pair ∈ dict.entries := by
  induction pairs generalizing dict with
  | nil => exact .inr h
  | cons head rest ih =>
    rcases ih h with hrest | hinsert
    · exact .inl (List.mem_cons_of_mem _ hrest)
    · rcases Assoc.mem_insert hinsert with rfl | hdict
      · exact .inl List.mem_cons_self
      · exact .inr hdict

theorem mem_of_mem_ofList {pairs : List (String × α)} {pair : String × α}
    (h : pair ∈ (ofList pairs).entries) : pair ∈ pairs := by
  rcases mem_of_mem_foldl_insert h with hpairs | hempty
  · exact hpairs
  · exact absurd hempty List.not_mem_nil

end Dict

namespace Json

variable {name : String} {path : List String}

@[simp] theorem at?_nil (json : Json) : json.at? [] = some json := rfl

theorem at?_cons (json : Json) : json.at? (name :: path) = (json.field? name).bind (·.at? path) :=
  rfl

@[simp] theorem field?_object (fields : List (String × Json)) :
    (object fields).field? name = (Dict.ofList fields).find? name := rfl

@[simp] theorem field?_ofDict (dict : Dict Json) :
    (ofDict dict).field? name = dict.find? name := rfl

/-- What a merge patch leaves of a field, if the patch names it with a value. -/
def mergedField (old : Option Json) : Json → Option Json
  | null => none
  | value => some ((old.getD null).merge value)

theorem mergeFields_cons {target rest : List (String × Json)} {value : Json} :
    mergeFields target ((name, value) :: rest) =
      mergeFields (match mergedField (Assoc.find? name target) value with
        | none => Assoc.erase name target
        | some merged => Assoc.insert name merged target) rest := by
  cases value <;> simp [mergeFields, mergedField]

theorem ascending_mergeFields {target : List (String × Json)} (h : Assoc.Ascending target)
    (patch : List (String × Json)) : Assoc.Ascending (mergeFields target patch) := by
  induction patch generalizing target with
  | nil => exact h
  | cons head rest ih =>
    obtain ⟨name, value⟩ := head
    rw [mergeFields_cons]
    split
    · exact ih (h.erase name)
    · exact ih (h.insert name _)

/-- A patch leaves the fields that it does not name, and names each of the others once. -/
theorem find?_mergeFields {target patch : List (String × Json)} (h : Assoc.Ascending patch) :
    Assoc.find? name (mergeFields target patch) =
      match Assoc.find? name patch with
      | none => Assoc.find? name target
      | some value => mergedField (Assoc.find? name target) value := by
  induction patch generalizing target with
  | nil => rfl
  | cons head rest ih =>
    obtain ⟨key, value⟩ := head
    obtain ⟨hkey, hrest⟩ := List.pairwise_cons.1 h
    rw [mergeFields_cons, ih hrest]
    -- The patch is in order, so a name does not occur again behind its first place.
    by_cases heq : key = name
    · subst heq
      rw [Assoc.find?_eq_none_of_lt hkey, Assoc.find?, if_pos rfl]
      cases hmerged : mergedField (Assoc.find? key target) value <;> simp [hmerged]
    · rw [Assoc.find?, if_neg heq]
      cases mergedField (Assoc.find? key target) value <;> simp [heq]

/-- A patch to nothing leaves the patch itself, if that has no field to remove. -/
theorem mergedField_none_obj {patch : List (String × Json)} (h : Assoc.Ascending patch)
    (hfields : ∀ field ∈ patch, mergedField none field.2 = some field.2) :
    mergedField none (obj patch) = some (obj patch) := by
  have hfind : ∀ name, Assoc.find? name (mergeFields [] patch) = Assoc.find? name patch := by
    intro name
    rw [find?_mergeFields h]
    cases hfound : Assoc.find? name patch with
    | none => rfl
    | some value => exact hfields (name, value) (Assoc.mem_of_find?_eq_some hfound)
  rw [mergedField, merge]
  · exact congrArg (some <| obj ·) (Assoc.Ascending.ext (ascending_mergeFields .nil patch) h hfind)
  · nofun

theorem mergedField_none_object {fields : List (String × Json)}
    (h : ∀ field ∈ fields, mergedField none field.2 = some field.2) :
    mergedField none (object fields) = some (object fields) :=
  mergedField_none_obj (Dict.ofList fields).ascending fun field hfield =>
    h field (Dict.mem_of_mem_ofList hfield)

theorem mergedField_object (old : Option Json) (fields : List (String × Json)) :
    mergedField old (object fields) = some ((old.getD null).merge (object fields)) := rfl

theorem mergedField_str (old : Option Json) (text : String) :
    mergedField old (str text) = some (str text) := by
  simp [mergedField, merge]

/-- A field of a value after a merge patch. -/
theorem field?_merge (target : Json) {patch : List (String × Json)} (h : Assoc.Ascending patch) :
    (target.merge (obj patch)).field? name =
      match Assoc.find? name patch with
      | none => target.field? name
      | some value => mergedField (target.field? name) value := by
  rw [merge]
  exact find?_mergeFields h

/-- Below a field that a merge patch names, a value is what the patch makes of that field. -/
theorem at?_merge_object {fields : List (String × Json)} {value : Json}
    (h : (Dict.ofList fields).find? name = some value) (target : Json) :
    (target.merge (object fields)).at? (name :: path) =
      (mergedField (target.field? name) value).bind (·.at? path) := by
  have hnamed : Assoc.find? name (Dict.ofList fields).entries = some value := h
  rw [at?_cons, object, field?_merge target (Dict.ofList fields).ascending, hnamed]

end Json

namespace Resource

theorem at?_cons (r : Resource) (name : String) (path : List String) :
    r.at? (name :: path) = (r.fields.find? name).bind (·.at? path) := rfl

/-- A field of an object after a merge patch. -/
theorem find?_patched (r : Resource) {patch : List (String × Json)} (h : Assoc.Ascending patch)
    (name : String) : (r.patched (.obj patch)).fields.find? name =
      match Assoc.find? name patch with
      | none => r.fields.find? name
      | some value => Json.mergedField (r.fields.find? name) value := by
  have hascending : Assoc.Ascending ((Json.ofDict r.fields).merge (.obj patch)).fields := by
    rw [Json.merge]
    exact Json.ascending_mergeFields r.fields.ascending patch
  rw [patched, Dict.find?_ofList hascending]
  exact Json.field?_merge _ h

end Resource

end NamespaceBackup
