import Mathlib.Data.List.Forall2
import NamespaceBackup.Proofs.Reading
import NamespaceBackup.Proofs.Timestamps
import NamespaceBackup.Request.Codec

/-!
# What is written is read again

A writer is right for a reader if whatever was read is read again from what is written of it. This
is shown of scalars, lists and dictionaries, then of fields, and so of records. Requests have no
value that could not have been read, so they are read again whatever they are.

## Main definitions

* `Rereads`: whatever was read is read again from what is written of it

## Main results

* `Base64.decode_encode`, `Timestamp.rereads`: the same of bytes and points in time
* `Rereads.list`, `Rereads.dict`, `Rereads.nullable_of_nullable`: of lists, dictionaries and fields
* `Metadata.rereads`, `ConfigMap.rereads`, `Secret.rereads`: of what objects carry
* `Request.Spec.ofJson?_toJson`, `Request.Status.ofJson?_toJson`: of the two parts of a request
-/

namespace NamespaceBackup

/-! ## Bytes -/

namespace Base64

variable {n : Nat}

theorem value?_digit : ∀ n < 64, value? (digit n) = some n := by decide

theorem digit_ne_padding (h : n < 64) : digit n ≠ '=' := by
  intro heq
  have hvalue := value?_digit n h
  rw [heq] at hvalue
  cases hvalue

theorem decodeDigits_encodeBytes {bytes : List Nat} (h : ∀ byte ∈ bytes, byte < 256) :
    decodeDigits (encodeBytes bytes) = some bytes := by
  induction bytes using encodeBytes.induct with
  | case1 => rfl
  | case2 a =>
    have ha : a < 256 := h a (by simp)
    rw [encodeBytes, decodeDigits, value?_digit _ (by omega), value?_digit _ (by omega)]
    simp
    omega
  | case3 a b =>
    have ha : a < 256 := h a (by simp)
    have hb : b < 256 := h b (by simp)
    have hlast := digit_ne_padding (n := b % 16 * 4) (by omega)
    rw [encodeBytes, decodeDigits, value?_digit _ (by omega), value?_digit _ (by omega),
      value?_digit _ (by omega)]
    · simp
      omega
    · exact hlast
  | case4 a b c rest ih =>
    have ha : a < 256 := h a (by simp)
    have hb : b < 256 := h b (by simp)
    have hc : c < 256 := h c (by simp)
    have hlast := digit_ne_padding (n := c % 64) (by omega)
    rw [encodeBytes, decodeDigits, value?_digit _ (by omega), value?_digit _ (by omega),
      value?_digit _ (by omega), value?_digit _ (by omega),
      ih fun byte hbyte => h byte (by simp [hbyte])]
    · simp
      omega
    -- The last digit is no padding, so this is not the end.
    · intro _ heq
      exact absurd heq hlast
    · intro heq
      exact absurd heq hlast

/-- Bytes are read again from the text they are written as. -/
theorem decode_encode (bytes : List UInt8) : decode (encode bytes) = some bytes := by
  have hdigits : decodeDigits (encodeBytes (bytes.map UInt8.toNat)) =
      some (bytes.map UInt8.toNat) := by
    refine decodeDigits_encodeBytes fun byte hbyte => ?_
    obtain ⟨byte, -, rfl⟩ := List.mem_map.1 hbyte
    exact byte.toNat_lt
  rw [decode, encode, String.toList_ofList, hdigits]
  simp [Function.comp_def]

end Base64

/-! ## Lists and dictionaries -/

section Containers

variable {σ α : Type} {read : σ → Option α}

theorem mapM_eq_some_iff {items : List σ} {xs : List α} :
    items.mapM read = some xs ↔ List.Forall₂ (fun item x => read item = some x) items xs := by
  induction items generalizing xs with
  | nil => simp [eq_comm]
  | cons item items ih =>
    simp only [List.mapM_cons, Option.bind_eq_bind, Option.bind_eq_some_iff, Option.pure_def,
      Option.some.injEq, List.forall₂_cons_left_iff, ih]
    grind

theorem exists_of_forall₂ {R : σ → α → Prop} {items : List σ} {xs : List α} {x : α}
    (h : List.Forall₂ R items xs) (hx : x ∈ xs) : ∃ item ∈ items, R item x := by
  induction h with
  | nil => cases hx
  | @cons item y items xs hy hxs ih =>
    rcases List.mem_cons.1 hx with rfl | hx
    · exact ⟨item, List.mem_cons_self, hy⟩
    · obtain ⟨item, hitem, hread⟩ := ih hx
      exact ⟨item, List.mem_cons_of_mem _ hitem, hread⟩

/-- What was read of a list of fields, field by field. -/
theorem values_of_mapM {fields : List (String × σ)} {pairs : List (String × α)}
    (h : fields.mapM (fun field => (read field.2).map (field.1, ·)) = some pairs) (name : String) :
    ((⟨fields⟩ : Record σ).values name).map read =
      ((⟨pairs⟩ : Record α).values name).map some := by
  induction mapM_eq_some_iff.1 h with
  | nil => rfl
  | @cons field pair fields pairs hpair hpairs ih =>
    obtain ⟨x, hx, rfl⟩ := Option.map_eq_some_iff.1 hpair
    have ih := ih (mapM_eq_some_iff.2 hpairs)
    unfold Record.values at ih ⊢
    by_cases hname : field.1 = name
    · simpa [hname, hx] using ih
    · simpa [hname] using ih

/-- Of several fields with one name the last counts, before they are read and after. -/
theorem find?_of_mapM {fields : List (String × σ)} {pairs : List (String × α)}
    (h : fields.mapM (fun field => (read field.2).map (field.1, ·)) = some pairs) (name : String) :
    ((⟨fields⟩ : Record σ).last? name).map read = ((Dict.ofList pairs).find? name).map some := by
  have hvalues := congrArg List.getLast? (values_of_mapM h name)
  rw [List.getLast?_map, List.getLast?_map] at hvalues
  rw [Record.last?, hvalues, Dict.find?_ofList_eq_getLast?]
  rfl

/-- A list is read item by item. -/
theorem Source.list?_arr {reread : Json → Option α} {items : List Json} :
    Source.list? reread (.arr items) = items.mapM reread := rfl

variable [Json.Source σ] {source : σ}

/-- A dictionary is read name by name. -/
theorem Source.find?_of_dict? {dict : Dict α} (h : Source.dict? read source = some dict)
    (name : String) :
    ((Record.ofObject? source).bind (·.last? name)).map read = (dict.find? name).map some := by
  obtain ⟨fields, hfields, hread⟩ := Option.bind_eq_some_iff.1 h
  obtain ⟨pairs, hpairs, rfl⟩ := Option.map_eq_some_iff.1 hread
  rw [Record.ofObject?, hfields, Option.map_some, Option.bind_some]
  exact find?_of_mapM hpairs name

end Containers

/-- Whatever was read is read again from what is written of it. That is never `null`, which a field
must not be that is there. -/
structure Rereads {σ α : Type} (read : σ → Option α) (reread : Json → Option α)
    (write : α → Json) : Prop where
  reread : ∀ {source x}, read source = some x → reread (write x) = some x
  ne_null : ∀ x, write x ≠ .null

section Containers

variable {σ α : Type} {read : σ → Option α} {reread : Json → Option α} {write : α → Json}

theorem list?_written {xs : List α} (h : ∀ x ∈ xs, reread (write x) = some x) :
    Source.list? reread (.arr (xs.map write)) = some xs := by
  rw [Source.list?_arr, mapM_eq_some_iff, List.forall₂_map_left_iff, List.forall₂_same]
  exact h

theorem dict?_written {dict : Dict α}
    (h : ∀ name x, dict.find? name = some x → reread (write x) = some x) :
    Source.dict? reread (.ofDict (dict.map write)) = some dict := by
  have hentries : (dict.map write).entries.mapM
      (fun field => (reread field.2).map (field.1, ·)) = some dict.entries := by
    rw [mapM_eq_some_iff, Dict.map, List.forall₂_map_left_iff, List.forall₂_same]
    intro field hfield
    rw [h field.1 field.2 (Dict.mem_entries_iff.1 hfield), Option.map_some]
  refine Option.bind_eq_some_iff.2 ⟨(dict.map write).entries, rfl, ?_⟩
  rw [hentries, Option.map_some, Dict.ofList_eq dict.ascending]

variable [Json.Source σ]

protected theorem Rereads.list (h : Rereads read reread write) :
    Rereads (σ := σ) (Source.list? read) (Source.list? reread) fun xs => .arr (xs.map write) where
  reread hread := by
    obtain ⟨items, -, hitems⟩ := Option.bind_eq_some_iff.1 hread
    refine list?_written fun x hx => ?_
    obtain ⟨item, -, hitem⟩ := exists_of_forall₂ (mapM_eq_some_iff.1 hitems) hx
    exact h.reread hitem
  ne_null _ := nofun

protected theorem Rereads.dict (h : Rereads read reread write) :
    Rereads (σ := σ) (Source.dict? read) (Source.dict? reread)
      fun dict => .ofDict (dict.map write) where
  reread {source dict} hread := by
    refine dict?_written fun name x hx => ?_
    have hname := Source.find?_of_dict? hread name
    rw [hx] at hname
    obtain ⟨value, -, hvalue⟩ := Option.map_eq_some_iff.1 hname
    exact h.reread hvalue
  ne_null _ := nofun

end Containers

/-! ## Scalars -/

section Scalars

variable {σ : Type} [Json.Source σ]

theorem rereads_text : Rereads (σ := σ) Source.text? Source.text? .str where
  reread _ := rfl
  ne_null _ := nofun

theorem rereads_truth : Rereads (σ := σ) Source.truth? Source.truth? .bool where
  reread _ := rfl
  ne_null _ := nofun

theorem rereads_signed (bits : Nat) :
    Rereads (σ := σ) (Source.signed? bits) (Source.signed? bits) .int where
  reread hread := by
    unfold Source.signed? at hread ⊢
    exact Option.filter_eq_some_iff.2 ⟨rfl, (Option.filter_eq_some_iff.1 hread).2⟩
  ne_null _ := nofun

theorem rereads_bytes :
    Rereads (σ := σ) Source.bytes? Source.bytes? fun bytes => .str (Base64.encode bytes) where
  reread {_ bytes} _ := by
    have htext : Source.text? (Json.str (Base64.encode bytes)) = some (Base64.encode bytes) := rfl
    rw [Source.bytes?, htext, Option.bind_some, Base64.decode_encode]
    simp [Source.isNull, Json.Source.value?]
  ne_null _ := by simp

theorem Timestamp.rereads :
    Rereads (σ := σ) Timestamp.ofJson? Timestamp.ofJson? Timestamp.toJson where
  reread {_ t} hread := by
    obtain ⟨text, -, hparse⟩ := Option.bind_eq_some_iff.1 hread
    have htext : Source.text? t.toJson = some t.text := rfl
    rw [ofJson?, htext, Option.bind_some, parse_text (isWritable_of_parse hparse)]
  ne_null _ := nofun

end Scalars

/-! ## Fields -/

section Fields

variable {σ α : Type} [Json.Source σ] {read : σ → Option α} {reread : Json → Option α}
  {write : α → Json} {record : Record σ} {dict : Dict Json} {name : String}

/-- Whether a field is left out or written as `null`, it is read as absent. -/
theorem nullable_written {value : Option α}
    (hwritten : Json.orNull (dict.find? name) = Json.orNull (value.map write))
    (h : ∀ x, value = some x → reread (write x) = some x ∧ write x ≠ .null) :
    (⟨dict.entries⟩ : Record Json).nullable name reread = some value := by
  rw [Record.nullable_entries]
  cases value with
  | none =>
    cases hfind : dict.find? name with
    | none => rfl
    | some json =>
      -- What is there is `null`.
      rw [hfind] at hwritten
      exact if_pos hwritten
  | some x =>
    obtain ⟨hreread, hnull⟩ := h x rfl
    cases hfind : dict.find? name with
    | none =>
      rw [hfind] at hwritten
      exact absurd hwritten.symm hnull
    | some json =>
      rw [hfind] at hwritten
      have hjson : json = write x := hwritten
      rw [hjson]
      dsimp only
      rw [if_neg hnull, hreread, Option.map_some]

theorem nullable_text {value : Option String}
    (hwritten : Json.orNull (dict.find? name) = Json.orNull (value.map .str)) :
    (⟨dict.entries⟩ : Record Json).nullable name Source.text? = some value :=
  nullable_written hwritten fun _ _ => ⟨rfl, nofun⟩

theorem nullable_truth {value : Option Bool}
    (hwritten : Json.orNull (dict.find? name) = Json.orNull (value.map .bool)) :
    (⟨dict.entries⟩ : Record Json).nullable name Source.truth? = some value :=
  nullable_written hwritten fun _ _ => ⟨rfl, nofun⟩

theorem fixed_written {text : String} (hwritten : dict.find? name = some (.str text)) :
    (⟨dict.entries⟩ : Record Json).fixed name text = some () := by
  rw [Record.fixed_entries, hwritten]
  exact if_pos rfl

theorem withDefault_written {default value : α} {json : Json} (h : reread json = some value)
    (hwritten : dict.find? name = some json) :
    (⟨dict.entries⟩ : Record Json).withDefault name default reread = some value := by
  rw [Record.withDefault_entries, hwritten]
  exact h

theorem required_written {value : α} {json : Json} (h : reread json = some value)
    (hwritten : dict.find? name = some json) :
    (⟨dict.entries⟩ : Record Json).required name reread = some value := by
  rw [Record.required_entries, hwritten, Option.bind_some, h]

/-- What is read of a field that may be absent or `null` was read of something else. -/
theorem exists_of_nullable_some {x : α} (h : record.nullable name read = some (some x)) :
    ∃ source, Source.isNull source = false ∧ read source = some x := by
  have hvalue := Record.eq_of_withDefault h
  split at hvalue
  case h_1 => cases hvalue
  case h_2 source hlast =>
    split at hvalue
    case isTrue => cases hvalue
    case isFalse hnull =>
      obtain ⟨_, hread, ⟨⟩⟩ := Option.map_eq_some_iff.1 hvalue
      exact ⟨source, Bool.eq_false_iff.2 hnull, hread⟩

theorem Rereads.nullable_of_nullable {value : Option α} (h : Rereads read reread write)
    (hread : record.nullable name read = some value)
    (hwritten : dict.find? name = value.map write) :
    (⟨dict.entries⟩ : Record Json).nullable name reread = some value := by
  refine nullable_written (congrArg Json.orNull hwritten) fun x hx => ⟨?_, h.ne_null x⟩
  rw [hx] at hread
  obtain ⟨source, -, hsource⟩ := exists_of_nullable_some hread
  exact h.reread hsource

end Fields

/-! ## Metadata, config maps and secrets -/

section Kinds

variable {σ : Type} [Json.Source σ]

/-- A reference is read field by field. -/
theorem OwnerReference.ofJson?_eq_some {json : σ} {r : OwnerReference} :
    ofJson? json = some r ↔ ∃ record, Record.ofObject? json = some record ∧
      (record.nullable "apiVersion" Source.text?).map (·.getD "") = some r.apiVersion ∧
      record.nullable "blockOwnerDeletion" Source.truth? = some r.blockOwnerDeletion ∧
      record.nullable "controller" Source.truth? = some r.controller ∧
      (record.nullable "kind" Source.text?).map (·.getD "") = some r.kind ∧
      (record.nullable "name" Source.text?).map (·.getD "") = some r.name ∧
      (record.nullable "uid" Source.text?).map (·.getD "") = some r.uid := by
  simp only [ofJson?, Option.bind_eq_bind, Option.bind_eq_some_iff, Option.pure_def,
    Option.some.injEq]
  constructor
  · rintro ⟨record, hrecord, _, h1, _, h2, _, h3, _, h4, _, h5, _, h6, rfl⟩
    exact ⟨record, hrecord, h1, h2, h3, h4, h5, h6⟩
  · rintro ⟨record, hrecord, h1, h2, h3, h4, h5, h6⟩
    exact ⟨record, hrecord, _, h1, _, h2, _, h3, _, h4, _, h5, _, h6, rfl⟩

theorem OwnerReference.rereads :
    Rereads (σ := σ) OwnerReference.ofJson? OwnerReference.ofJson? OwnerReference.toJson where
  reread {_ r} _ := by
    have htext {dict : Dict Json} {name text : String} (h : dict.find? name = some (.str text)) :
        ((⟨dict.entries⟩ : Record Json).nullable name Source.text?).map (·.getD "") = some text :=
      Option.map_eq_some_iff.2 ⟨some text, nullable_text (congrArg Json.orNull h), rfl⟩
    refine ofJson?_eq_some.2 ⟨_, rfl, htext ?_, nullable_truth (congrArg Json.orNull ?_),
      nullable_truth (congrArg Json.orNull ?_), htext ?_, htext ?_, htext ?_⟩
    all_goals simp [Dict.find?_ofList_append, Dict.find?_ofList_cons]
  ne_null _ := nofun

/-- An entry is read field by field. -/
theorem FieldOwnership.ofJson?_eq_some {json : σ} {f : FieldOwnership} :
    ofJson? json = some f ↔ ∃ record, Record.ofObject? json = some record ∧
      record.nullable "apiVersion" Source.text? = some f.apiVersion ∧
      record.nullable "fieldsType" Source.text? = some f.fieldsType ∧
      record.nullable "fieldsV1" Json.Source.value? = some f.fieldsV1 ∧
      record.nullable "manager" Source.text? = some f.manager ∧
      record.nullable "operation" Source.text? = some f.operation ∧
      record.nullable "subresource" Source.text? = some f.subresource ∧
      record.nullable "time" Timestamp.ofJson? = some f.time := by
  simp only [ofJson?, Option.bind_eq_bind, Option.bind_eq_some_iff, Option.pure_def,
    Option.some.injEq]
  constructor
  · rintro ⟨record, hrecord, _, h1, _, h2, _, h3, _, h4, _, h5, _, h6, _, h7, rfl⟩
    exact ⟨record, hrecord, h1, h2, h3, h4, h5, h6, h7⟩
  · rintro ⟨record, hrecord, h1, h2, h3, h4, h5, h6, h7⟩
    exact ⟨record, hrecord, _, h1, _, h2, _, h3, _, h4, _, h5, _, h6, _, h7, rfl⟩

theorem FieldOwnership.rereads :
    Rereads (σ := σ) FieldOwnership.ofJson? FieldOwnership.ofJson? FieldOwnership.toJson where
  reread {source f} hread := by
    obtain ⟨record, -, h1, h2, h3, h4, h5, h6, h7⟩ := ofJson?_eq_some.1 hread
    -- Any value is read as itself, but one that is `null` was not read.
    have hfields (value : Json) (hvalue : f.fieldsV1 = some value) :
        Json.Source.value? value = some value ∧ value ≠ .null := by
      rw [hvalue] at h3
      obtain ⟨source, hnull, hsource⟩ := exists_of_nullable_some h3
      refine ⟨rfl, fun heq => ?_⟩
      rw [heq] at hsource
      simp [Source.isNull, hsource] at hnull
    refine ofJson?_eq_some.2 ⟨_, rfl, rereads_text.nullable_of_nullable h1 ?_,
      rereads_text.nullable_of_nullable h2 ?_, nullable_written (congrArg Json.orNull ?_) hfields,
      rereads_text.nullable_of_nullable h4 ?_, rereads_text.nullable_of_nullable h5 ?_,
      rereads_text.nullable_of_nullable h6 ?_, Timestamp.rereads.nullable_of_nullable h7 ?_⟩
    all_goals simp [Dict.find?_ofList_append]
  ne_null _ := nofun

theorem Metadata.rereads : Rereads (σ := σ) Metadata.ofJson? Metadata.ofJson? Metadata.toJson where
  reread {source m} hread := by
    obtain ⟨record, -, h1, h2, h3, h4, h5, h6, h7, h8, h9, h10, h11, h12, h13, h14, h15⟩ :=
      ofJson?_eq_some.1 hread
    refine ofJson?_eq_some.2 ⟨_, rfl, rereads_text.dict.nullable_of_nullable h1 ?_,
      Timestamp.rereads.nullable_of_nullable h2 ?_,
      (rereads_signed 64).nullable_of_nullable h3 ?_,
      Timestamp.rereads.nullable_of_nullable h4 ?_, rereads_text.list.nullable_of_nullable h5 ?_,
      rereads_text.nullable_of_nullable h6 ?_, (rereads_signed 64).nullable_of_nullable h7 ?_,
      rereads_text.dict.nullable_of_nullable h8 ?_,
      FieldOwnership.rereads.list.nullable_of_nullable h9 ?_,
      rereads_text.nullable_of_nullable h10 ?_, rereads_text.nullable_of_nullable h11 ?_,
      OwnerReference.rereads.list.nullable_of_nullable h12 ?_,
      rereads_text.nullable_of_nullable h13 ?_, rereads_text.nullable_of_nullable h14 ?_,
      rereads_text.nullable_of_nullable h15 ?_⟩
    all_goals simp [Dict.find?_ofList_append]
    all_goals rfl
  ne_null _ := nofun

/-- Metadata that is absent has no fields, and is written and read again as such. -/
theorem Metadata.ofJson?_toJson_default : Metadata.ofJson? (Metadata.toJson {}) = some {} := by
  have hread : Metadata.ofJson? (Json.obj []) = some {} := rfl
  exact Metadata.rereads.reread hread

theorem Metadata.ofJson?_toJson_getD {record : Record σ} {metadata : Option Metadata}
    (h : record.nullable "metadata" Metadata.ofJson? = some metadata) :
    Metadata.ofJson? (metadata.getD {}).toJson = some (metadata.getD {}) := by
  cases metadata with
  | none => exact ofJson?_toJson_default
  | some m =>
    obtain ⟨source, -, hsource⟩ := exists_of_nullable_some h
    exact rereads.reread hsource

theorem Metadata.nullable_written {m : Metadata} {dict : Dict Json} {name : String}
    (h : Metadata.ofJson? m.toJson = some m) (hwritten : dict.find? name = some m.toJson) :
    (⟨dict.entries⟩ : Record Json).nullable name Metadata.ofJson? = some (some m) :=
  NamespaceBackup.nullable_written (congrArg Json.orNull hwritten) fun _ heq =>
    ⟨Option.some.inj heq ▸ h, nofun⟩

theorem ConfigMap.rereads :
    Rereads (σ := σ) ConfigMap.ofJson? ConfigMap.ofJson? ConfigMap.toJson where
  reread {source c} hread := by
    obtain ⟨record, metadata, -, -, -, hmetadata, heq, hdata, hbinary, himmutable⟩ :=
      ofJson?_eq_some.1 hread
    have hreread := Metadata.ofJson?_toJson_getD hmetadata
    rw [heq] at hreread
    refine ofJson?_eq_some.2 ⟨_, some c.metadata, rfl, fixed_written ?_, fixed_written ?_,
      Metadata.nullable_written hreread ?_, rfl,
      rereads_text.dict.nullable_of_nullable hdata ?_,
      rereads_bytes.dict.nullable_of_nullable hbinary ?_,
      rereads_truth.nullable_of_nullable himmutable ?_⟩
    all_goals simp [Dict.find?_ofList_append, Dict.find?_ofList_cons]
    all_goals rfl
  ne_null _ := nofun

theorem Secret.rereads : Rereads (σ := σ) Secret.ofJson? Secret.ofJson? Secret.toJson where
  reread {source s} hread := by
    obtain ⟨record, metadata, -, -, -, hmetadata, heq, hdata, htexts, himmutable, htype⟩ :=
      ofJson?_eq_some.1 hread
    have hreread := Metadata.ofJson?_toJson_getD hmetadata
    rw [heq] at hreread
    refine ofJson?_eq_some.2 ⟨_, some s.metadata, rfl, fixed_written ?_, fixed_written ?_,
      Metadata.nullable_written hreread ?_, rfl,
      rereads_bytes.dict.nullable_of_nullable hdata ?_,
      rereads_text.dict.nullable_of_nullable htexts ?_,
      rereads_truth.nullable_of_nullable himmutable ?_,
      rereads_text.nullable_of_nullable htype ?_⟩
    all_goals simp [Dict.find?_ofList_append, Dict.find?_ofList_cons]
    all_goals rfl
  ne_null _ := nofun

end Kinds

/-! ## Requests -/

/-- What is written as an object has no field twice. -/
theorem Record.ofObjectOrArray?_object (names : List String) (least : Nat)
    (fields : List (String × Json)) :
    ofObjectOrArray? names least (Json.object fields) = some ⟨(Dict.ofList fields).entries⟩ := by
  have hobject : ofObject? (Json.object fields) = some ⟨(Dict.ofList fields).entries⟩ := rfl
  have hitems : Json.Source.items? (Json.object fields) = none := rfl
  rw [ofObjectOrArray?, hitems, hobject]
  exact if_pos (isUnique_entries ..)

/-- The name of a member of an enumeration is a text that is read as that member. -/
theorem Source.choice?_str {α : Type} (ofName? : String → Option α) (name : String) :
    Source.choice? ofName? (Json.str name) = ofName? name := rfl

theorem Condition.ofJson?_toJson (c : Condition) : Condition.ofJson? c.toJson = some c := by
  have htext (text : String) : Source.text? (Json.str text) = some text := rfl
  simp only [ofJson?, toJson, Record.ofObjectOrArray?_object, Option.bind_eq_bind,
    Option.bind_some, Option.bind_eq_some_iff, Option.pure_def, Option.some.injEq]
  refine ⟨_, required_written (htext c.typeName) ?_, _, required_written (htext c.status) ?_,
    c.reason, nullable_text ?_, c.message, nullable_text ?_, c.lastHeartbeatTime, nullable_text ?_,
    c.lastTransitionTime, nullable_text ?_, rfl⟩
  all_goals simp [Dict.find?_ofList_cons, Json.orNull]

namespace Request

/-- What is asked for is read again from what is written of it. -/
theorem Spec.ofJson?_toJson (spec : Spec) : Spec.ofJson? spec.toJson = some spec := by
  have hmode : Source.choice? Mode.ofName? (Json.str spec.mode.name) = some spec.mode := by
    rw [Source.choice?_str, Mode.ofName?_name]
  have htruth : Source.truth? (Json.bool spec.includeImages) = some spec.includeImages := rfl
  simp only [ofJson?, toJson, Record.ofObjectOrArray?_object, Option.bind_eq_bind,
    Option.bind_some, Option.bind_eq_some_iff, Option.pure_def, Option.some.injEq]
  refine ⟨_, withDefault_written hmode ?_, _, withDefault_written htruth ?_, spec.restoreSource,
    nullable_text ?_, rfl⟩
  all_goals simp [Dict.find?_ofList_cons, Json.orNull]

/-- A status is read again from what is written of it. -/
theorem Status.ofJson?_toJson (status : Status) : Status.ofJson? status.toJson = some status := by
  have hstate : Source.choice? State.ofName? (Json.str status.state.name) = some status.state := by
    rw [Source.choice?_str, State.ofName?_name]
  have hnames : Source.dict? Source.text? (Json.ofTexts status.snapshotNames) =
      some status.snapshotNames := dict?_written fun _ _ _ => rfl
  have hconditions : Source.list? Condition.ofJson?
      (Json.arr (status.conditions.map (·.toJson))) = some status.conditions :=
    list?_written fun c _ => c.ofJson?_toJson
  simp only [ofJson?, toJson, Record.ofObjectOrArray?_object, Option.bind_eq_bind,
    Option.bind_some, Option.bind_eq_some_iff, Option.pure_def, Option.some.injEq]
  refine ⟨_, withDefault_written hstate ?_, _, withDefault_written hnames ?_,
    status.completionTimestamp, nullable_text ?_, _, withDefault_written hconditions ?_, rfl⟩
  all_goals simp [Dict.find?_ofList_cons, Json.orNull]

end Request

end NamespaceBackup
