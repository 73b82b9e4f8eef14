import Mathlib.Logic.Relation
import NamespaceBackup.Proofs.Reading
import NamespaceBackup.Proofs.Remote
import NamespaceBackup.Rehearsal.Server

/-!
# Contention

An object is applied by asking for it first and then creating it or putting it in the place of what
was found. In between others may create, update or delete the object of that name. What is put in
the place of another object names the version of that object, and no two objects of one name ever
have the same version. So a write of somebody else is never lost: either nobody has written anything
since the object was asked for, or the server refuses what comes too late.

Whoever applies an object may not learn that it was applied. A reply that refuses the write says
that nothing was written, but one that is lost, or cannot be read, says nothing of the kind.

## Main definitions

* `Rest.Codec.InUse`: the codecs that objects are applied with
* `Contention.Place`: what is stored under one name
* `Contention.Elsewhere`: what other clients do
* `Contention.Unrefused`, `Contention.Serves`: which replies hide a write, and how a server answers
* `Contention.Applied`: how an object is applied

## Main results

* `Rest.Codec.InUse.version_of_read`: the version of an object is read as the object says it
* `Rest.Codec.InUse.write_versioned`: a version is all that is added to an object
* `Contention.applied_or_left`: an object is applied without any write of others being lost, or all
  is left as others left it
* `Contention.applied_or_transient`: which of the two it is, as far as the result tells
* `Contention.torn_reply_hides_write`: it does not always tell
-/

namespace NamespaceBackup

/-! ## Versions of objects -/

namespace Metadata

variable {m : Metadata} {document : Json.Document} {json : Json} {version : String}

/-- The version that is read is the one that the value says. -/
theorem resourceVersion_of_ofJson? (hread : ofJson? document = some m)
    (hvalue : document.value? = some json)
    (hversion : json.field? "resourceVersion" = some (.str version)) :
    m.resourceVersion = some version := by
  obtain ⟨record, hrecord, -, -, -, -, -, -, -, -, -, -, -, -, hread, -⟩ := ofJson?_eq_some.1 hread
  obtain ⟨source, hlast, hsource⟩ :=
    Json.Document.exists_last_of_value? hvalue hrecord hversion
  have hnull : Source.isNull source = false := by
    simp [Source.isNull, Json.Source.value?, hsource]
  obtain ⟨read, heq, hread⟩ := Record.exists_of_nullable hread hlast hnull
  have htext : Source.text? source = some version := by
    simp [Source.text?, Json.Source.value?, hsource, Json.str?]
  rw [heq, ← hread, htext]

/-- The same metadata in another version. -/
def inVersion (m : Metadata) (version : String) : Metadata :=
  { m with resourceVersion := some version }

/-- Metadata in another version is written as before, with that version added. -/
theorem toJson_inVersion : (m.inVersion version).toJson =
    m.toJson.merge (.object [("resourceVersion", .str version)]) := by
  rw [inVersion, toJson, toJson]
  refine (Json.merge_object_singleton ?_ fun name hname => ?_).symm
  · simp [Dict.find?_ofList_append, Json.mergedField, Json.merge]
  · simp [Dict.find?_ofList_append, hname.symm]

end Metadata

namespace Rest.Codec

variable {α : Type} {codec : Codec α} {existing : α} {document : Json.Document}
  {content json : Json} {version : String}

/-- The way to the version of an object. -/
def versionPath : List String := ["metadata", "resourceVersion"]

/-- What a version adds to an object. -/
def versionPatch (version : String) : Json :=
  .object [("metadata", .object [("resourceVersion", .str version)])]

/-- The codecs that objects are applied with. -/
inductive InUse : {α : Type} → Codec α → Prop
  | resource : InUse Codec.resource
  | configMap : InUse Codec.configMap
  | secret : InUse Codec.secret

/-- The version in which an object is read is the one that its content says. -/
theorem InUse.version_of_read (h : codec.InUse) (hread : codec.read document = some existing)
    (hvalue : document.value? = some content)
    (hversion : content.at? versionPath = some (.str version)) :
    (codec.metadata existing).resourceVersion = some version := by
  obtain ⟨metadata, hmetadata, hversion⟩ := Option.bind_eq_some_iff.1 hversion
  obtain ⟨_, hversion, ⟨⟩⟩ := Option.bind_eq_some_iff.1 hversion
  have hnullable {record : Record Json.Document} {m : Option Metadata}
      (hrecord : Record.ofObject? document = some record)
      (hread : record.nullable "metadata" Metadata.ofJson? = some m) :
      (m.getD {}).resourceVersion = some version := by
    obtain ⟨source, hlast, hsource⟩ := Json.Document.exists_last_of_value? hvalue hrecord hmetadata
    have hnull : Source.isNull source = false := by
      have hobject : metadata ≠ .null := by
        rintro rfl
        cases hversion
      simpa [Source.isNull, Json.Source.value?, hsource] using hobject
    obtain ⟨m, rfl, hm⟩ := Record.exists_of_nullable hread hlast hnull
    exact Metadata.resourceVersion_of_ofJson? hm hsource hversion
  cases h with
  | resource =>
    obtain ⟨record, others, hopen, hread, -⟩ := Resource.ofJson?_eq_some.1 hread
    have hrecord := (Record.of_ofOpenObject? hopen).1
    obtain ⟨source, hlast, hsource⟩ := Json.Document.exists_last_of_value? hvalue hrecord hmetadata
    have heq := Record.eq_of_withDefault hread
    rw [hlast] at heq
    exact Metadata.resourceVersion_of_ofJson? heq hsource hversion
  | configMap =>
    obtain ⟨record, m, hrecord, -, -, hread, heq, -⟩ := ConfigMap.ofJson?_eq_some.1 hread
    show existing.metadata.resourceVersion = some version
    rw [← heq]
    exact hnullable hrecord hread
  | secret =>
    obtain ⟨record, m, hrecord, -, -, hread, heq, -⟩ := Secret.ofJson?_eq_some.1 hread
    show existing.metadata.resourceVersion = some version
    rw [← heq]
    exact hnullable hrecord hread

/-- Fields whose metadata is in another version, and that are the same otherwise. -/
theorem merge_versionPatch {fields versioned : List (String × Json)} {m : Metadata}
    (hmetadata : (Dict.ofList fields).find? "metadata" = some m.toJson)
    (hversioned : (Dict.ofList versioned).find? "metadata" = some (m.inVersion version).toJson)
    (hother : ∀ name, name ≠ "metadata" →
      (Dict.ofList versioned).find? name = (Dict.ofList fields).find? name) :
    (Json.object fields).merge (versionPatch version) = Json.object versioned := by
  refine Json.merge_object_singleton ?_ hother
  rw [hmetadata, hversioned, Metadata.toJson_inVersion]
  rfl

/-- An object that is written in another version is written as it is with that version added, or
not at all differently if another field covers its metadata. -/
theorem toJson_resource_inVersion (r : Resource) :
    { r with metadata := r.metadata.inVersion version }.toJson =
        r.toJson.merge (versionPatch version) ∨
      { r with metadata := r.metadata.inVersion version }.toJson = r.toJson := by
  rw [Resource.toJson, Resource.toJson]
  cases hcovered : r.fields.find? "metadata" with
  | none =>
    refine .inl (merge_versionPatch (m := r.metadata) ?_ ?_ fun name hname => ?_).symm
    · simp [Dict.find?_ofList_append, Dict.find?_ofList_cons, hcovered]
    · simp [Dict.find?_ofList_append, Dict.find?_ofList_cons, hcovered]
    · simp [Dict.find?_ofList_append, Dict.find?_ofList_cons, hname.symm]
  | some metadata =>
    refine .inr (congrArg Json.ofDict (Dict.ext_find? fun name => ?_))
    by_cases hname : "metadata" = name
    · simp [Dict.find?_ofList_append, Dict.find?_ofList_cons, ← hname, hcovered]
    · simp [Dict.find?_ofList_append, Dict.find?_ofList_cons, hname]

theorem toJson_configMap_inVersion (c : ConfigMap) :
    { c with metadata := c.metadata.inVersion version }.toJson =
      c.toJson.merge (versionPatch version) := by
  rw [ConfigMap.toJson, ConfigMap.toJson]
  refine (merge_versionPatch (m := c.metadata) ?_ ?_ fun name hname => ?_).symm
  · simp [Dict.find?_ofList_append, Dict.find?_ofList_cons]
  · simp [Dict.find?_ofList_append, Dict.find?_ofList_cons]
  · simp [Dict.find?_ofList_append, Dict.find?_ofList_cons, hname.symm]

theorem toJson_secret_inVersion (s : Secret) :
    { s with metadata := s.metadata.inVersion version }.toJson =
      s.toJson.merge (versionPatch version) := by
  rw [Secret.toJson, Secret.toJson]
  refine (merge_versionPatch (m := s.metadata) ?_ ?_ fun name hname => ?_).symm
  · simp [Dict.find?_ofList_append, Dict.find?_ofList_cons]
  · simp [Dict.find?_ofList_append, Dict.find?_ofList_cons]
  · simp [Dict.find?_ofList_append, Dict.find?_ofList_cons, hname.symm]

/-- An object that is written in the version of another one is written as it is with that version
added, or not at all differently. -/
theorem InUse.write_versioned (h : codec.InUse) (object : α)
    (hexisting : (codec.metadata existing).resourceVersion = some version) :
    codec.write (codec.versioned object existing) =
        (codec.write object).merge (versionPatch version) ∨
      codec.write (codec.versioned object existing) = codec.write object := by
  rw [versioned, hexisting]
  cases h with
  | resource => exact toJson_resource_inVersion object
  | configMap => exact .inl (toJson_configMap_inVersion object)
  | secret => exact .inl (toJson_secret_inVersion object)

/-- The version that a version patch adds. -/
theorem at?_versionPatch (json : Json) :
    (json.merge (versionPatch version)).at? versionPath = some (.str version) := by
  have honly (key : String) (value : Json) : (Dict.ofList [(key, value)]).find? key = some value :=
    Dict.find?_ofList_cons.trans (if_pos rfl)
  rw [versionPath, versionPatch, Json.at?_merge_object (honly ..), Json.mergedField_object,
    Option.bind_some, Json.at?_merge_object (honly ..), Json.mergedField_str, Option.bind_some,
    Json.at?_nil]

end Rest.Codec

/-! ## Applying an object while others write it -/

namespace Contention

open Dialogue (Yields)
open Relation (ReflTransGen)
open Rest

/-- An object as the server shows it, which says its version. -/
structure Stored where
  version : String
  content : Json
  at?_versionPath : content.at? Codec.versionPath = some (.str version)

/-- What is stored under one name, all versions that ever were, and those among them that were given
to what is applied here. -/
structure Place where
  live : Option Stored
  spent : List String
  own : List String
  mem_spent : ∀ stored ∈ live, stored.version ∈ spent

namespace Place

/-- An object is stored by somebody else, in place of what was there. -/
def store (place : Place) (new : Stored) : Place :=
  ⟨some new, new.version :: place.spent, place.own, by simp⟩

/-- An object is stored that is applied here, in place of what was there. -/
def write (place : Place) (new : Stored) : Place :=
  ⟨some new, new.version :: place.spent, new.version :: place.own, by simp⟩

/-- Whatever was stored is gone. -/
def clear (place : Place) : Place := ⟨none, place.spent, place.own, by simp⟩

end Place

variable {α : Type} {codec : Codec α} {read : Reader α} {ns name : String} {resource : ApiResource}
  {object : α} {place before after : Place} {result : Except Failure Unit}
  {trace : List (Dialogue.Exchange Question Question.Answer)}

/-- What another client does: it creates or updates the object, which gets a version that none ever
had, or it deletes it. -/
inductive Elsewhere (place : Place) : Place → Prop
  | stored (new : Stored) (hnew : new.version ∉ place.spent) : Elsewhere place (place.store new)
  | deleted : Elsewhere place place.clear

/-- The replies that refuse nothing: they confirm what was asked for, or they are lost, cannot be
read, or tell of trouble that is neither a conflict nor a missing object. -/
def Unrefused (read : Reader α) (reply : Reply) : Prop :=
  ∀ failure, understood read reply = .error failure → ∃ detail, failure = .api detail

/-- How a question is answered. An object that exists is shown. A creation has an effect only if no
object is there, and a replacement only if it names the version of the object that is there; it has
that effect whether or not the reply confirms it, but not if the reply refuses it. Any request may
fail without effect. That an object does not exist is said only if it is so. -/
inductive Serves (read : Reader α) (place : Place) :
    Dialogue.Exchange Question Question.Answer → Place → Prop
  | clock (now : Instant) : Serves read place ⟨.clock, now⟩ place
  | shown {request : Rest.Request} {stored : Stored} {code : Nat} {text : String}
    (hmethod : request.method = .get) (hlive : place.live = some stored)
    (hcode : isError code = false) (htext : Json.parse text = some stored.content) :
    Serves read place ⟨.send request, Reply.response code text⟩ place
  | created {request : Rest.Request} {new : Stored} {reply : Reply}
    (hmethod : request.method = .post) (hfree : place.live = none)
    (hnew : new.version ∉ place.spent) (hreply : Unrefused read reply) :
    Serves read place ⟨.send request, reply⟩ (place.write new)
  | replaced {request : Rest.Request} {body : Body} {old new : Stored} {reply : Reply}
    (hmethod : request.method = .put) (hbody : request.body = some body)
    (hlive : place.live = some old)
    (hversion : body.content.at? Codec.versionPath = some (.str old.version))
    (hnew : new.version ∉ place.spent) (hreply : Unrefused read reply) :
    Serves read place ⟨.send request, reply⟩ (place.write new)
  | failed {request : Rest.Request} {reply : Reply} {failure : Failure}
    (hreply : understood read reply = .error failure)
    (habsent : reply.deniesObject = true → place.live = none) :
    Serves read place ⟨.send request, reply⟩ place

/-- The server at which one name is asked for and written to, and to which others may write under
that name before any question is answered. -/
def contended (read : Reader α) : Respondent Question Question.Answer Place :=
  fun before exchange after =>
    ∃ place, ReflTransGen Elsewhere before place ∧ Serves read place exchange after

/-- How an object is applied. It was asked for first, and then it was created where none was, or put
in the place of the very object that was shown, with nobody having written anything in between. What
was written is the object as it is, with the version of the one in whose place it was put. -/
inductive Applied (codec : Codec α) (ns name : String) (resource : ApiResource) (object : α)
    (before : Place) : List (Dialogue.Exchange Question Question.Answer) → Place → Prop
  | created {asked current : Place} {get post : Rest.Request} {shown confirmed : Reply}
    {new : Stored}
    (hasked : ReflTransGen Elsewhere before asked) (hfree : asked.live = none)
    (hget : sendable ⟨.get, objectUri ns resource name, none⟩ = .ok get)
    (hcurrent : ReflTransGen Elsewhere asked current) (hstill : current.live = none)
    (hpost : sendable ⟨.post, withParameters (listUri (some ns) resource) [],
      some ⟨plainJson, codec.write object⟩⟩ = .ok post) (hnew : new.version ∉ current.spent) :
    Applied codec ns name resource object before [⟨.send get, shown⟩, ⟨.send post, confirmed⟩]
      (current.write new)
  | replaced {asked : Place} {get put : Rest.Request} {shown confirmed : Reply} {old new : Stored}
    (hasked : ReflTransGen Elsewhere before asked) (hlive : asked.live = some old)
    (hget : sendable ⟨.get, objectUri ns resource name, none⟩ = .ok get)
    (hput : sendable ⟨.put, withParameters (objectUri ns resource name) [],
      some ⟨plainJson, (codec.write object).merge (Codec.versionPatch old.version)⟩⟩ = .ok put)
    (hnew : new.version ∉ asked.spent) :
    Applied codec ns name resource object before [⟨.send get, shown⟩, ⟨.send put, confirmed⟩]
      (asked.write new)

theorem mem_spent_of_elsewhere {version : String} (h : ReflTransGen Elsewhere before after)
    (hversion : version ∈ before.spent) : version ∈ after.spent := by
  induction h with
  | refl => exact hversion
  | tail _ hstep ih =>
    cases hstep with
    | stored => exact List.mem_cons_of_mem _ ih
    | deleted => exact ih

/-- Nothing that others do is done here. -/
theorem own_of_elsewhere (h : ReflTransGen Elsewhere before after) : after.own = before.own := by
  induction h with
  | refl => rfl
  | tail _ hstep ih =>
    cases hstep with
    | stored | deleted => exact ih

/-- Whatever others do, an object that is there afterwards has a version that none ever had
before, or nobody did anything. -/
theorem eq_or_not_mem_of_elsewhere (h : ReflTransGen Elsewhere before after) :
    after = before ∨ ∀ stored ∈ after.live, stored.version ∉ before.spent := by
  cases h with
  | refl => exact .inl rfl
  | tail hfirst hlast =>
    refine .inr fun stored hstored => ?_
    cases hlast with
    | stored new hnew =>
      cases hstored
      exact mt (mem_spent_of_elsewhere hfirst) hnew
    | deleted => cases hstored

section Serving

variable {request : Rest.Request} {reply : Reply}

theorem Serves.eq_of_get (h : Serves read place ⟨.send request, reply⟩ after)
    (hmethod : request.method = .get) : after = place := by
  cases h with
  | shown | failed => rfl
  | created hother | replaced hother =>
    rw [hmethod] at hother
    cases hother

/-- An object that is said not to exist does not. -/
theorem Serves.live_eq_none (h : Serves read place ⟨.send request, reply⟩ after)
    (hmethod : request.method = .get) (habsent : reply.deniesObject = true) :
    place.live = none := by
  cases h with
  | shown _ _ hcode =>
    rw [Reply.deniesObject, hcode] at habsent
    cases habsent
  | failed _ hfree => exact hfree habsent
  | created hother | replaced hother =>
    rw [hmethod] at hother
    cases hother

/-- An object that is read is there, in the version in which it is read. -/
theorem Serves.exists_live (h : Serves codec.read place ⟨.send request, reply⟩ after)
    (hcodec : codec.InUse) (hmethod : request.method = .get) {existing : α}
    (hread : understood codec.read reply = .ok existing) :
    ∃ old, place.live = some old ∧
      (codec.metadata existing).resourceVersion = some old.version := by
  cases h with
  | @shown _ old code text _ hlive hcode htext =>
    obtain ⟨document, hparse, hread⟩ := exists_document_of_understood hcode hread
    have hvalue : document.value? = some old.content := by
      simpa [Json.parse, hparse] using htext
    exact ⟨old, hlive, hcodec.version_of_read hread hvalue old.at?_versionPath⟩
  | failed hreply =>
    rw [hread] at hreply
    cases hreply
  | created hother | replaced hother =>
    rw [hmethod] at hother
    cases hother

/-- A creation finds nothing there, or it fails and has no effect. -/
theorem Serves.created_or_failed (h : Serves read place ⟨.send request, reply⟩ after)
    (hmethod : request.method = .post) :
    (Unrefused read reply ∧ place.live = none ∧
      ∃ new, new.version ∉ place.spent ∧ after = place.write new) ∨
    after = place ∧ ∃ failure, understood read reply = .error failure := by
  cases h with
  | @created _ new _ _ hfree hnew hreply => exact .inl ⟨hreply, hfree, new, hnew, rfl⟩
  | shown hother | replaced hother =>
    rw [hmethod] at hother
    cases hother
  | failed hreply => exact .inr ⟨rfl, _, hreply⟩

/-- A replacement names the version that is there, or it fails and has no effect. -/
theorem Serves.replaced_or_failed {body : Body}
    (h : Serves read place ⟨.send request, reply⟩ after) (hmethod : request.method = .put)
    (hbody : request.body = some body) :
    (Unrefused read reply ∧ ∃ old new, place.live = some old ∧
      body.content.at? Codec.versionPath = some (.str old.version) ∧
      new.version ∉ place.spent ∧ after = place.write new) ∨
    after = place ∧ ∃ failure, understood read reply = .error failure := by
  cases h with
  | @replaced _ _ old new _ _ hother hlive hversion hnew hreply =>
    cases hbody.symm.trans hother
    exact .inl ⟨hreply, old, new, hlive, hversion, hnew, rfl⟩
  | shown hother | created hother =>
    rw [hmethod] at hother
    cases hother
  | failed hreply => exact .inr ⟨rfl, _, hreply⟩

end Serving

theorem understood_of_map {β : Type} {f : α → β} {reply : Reply} {failure : Failure}
    (h : (understood read reply).map f = .error failure) :
    understood read reply = .error failure := by
  cases hreply : understood read reply <;> rw [hreply] at h <;> cases h
  rfl

/-- A request is served after whatever others do, or it fails without being sent. -/
theorem served_of_course {β : Type} {request : Rest.Request} {f : Reply → Except Failure β}
    {result : Except Failure β} (h : Course request f trace result)
    (hpath : (contended read).Path before trace after) :
    (∃ sent reply place, sendable request = .ok sent ∧ trace = [⟨.send sent, reply⟩] ∧
      result = f reply ∧ ReflTransGen Elsewhere before place ∧
      Serves read place ⟨.send sent, reply⟩ after) ∨
    ∃ failure, result = .error failure ∧ failure.isTransient = true ∧ after = before := by
  cases h with
  | @unsent failure htransient =>
    obtain rfl := Respondent.path_nil.1 hpath
    exact .inr ⟨failure, rfl, htransient, rfl⟩
  | @sent sent reply hsent =>
    obtain ⟨_, ⟨place, helsewhere, hserves⟩, hpath⟩ := Respondent.path_cons.1 hpath
    obtain rfl := Respondent.path_nil.1 hpath
    exact .inl ⟨sent, reply, place, hsent, rfl, rfl, helsewhere, hserves⟩

/-- What an object is read as, is what is there at that moment. Asking changes nothing. -/
theorem asked_of_get {result : Except Failure (Option α)} (hcodec : codec.InUse)
    (h : Yields (get? ns resource name codec.read) trace result)
    (hpath : (contended codec.read).Path before trace after) :
    ReflTransGen Elsewhere before after ∧
    (∀ failure, result = .error failure → failure.isTransient = true) ∧
    ∀ found, result = .ok found →
      ∃ get shown, sendable ⟨.get, objectUri ns resource name, none⟩ = .ok get ∧
        trace = [⟨.send get, shown⟩] ∧
        match found with
        | none => after.live = none
        | some existing => ∃ old, after.live = some old ∧
            (codec.metadata existing).resourceVersion = some old.version := by
  rcases served_of_course (course_of_get h) hpath with
    ⟨get, shown, place, hget, rfl, rfl, helsewhere, hserves⟩ | ⟨failure, rfl, htransient, rfl⟩
  · have hmethod : get.method = .get := by rw [eq_of_sendable hget]
    obtain rfl := hserves.eq_of_get hmethod
    refine ⟨helsewhere, fun failure hfailure => ?_, fun found hfound => ⟨get, shown, hget, rfl, ?_⟩⟩
    · split at hfailure
      case isTrue => cases hfailure
      case isFalse => exact isTransient_of_understood (understood_of_map hfailure)
    · split at hfound
      case isTrue hdenies =>
        cases hfound
        exact hserves.live_eq_none hmethod hdenies
      case isFalse =>
        cases hread : understood codec.read shown with
        | error =>
          rw [hread] at hfound
          cases hfound
        | ok existing =>
          rw [hread] at hfound
          cases hfound
          exact hserves.exists_live hcodec hmethod hread
  · refine ⟨.refl, fun _ heq => ?_, nofun⟩
    cases heq
    exact htransient

/-- The results of a write that may have been carried out: it has succeeded, or nothing can be told
of it. -/
def Untold (result : Except Failure Unit) : Prop :=
  ∀ failure, result = .error failure → ∃ detail, failure = .api detail

/-- All is left as others left it, and a later pass may try again. -/
def Left (before after : Place) (result : Except Failure Unit) : Prop :=
  ∃ failure, result = .error failure ∧ failure.isTransient = true ∧
    ReflTransGen Elsewhere before after

theorem Unrefused.untold {reply : Reply} (h : Unrefused read reply) :
    Untold ((understood read reply).map fun _ => ()) :=
  fun failure hfailure => h failure (understood_of_map hfailure)

/-- A write that fails and has no effect leaves all as others left it. -/
theorem left_of_understood {reply : Reply} {failure : Failure}
    (helsewhere : ReflTransGen Elsewhere before after)
    (hreply : understood read reply = .error failure) :
    Left before after ((understood read reply).map fun _ => ()) := by
  rw [hreply]
  exact ⟨failure, rfl, isTransient_of_understood hreply, helsewhere⟩

/-- A creation finds the name free, or nothing is written. -/
theorem created_or_left {content : Json}
    (h : Yields (create ns resource content read) trace result)
    (hpath : (contended read).Path before trace after) :
    (Untold result ∧ ∃ post confirmed current new,
      sendable ⟨.post, withParameters (listUri (some ns) resource) [],
        some ⟨plainJson, content⟩⟩ = .ok post ∧
      trace = [⟨.send post, confirmed⟩] ∧ ReflTransGen Elsewhere before current ∧
      current.live = none ∧ new.version ∉ current.spent ∧ after = current.write new) ∨
    Left before after result := by
  rcases served_of_course (course_of_create h) hpath with
    ⟨post, reply, current, hpost, rfl, rfl, helsewhere, hserves⟩ | ⟨failure, rfl, htransient, rfl⟩
  · have hmethod : post.method = .post := by rw [eq_of_sendable hpost]
    rcases hserves.created_or_failed hmethod with
      ⟨hreply, hfree, new, hnew, rfl⟩ | ⟨rfl, failure, hreply⟩
    · exact .inl ⟨hreply.untold, post, reply, current, new, hpost, rfl, helsewhere, hfree, hnew,
        rfl⟩
    · exact .inr (left_of_understood helsewhere hreply)
  · exact .inr ⟨failure, rfl, htransient, .refl⟩

/-- A replacement names the version that is there, or nothing is written. -/
theorem replaced_or_left {content : Json}
    (h : Yields (replace ns resource name content read) trace result)
    (hpath : (contended read).Path before trace after) :
    (Untold result ∧ ∃ put confirmed current old new,
      sendable ⟨.put, withParameters (objectUri ns resource name) [],
        some ⟨plainJson, content⟩⟩ = .ok put ∧
      trace = [⟨.send put, confirmed⟩] ∧ ReflTransGen Elsewhere before current ∧
      current.live = some old ∧ content.at? Codec.versionPath = some (.str old.version) ∧
      new.version ∉ current.spent ∧ after = current.write new) ∨
    Left before after result := by
  rcases served_of_course (course_of_replace h) hpath with
    ⟨put, reply, current, hput, rfl, rfl, helsewhere, hserves⟩ | ⟨failure, rfl, htransient, rfl⟩
  · have heq := eq_of_sendable hput
    rcases hserves.replaced_or_failed (by rw [heq]) (by rw [heq]) with
      ⟨hreply, old, new, hlive, hversion, hnew, rfl⟩ | ⟨rfl, failure, hreply⟩
    · exact .inl ⟨hreply.untold, put, reply, current, old, new, hput, rfl, helsewhere, hlive,
        hversion, hnew, rfl⟩
    · exact .inr (left_of_understood helsewhere hreply)
  · exact .inr ⟨failure, rfl, htransient, .refl⟩

/-- An object is applied without any write of others being lost, or nothing is written. -/
theorem applied_or_left (hcodec : codec.InUse)
    (hversionless : (codec.write object).at? Codec.versionPath = none)
    (hname : (codec.metadata object).name = some name)
    (h : Yields (createOrReplace codec ns resource object) trace result)
    (hpath : (contended codec.read).Path before trace after) :
    Untold result ∧ Applied codec ns name resource object before trace after ∨
      Left before after result := by
  rw [createOrReplace] at h
  simp only [hname] at h
  rcases yields_bind.1 h with ⟨first, second, found, rfl, hget, hwrite⟩ | ⟨failure, hget, rfl⟩
  · obtain ⟨asked, hfirst, hsecond⟩ := Respondent.path_append.1 hpath
    obtain ⟨hasked, -, hresult⟩ := asked_of_get hcodec hget hfirst
    obtain ⟨get, shown, hsent, rfl, hfound⟩ := hresult found rfl
    -- What is written depends on what was found, and on that alone.
    cases found with
    | none =>
      rcases created_or_left hwrite hsecond with
        ⟨huntold, post, confirmed, current, new, hpost, rfl, hcurrent, hfree, hnew, rfl⟩ |
        ⟨failure, rfl, htransient, helsewhere⟩
      · exact .inl ⟨huntold, .created hasked hfound hsent hcurrent hfree hpost hnew⟩
      · exact .inr ⟨failure, rfl, htransient, hasked.trans helsewhere⟩
    | some existing =>
      obtain ⟨old, hlive, hexisting⟩ := hfound
      rcases replaced_or_left hwrite hsecond with
        ⟨huntold, put, confirmed, current, present, new, hput, rfl, hcurrent, hpresent, hversion,
          hnew, rfl⟩ | ⟨failure, rfl, htransient, helsewhere⟩
      · refine .inl ⟨huntold, ?_⟩
        rcases hcodec.write_versioned object hexisting with hwritten | hwritten
        · rw [hwritten] at hput
          rw [hwritten, Codec.at?_versionPatch, Option.some.injEq, Json.str.injEq] at hversion
          -- The version that is there was there when the object was shown, so nobody has written
          -- anything since.
          rcases eq_or_not_mem_of_elsewhere hcurrent with rfl | hfresh
          · exact .replaced hasked hlive hsent hput hnew
          · exact absurd (hversion ▸ asked.mem_spent old hlive) (hfresh present hpresent)
        · rw [hwritten, hversionless] at hversion
          cases hversion
      · exact .inr ⟨failure, rfl, htransient, hasked.trans helsewhere⟩
  · obtain ⟨hasked, htransient, -⟩ := asked_of_get hcodec hget hpath
    exact .inr ⟨failure, rfl, htransient failure rfl, hasked⟩

/-- An object is applied without any write of others being lost, or nothing is written and a later
pass may try again. What succeeds was applied, and what meets a conflict or a missing object was
not; of other trouble it cannot be told. Without a name the object is not even asked for. -/
theorem applied_or_transient (hcodec : codec.InUse)
    (hversionless : (codec.write object).at? Codec.versionPath = none)
    (h : Yields (createOrReplace codec ns resource object) trace result)
    (hpath : (contended codec.read).Path before trace after) :
    ((codec.metadata object).name = none →
      trace = [] ∧ result = .error (.invalidState "object to apply has no name")) ∧
    ∀ name, (codec.metadata object).name = some name →
      (result = .ok () → Applied codec ns name resource object before trace after) ∧
      ∀ failure, result = .error failure → failure.isTransient = true ∧
        (ReflTransGen Elsewhere before after ∨ (∃ detail, failure = .api detail) ∧
          Applied codec ns name resource object before trace after) := by
  refine ⟨fun hnameless => ?_, fun name hname => ?_⟩
  · rw [createOrReplace] at h
    simp only [hnameless] at h
    exact yields_throw.1 h
  rcases applied_or_left hcodec hversionless hname h hpath with
    ⟨huntold, happlied⟩ | ⟨failure, rfl, htransient, helsewhere⟩
  · refine ⟨fun _ => happlied, fun failure hfailure => ?_⟩
    obtain ⟨detail, rfl⟩ := huntold failure hfailure
    exact ⟨rfl, .inr ⟨⟨detail, rfl⟩, happlied⟩⟩
  · refine ⟨nofun, fun _ heq => ?_⟩
    cases heq
    exact ⟨htransient, .inl helsewhere⟩

/-! ## A contended config map -/

/-- A config map that is applied. -/
def settings : ConfigMap where
  metadata := { name := some "settings", ns := some "cloud" }
  data := some (.ofList [("mode", "fast")])

theorem settings_versionless :
    (Codec.configMap.write settings).at? Codec.versionPath = none := by
  decide +kernel

/-- What is stored of it in a version. -/
def settingsIn (version : String) : Stored where
  version
  content := settings.toJson.merge (Codec.versionPatch version)
  at?_versionPath := Codec.at?_versionPatch _

/-- It is there in version 7. -/
def seventh : Place := ⟨some (settingsIn "7"), ["7"], [], by simp [settingsIn]⟩

/-- The reply that shows it in a version. -/
def showing (version : String) : Reply := .response 200 (settingsIn version).content.text

/-- The reply to a write that comes too late. -/
def late : Reply := statusReply 409 "stale resourceVersion" "Conflict"

/-- The reply to a write that was carried out, of which only the start came through. -/
def torn : Reply := .response 200 "\x7b"

/-- What happens when version 7 is to be replaced: nothing else, or others write first, or the reply
is torn. -/
inductive Turn
  | calm | busy | torn
deriving DecidableEq

/-- Serves one read and one write of version 7. -/
def respond (turn : Turn) : (question : Question) → Place → question.Answer × Place
  | .clock, place => ((default : Instant), place)
  | .send request, place =>
    if place.live.map Stored.version ≠ some "7" then (late, place)
    else if request.method = .get then (showing "7", place)
    else if turn = .busy then (late, place.store (settingsIn "8"))
    else if request.method = .put ∧
        (request.body.bind (·.content.at? Codec.versionPath)) = some (.str "7") then
      (if turn = .torn then torn else showing "8", place.write (settingsIn "8"))
    else (late, place)

theorem serves_late (request : Rest.Request) (place : Place) :
    Serves (α := ConfigMap) ConfigMap.ofJson? place ⟨.send request, late⟩ place :=
  .failed (understood_conflict (by decide) (by decide +kernel)) fun habsent =>
    absurd habsent (by decide +kernel)

theorem understood_torn :
    understood (α := ConfigMap) ConfigMap.ofJson? torn = .error undecodable := by
  decide +kernel

theorem unrefused_showing (turn : Turn) :
    Unrefused (α := ConfigMap) ConfigMap.ofJson? (if turn = .torn then torn else showing "8") := by
  intro failure hfailure
  split at hfailure
  case isTrue =>
    rw [understood_torn] at hfailure
    cases hfailure
    exact ⟨_, rfl⟩
  case isFalse =>
    have hvalue : understood (α := ConfigMap) ConfigMap.ofJson? (showing "8") =
        .ok { settings with metadata := settings.metadata.inVersion "8" } := by decide +kernel
    rw [hvalue] at hfailure
    cases hfailure

theorem answers_respond (turn : Turn) (question : Question)
    (hplace : place = seventh ∨ place.live.map Stored.version ≠ some "7") :
    contended (α := ConfigMap) ConfigMap.ofJson? place ⟨question, (respond turn question place).1⟩
        (respond turn question place).2 ∧
      ((respond turn question place).2 = seventh ∨
        (respond turn question place).2.live.map Stored.version ≠ some "7") := by
  cases question with
  | clock => exact ⟨⟨place, .refl, .clock _⟩, hplace⟩
  | send request =>
    rw [respond]
    split
    case isTrue hother => exact ⟨⟨place, .refl, serves_late request place⟩, .inr hother⟩
    case isFalse hseventh =>
      obtain rfl := hplace.resolve_right hseventh
      have hnew : (settingsIn "8").version ∉ seventh.spent := by decide
      have helse : (seventh.store (settingsIn "8")).live.map Stored.version ≠ some "7" := by decide
      split
      case isTrue hget =>
        have hparse : Json.parse (settingsIn "7").content.text = some (settingsIn "7").content := by
          decide +kernel
        exact ⟨⟨seventh, .refl, .shown hget rfl (by decide) hparse⟩, .inl rfl⟩
      case isFalse =>
        split
        case isTrue =>
          exact ⟨⟨_, .single (.stored _ hnew), serves_late request _⟩, .inr helse⟩
        case isFalse =>
          split
          case isTrue hput =>
            obtain ⟨body, hbody, hversion⟩ := Option.bind_eq_some_iff.1 hput.2
            exact ⟨⟨seventh, .refl,
              .replaced hput.1 hbody rfl hversion hnew (unrefused_showing turn)⟩, .inr helse⟩
          case isFalse => exact ⟨⟨seventh, .refl, serves_late request _⟩, .inl rfl⟩

/-- What is asked and answered when the config map is applied to version 7. -/
def talk (turn : Turn) : List (Dialogue.Exchange Question Question.Answer) :=
  Dialogue.transcript (respond turn)
    (createOrReplace .configMap "cloud" .configMaps settings) seventh

/-- What comes of it, and what is there afterwards. -/
def course (turn : Turn) : Except Failure Unit × Place :=
  Dialogue.run (respond turn) (createOrReplace .configMap "cloud" .configMaps settings) seventh

theorem yields_talk (turn : Turn) : Yields
    (createOrReplace .configMap "cloud" .configMaps settings) (talk turn) (course turn).1 :=
  Dialogue.yields_transcript ..

theorem path_talk (turn : Turn) :
    (contended Codec.configMap.read).Path seventh (talk turn) (course turn).2 :=
  Dialogue.path_transcript_of (respond turn) (fun question _ => answers_respond turn question) _
    (.inl rfl)

/-- The config map is applied over version 7 if nobody else writes it. If somebody does, that write
stays, and the conflict is left to a later pass. -/
theorem settings_applied_or_transient :
    Applied .configMap "cloud" "settings" .configMaps settings seventh (talk .calm)
      (course .calm).2 ∧
    ∃ failure, (course .busy).1 = .error failure ∧ failure.isConflict = true ∧
      failure.isTransient = true ∧ ReflTransGen Elsewhere seventh (course .busy).2 := by
  have happlied (turn : Turn) := (applied_or_transient .configMap settings_versionless
    (yields_talk turn) (path_talk turn)).2 "settings" rfl
  have hcalm : (course .calm).1 = .ok () := by decide +kernel
  have hbusy : (course .busy).1 = .error (.conflict "stale resourceVersion") := by decide +kernel
  obtain ⟨htransient, helsewhere | ⟨⟨_, ⟨⟩⟩, -⟩⟩ := (happlied .busy).2 _ hbusy
  exact ⟨(happlied .calm).1 hcalm, _, hbusy, rfl, htransient, helsewhere⟩

/-- A failure does not say that nothing was written: the config map was put in the place of version
7, but the reply that says so is torn. -/
theorem torn_reply_hides_write :
    (Codec.configMap.write settings).at? Codec.versionPath = none ∧
    Yields (createOrReplace .configMap "cloud" .configMaps settings) (talk .torn)
      (.error undecodable) ∧
    (contended Codec.configMap.read).Path seventh (talk .torn) (course .torn).2 ∧
    (course .torn).2.live.map Stored.version = some "8" ∧
    ¬ ReflTransGen Elsewhere seventh (course .torn).2 := by
  obtain ⟨hresult, hlive, hown⟩ : (course .torn).1 = .error undecodable ∧
      (course .torn).2.live.map Stored.version = some "8" ∧ (course .torn).2.own = ["8"] := by
    decide +kernel
  refine ⟨settings_versionless, hresult ▸ yields_talk .torn, path_talk .torn, hlive,
    fun helsewhere => ?_⟩
  rw [own_of_elsewhere helsewhere] at hown
  cases hown

end Contention

end NamespaceBackup
