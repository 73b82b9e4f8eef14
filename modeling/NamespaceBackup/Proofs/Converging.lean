import NamespaceBackup.Proofs.FreshLoad

/-!
# Loads that are cut off

A load is made of calls that store objects and call them to wait. Each of these says in full what it
makes of its object, but for the status, which an applied object keeps and a merge patch changes. A
patch that sets fields only does nothing more when it is made again, so a load that comes last undoes
all traces of those before it, wherever they were cut off.

## Main definitions

* `Json.Settles`: a patch that, made twice, does what it does once
* `Resource.loadedOver`: a saved object as it is loaded over a status
* `Cluster.Faltering`: clock and cluster, while calls may fail
* `Saga.Attempts`: loads of one bundle, each of which may be cut off anywhere
* `Saga.loadAlone`: a load of all objects with nobody else around

## Main results

* `Json.settles_object`: a patch that sets fields settles
* `Saga.foldl_loadInto_insert`: loading objects undoes what was done to one of them, if its status
  settles
* `Space.loaded_perform`: a load undoes what any of its calls did before
* `Saga.load_converges`: loads that are cut off come to the same as one that is not
-/

namespace NamespaceBackup

open Activity (Ensures)
open Space (Agree)

/-! ## Patches that are made twice -/

namespace Json

variable {name : String} {fields target patch : List (String × Json)} {value : Json}

/-- A patch that sets its place and, made twice, does what it does once. -/
def Settles (patch : Json) : Prop :=
  ∀ old, ∃ new, mergedField old patch = some new ∧ mergedField (some new) patch = some new

theorem settles_str (text : String) : (str text).Settles := fun _ =>
  ⟨_, mergedField_str .., mergedField_str ..⟩

theorem settles_arr (items : List Json) : (arr items).Settles := fun _ =>
  ⟨arr items, by simp [mergedField, merge], by simp [mergedField, merge]⟩

/-- A field that a patch does not name may as well be set afterwards. -/
theorem mergeFields_insert (hname : ∀ field ∈ patch, field.1 ≠ name)
    (hsettles : ∀ field ∈ patch, field.2.Settles) (target : List (String × Json)) :
    mergeFields (Assoc.insert name value target) patch =
      Assoc.insert name value (mergeFields target patch) := by
  induction patch generalizing target with
  | nil => rfl
  | cons head rest ih =>
    obtain ⟨key, fieldPatch⟩ := head
    have hne : key ≠ name := hname (key, fieldPatch) (by simp)
    obtain ⟨new, hnew, -⟩ := hsettles (key, fieldPatch) (by simp) (Assoc.find? key target)
    rw [mergeFields_cons, mergeFields_cons, Assoc.find?_insert, if_neg (Ne.symm hne), hnew]
    dsimp only
    rw [Assoc.insert_comm hne, ih (fun field hfield => hname field (by simp [hfield]))
      fun field hfield => hsettles field (by simp [hfield])]

theorem mergeFields_mergeFields (h : Assoc.Ascending patch)
    (hsettles : ∀ field ∈ patch, field.2.Settles) (target : List (String × Json)) :
    mergeFields (mergeFields target patch) patch = mergeFields target patch := by
  induction patch generalizing target with
  | nil => rfl
  | cons head rest ih =>
    obtain ⟨key, fieldPatch⟩ := head
    obtain ⟨hless, hrest⟩ := List.pairwise_cons.1 h
    obtain ⟨new, hnew, hagain⟩ := hsettles (key, fieldPatch) (by simp) (Assoc.find? key target)
    have hname : ∀ field ∈ rest, field.1 ≠ key := fun field hfield heq =>
      String.lt_irrefl key (heq ▸ hless field hfield)
    have hsettles : ∀ field ∈ rest, field.2.Settles := fun field hfield =>
      hsettles field (by simp [hfield])
    -- The first field is as good as set last, so that it is there when the patch is made again.
    have honce : mergeFields target ((key, fieldPatch) :: rest) =
        Assoc.insert key new (mergeFields target rest) := by
      rw [mergeFields_cons, hnew]
      exact mergeFields_insert hname hsettles target
    rw [honce, mergeFields_cons, Assoc.find?_insert, if_pos rfl, hagain]
    dsimp only
    rw [Assoc.insert_insert, mergeFields_insert hname hsettles, ih hrest hsettles]

/-- A patch that sets fields settles if it does so field by field. -/
theorem settles_object (h : ∀ field ∈ fields, field.2.Settles) : (object fields).Settles := by
  intro old
  refine ⟨_, mergedField_object .., ?_⟩
  have hsettles : ∀ field ∈ (Dict.ofList fields).entries, field.2.Settles := fun field hfield =>
    h field (Dict.mem_of_mem_ofList hfield)
  rw [mergedField_object, Option.getD_some, object, merge, merge]
  exact congrArg (some <| obj ·)
    (mergeFields_mergeFields (Dict.ofList fields).ascending hsettles _)

end Json

namespace ManagedKind

variable {kind : ManagedKind} {reason : String} {status : Json}

theorem settles_waiting (h : kind.waiting reason = some status) : status.Settles := by
  rw [waiting] at h
  split at h
  case h_1 =>
    cases h
    exact Json.settles_object (by simp [Json.settles_str, Json.settles_arr])
  case h_2 =>
    cases h
    exact Json.settles_object (by simpa using Json.settles_object (by simp [Json.settles_str]))
  case h_3 => cases h

/-- The status of an object that is told to wait. -/
def waitingOver (kind : ManagedKind) (reason : String) (old : Option Json) : Option Json :=
  match kind.waiting reason with
  | some patch => Json.mergedField old patch
  | none => old

theorem find?_status_patched {patch : Json} (h : kind.waitingStatus reason = some patch)
    (object : Resource) :
    (object.patched patch).fields.find? "status" =
      kind.waitingOver reason (object.fields.find? "status") := by
  rw [waitingStatus_eq, Option.map_eq_some_iff] at h
  obtain ⟨status, hwaiting, rfl⟩ := h
  have hascending : Assoc.Ascending [("status", status)] := List.pairwise_singleton ..
  rw [waitingOver, hwaiting, Json.object, Dict.ofList_eq hascending,
    Resource.find?_patched _ hascending]
  rfl

/-- To be told to wait again makes no difference. -/
theorem waitingOver_waitingOver (old : Option Json) :
    kind.waitingOver reason (kind.waitingOver reason old) = kind.waitingOver reason old := by
  rw [waitingOver, waitingOver]
  cases hwaiting : kind.waiting reason with
  | none => rfl
  | some patch =>
    obtain ⟨new, hnew, hagain⟩ := settles_waiting hwaiting old
    dsimp only
    rw [hnew, hagain]

end ManagedKind

/-! ## Objects that are loaded again -/

/-- The status of the object of a name. -/
def Space.statusOf (objects : Dict Resource) (name : String) : Option Json :=
  (objects.find? name).bind (·.fields.find? "status")

theorem Space.statusOf_insert (objects : Dict Resource) (name other : String) (object : Resource) :
    statusOf (objects.insert name object) other =
      if name = other then object.fields.find? "status" else statusOf objects other := by
  rw [statusOf, Dict.find?_insert]
  split <;> rfl

namespace Resource

variable {ns : String}

/-- A saved object as it is loaded over a status. -/
def loadedOver (ns : String) (status : Option Json) (saved : Resource) : Resource :=
  match status with
  | some status => (saved.reloaded ns).withField "status" status
  | none => saved.reloaded ns

theorem find?_fields_loadedOver (status : Option Json) (saved : Resource) (name : String) :
    (saved.loadedOver ns status).fields.find? name =
      if "status" = name then status else saved.fields.find? name := by
  cases status <;> by_cases hname : "status" = name <;> simp [loadedOver, withField, reloaded, hname]

theorem loadedOver_patched {old : Option Json} {patch new : Json}
    (h : Json.mergedField old patch = some new) (saved : Resource) :
    (saved.loadedOver ns old).patched (.object [("status", patch)]) = saved.loadedOver ns (some new) := by
  have hascending : Assoc.Ascending [("status", patch)] := List.pairwise_singleton ..
  have hfields : ((saved.loadedOver ns old).patched (.object [("status", patch)])).fields =
      (saved.loadedOver ns (some new)).fields := by
    refine Dict.ext_find? fun name => ?_
    rw [Json.object, Dict.ofList_eq hascending, find?_patched _ hascending, find?_fields_loadedOver,
      find?_fields_loadedOver]
    by_cases hname : "status" = name <;> simp [Assoc.find?, hname, h]
  cases old <;> exact congrArg (Resource.mk _ _) hfields

end Resource

namespace Saga

open Space (statusOf)

variable {ns reason : String} {kind : ManagedKind} {objects : Dict Resource} {saved : Resource}

theorem applied_eq (ns : String) (objects : Dict Resource) (saved : Resource) :
    Space.applied objects (saved.reloaded ns) =
      objects.insert (saved.reloaded ns).anyName
        (saved.loadedOver ns (statusOf objects (saved.reloaded ns).anyName)) := rfl

/-- Loading an object stores it over the status that waiting makes of the one that is there. -/
theorem loadInto_eq (ns reason : String) (kind : ManagedKind) (objects : Dict Resource)
    (saved : Resource) :
    loadInto ns reason kind objects saved =
      objects.insert (saved.reloaded ns).anyName (saved.loadedOver ns
        (kind.waitingOver reason (statusOf objects (saved.reloaded ns).anyName))) := by
  rw [loadInto, applied_eq, ManagedKind.waitingOver, ManagedKind.waitingStatus_eq]
  cases hwaiting : kind.waiting reason with
  | none => rfl
  | some patch =>
    obtain ⟨new, hnew, -⟩ := ManagedKind.settles_waiting hwaiting
      (statusOf objects (saved.reloaded ns).anyName)
    dsimp only [Option.map_some]
    rw [hnew, Dict.modify, Dict.find?_insert, if_pos rfl]
    dsimp only
    rw [Dict.insert_insert, Resource.loadedOver_patched hnew]

/-- Loading objects undoes what was done to one of them, if that one is told to wait over the same
status as before. -/
theorem foldl_loadInto_insert {loaded : List Resource} {object : Resource} (hsaved : saved ∈ loaded)
    (hstatus : kind.waitingOver reason (object.fields.find? "status") =
      kind.waitingOver reason (statusOf objects (saved.reloaded ns).anyName)) :
    loaded.foldl (loadInto ns reason kind)
        (objects.insert (saved.reloaded ns).anyName object) =
      loaded.foldl (loadInto ns reason kind) objects := by
  induction loaded generalizing objects with
  | nil => cases hsaved
  | cons first rest ih =>
    rw [List.foldl_cons, List.foldl_cons]
    by_cases hname : (saved.reloaded ns).anyName = (first.reloaded ns).anyName
    · -- What was stored is replaced at once, over the same status.
      rw [loadInto_eq, loadInto_eq, ← hname, Space.statusOf_insert, if_pos rfl, hstatus,
        Dict.insert_insert]
    · have hrest : saved ∈ rest := by
        rcases List.mem_cons.1 hsaved with rfl | hrest
        · exact absurd rfl hname
        · exact hrest
      have hfirst : loadInto ns reason kind (objects.insert (saved.reloaded ns).anyName object) first
          = (loadInto ns reason kind objects first).insert (saved.reloaded ns).anyName object := by
        rw [loadInto_eq, loadInto_eq, Space.statusOf_insert, if_neg hname,
          Dict.insert_comm (Ne.symm hname)]
      rw [hfirst]
      refine ih hrest ?_
      rw [loadInto_eq, Space.statusOf_insert, if_neg (Ne.symm hname), hstatus]

end Saga

/-! ## Namespaces that are loaded again -/

/-- Storing values one after the other undoes what was stored before under one of their names. -/
theorem Dict.foldl_insert_insert {α β : Type} (key : β → String) (value : β → α) {xs : List β}
    {x : β} (hx : x ∈ xs) (dict : Dict α) (old : α) :
    xs.foldl (fun dict x => dict.insert (key x) (value x)) (dict.insert (key x) old) =
      xs.foldl (fun dict x => dict.insert (key x) (value x)) dict := by
  induction xs generalizing dict with
  | nil => cases hx
  | cons first rest ih =>
    rw [List.foldl_cons, List.foldl_cons]
    by_cases hname : key x = key first
    · rw [hname, Dict.insert_insert]
    · have hrest : x ∈ rest := by
        rcases List.mem_cons.1 hx with rfl | hrest
        · exact absurd rfl hname
        · exact hrest
      rw [Dict.insert_comm (Ne.symm hname), ih hrest]

namespace Space

variable {ns reason : String} {content : Bundle.Content} {kind : ManagedKind} {saved : Resource}
  {managed : Dict (Dict Resource)} {objects : Dict Resource}

/-- To load the objects of a kind is to store what comes of them, if there are any. -/
theorem loadKind_eq (hsaved : saved ∈ content.objects kind.name) :
    loadKind ns reason content managed kind = managed.insert kind.name
      ((content.objects kind.name).foldl (Saga.loadInto ns reason kind) (kind.among managed)) := by
  have hstored : ∀ (rest : List Resource) (objects : Dict Resource),
      rest.foldl (fun managed saved => managed.insert kind.name
        (Saga.loadInto ns reason kind (kind.among managed) saved))
          (managed.insert kind.name objects) =
        managed.insert kind.name (rest.foldl (Saga.loadInto ns reason kind) objects) := by
    intro rest
    induction rest with
    | nil => exact fun _ => rfl
    | cons next rest ih =>
      intro objects
      rw [List.foldl_cons, ManagedKind.among_insert, if_pos rfl, Dict.insert_insert, ih,
        List.foldl_cons]
  rw [loadKind]
  cases hobjects : content.objects kind.name with
  | nil => simp [hobjects] at hsaved
  | cons first rest => rw [List.foldl_cons, hstored, List.foldl_cons]

/-- Loading the objects of a kind does not depend on those of another. -/
theorem loadKind_insert {other : ManagedKind} (hne : other ≠ kind) :
    loadKind ns reason content (managed.insert kind.name objects) other =
      (loadKind ns reason content managed other).insert kind.name objects := by
  have hname : other.name ≠ kind.name := fun h => hne (ManagedKind.name_injective h)
  rw [loadKind, loadKind]
  generalize content.objects other.name = rest
  induction rest generalizing managed with
  | nil => rfl
  | cons next rest ih =>
    rw [List.foldl_cons, List.foldl_cons, ManagedKind.among_insert, if_neg (Ne.symm hne),
      Dict.insert_comm hname, ih]

/-- Loading all kinds undoes what was done to the objects of one, if loading those does. -/
theorem foldl_loadKind_insert {kinds : List ManagedKind} (hkind : kind ∈ kinds)
    (hsaved : saved ∈ content.objects kind.name)
    (hobjects : (content.objects kind.name).foldl (Saga.loadInto ns reason kind) objects =
      (content.objects kind.name).foldl (Saga.loadInto ns reason kind) (kind.among managed)) :
    kinds.foldl (loadKind ns reason content) (managed.insert kind.name objects) =
      kinds.foldl (loadKind ns reason content) managed := by
  induction kinds generalizing managed with
  | nil => cases hkind
  | cons first rest ih =>
    rw [List.foldl_cons, List.foldl_cons]
    by_cases hfirst : first = kind
    · subst hfirst
      rw [loadKind_eq hsaved, loadKind_eq hsaved, ManagedKind.among_insert, if_pos rfl, hobjects,
        Dict.insert_insert]
    · have hrest : kind ∈ rest := by
        rcases List.mem_cons.1 hkind with rfl | hrest
        · exact absurd rfl hfirst
        · exact hrest
      rw [loadKind_insert hfirst]
      refine ih hrest ?_
      rw [among_loadKind, if_neg hfirst, hobjects]

theorem loaded_withKind {space : Space} (hsaved : saved ∈ content.objects kind.name)
    (hobjects : (content.objects kind.name).foldl (Saga.loadInto ns reason kind) objects =
      (content.objects kind.name).foldl (Saga.loadInto ns reason kind)
        (space.ofKind kind.name)) :
    (space.withKind kind.name objects).loaded ns reason content = space.loaded ns reason content := by
  have hmanaged := foldl_loadKind_insert (ManagedKind.mem_all kind) hsaved hobjects
  simp only [loaded, withKind, hmanaged]

/-- A load undoes what any of its calls did before. -/
theorem loaded_perform {c : Call} (h : Saga.IsLoading ns reason content (.call c))
    (cluster : Cluster) :
    ((cluster.perform c).2.space ns).loaded ns reason content =
      (cluster.space ns).loaded ns reason content := by
  cases h with
  | @object kind saved hsaved =>
    refine (congrArg _ (Cluster.space_update ..)).trans (loaded_withKind hsaved ?_)
    rw [Saga.applied_eq]
    exact Saga.foldl_loadInto_insert hsaved (by rw [Resource.find?_fields_loadedOver, if_pos rfl])
  | @status kind saved patch hsaved hpatch =>
    cases hfind : ((cluster.space ns).ofKind kind.name).find? (saved.reloaded ns).anyName with
    | none => simp only [Cluster.perform, Cluster.modifyOrFail, hfind, Cluster.commit]
    | some stored =>
      rw [Saga.perform_patchManagedStatus hfind, Cluster.space_withSpace]
      refine loaded_withKind hsaved ?_
      rw [Dict.modify, hfind]
      refine Saga.foldl_loadInto_insert hsaved ?_
      rw [ManagedKind.find?_status_patched hpatch, ManagedKind.waitingOver_waitingOver, statusOf,
        hfind]
      rfl
  | @configMap saved hsaved =>
    refine (congrArg _ (Cluster.space_update ..)).trans ?_
    simp only [loaded, Dict.foldl_insert_insert (fun m : ConfigMap => (m.reloaded ns).anyName)
      (fun m => m.reloaded ns) hsaved]
  | @secret saved hsaved =>
    refine (congrArg _ (Cluster.space_update ..)).trans ?_
    simp only [loaded, Dict.foldl_insert_insert (fun s : Secret => (s.reloaded ns).anyName)
      (fun s => s.reloaded ns) hsaved]

theorem Agree.loaded {a b : Space} (h : Agree .content a b) (ns reason : String)
    (content : Bundle.Content) :
    Agree .content (a.loaded ns reason content) (b.loaded ns reason content) := by
  obtain ⟨hmanaged, hconfigMaps, hsecrets⟩ := h
  simp only [Agree, Space.loaded, hmanaged, hconfigMaps, hsecrets, and_self]

end Space

/-! ## Loads that are cut off -/

namespace Cluster

/-- How clock and cluster answer while nobody else writes the content of a namespace, but any call
may fail: it comes to nothing, or its answer is lost once it is performed. -/
inductive Faltering (ns : String) (cluster : Cluster) : Exchange → Cluster → Prop
  | answered {exchange : Exchange} {after : Cluster} (h : Undisturbed ns cluster exchange after) :
    Faltering ns cluster exchange after
  | failed {c : Call} {failure : Failure} :
    Faltering ns cluster ⟨.call c, .error failure⟩ cluster
  | lost {c : Call} {failure : Failure} :
    Faltering ns cluster ⟨.call c, .error failure⟩ (cluster.perform c).2

/-- The terms of a conversation while calls may fail. -/
abbrev faltering (ns : String) : Terms Query Query.Answer Cluster where
  answers := Faltering ns

variable {ns reason : String} {content : Bundle.Content} {cluster after : Cluster}
  {exchange : Exchange}

theorem agree_faltering (h : Faltering ns cluster exchange after)
    (hpart : exchange.1.part? ≠ some .content) :
    Agree .content (after.space ns) (cluster.space ns) := by
  cases h with
  | answered h => exact agree_undisturbed h hpart
  | failed => rfl
  | lost => exact agree_perform hpart cluster ns

/-- Whatever becomes of a call of a load, the next load undoes it. -/
theorem loaded_faltering (h : Faltering ns cluster exchange after)
    (hloading : Saga.IsLoading ns reason content exchange.1) :
    (after.space ns).loaded ns reason content = (cluster.space ns).loaded ns reason content := by
  cases h with
  | answered h =>
    cases h with
    | elsewhere hquestion =>
      exact absurd (.inl (by cases exchange; cases hloading <;> rfl)) hquestion
    | performed hperforms =>
      obtain ⟨question, answer⟩ := exchange
      cases question with
      | clock => cases hloading
      | call c =>
        have hafter : (answer, after) = cluster.perform c := hperforms
        rw [show after = (cluster.perform c).2 from congrArg Prod.snd hafter]
        exact Space.loaded_perform hloading cluster
  | failed => rfl
  | lost => exact Space.loaded_perform hloading cluster

end Cluster

namespace Saga

open Cluster (Faltering faltering undisturbed)

variable {settings : Settings} {ns name : String} {bundle : Bundle} {request : Request}
  {cluster cluster' : Cluster}

/-- A load asks to load objects, and nothing else of content. -/
theorem load_asks :
    Ensures (Terms.only fun question => IsLoading ns ("Restored by BackupRequest " ++ request.anyName)
        bundle.content question ∨ question.part? ≠ some .content)
      (load settings ns bundle) request () fun _ _ _ => True := by
  rw [load_eq, Activity.ensures_bind, Activity.ensures_get, Activity.then_ok]
  refine ((loadObjects_asks ns _ bundle.content).mono fun _ => .inl) request |>.bind ?_ ?_
  · intro _ copy _ _
    exact (concludeLoad_safe copy ()).widen fun _ => .inr
  · exact fun _ _ _ _ => trivial

/-- Loads of one bundle for requests of one name, one after the other, each of which goes as far as
it gets. Between two of them others may write, but not the content of the namespace. -/
inductive Attempts (settings : Settings) (ns name : String) (bundle : Bundle) (cluster : Cluster) :
    Cluster → Prop
  | start : Attempts settings ns name bundle cluster cluster
  | next {before after : Cluster} {request : Request} {transcript : List Exchange}
      {outcome : Except Failure Unit × Request}
      (h : Attempts settings ns name bundle cluster before) (hname : request.anyName = name)
      (hyields : (load settings ns bundle request).Yields transcript outcome)
      (hpath : Respondent.Path (Faltering ns) before transcript after) :
    Attempts settings ns name bundle cluster after
  | meanwhile {before after : Cluster} (h : Attempts settings ns name bundle cluster before)
      (hcontent : Agree .content (after.space ns) (before.space ns)) :
    Attempts settings ns name bundle cluster after

/-- What a load makes of the content of a namespace is the same after any attempts. -/
theorem Attempts.agree_loaded (h : Attempts settings ns name bundle cluster cluster') :
    Agree .content
      ((cluster'.space ns).loaded ns ("Restored by BackupRequest " ++ name) bundle.content)
      ((cluster.space ns).loaded ns ("Restored by BackupRequest " ++ name) bundle.content) := by
  induction h with
  | start => rfl
  | meanwhile h hcontent ih => exact (hcontent.loaded ns _ bundle.content).trans ih
  | @next before after request transcript outcome h hname hyields hpath ih =>
    subst hname
    have hkeeps : Ensures (faltering ns) (load settings ns bundle) request before fun _ _ after =>
        Agree .content
          ((after.space ns).loaded ns ("Restored by BackupRequest " ++ request.anyName)
            bundle.content)
          ((cluster.space ns).loaded ns ("Restored by BackupRequest " ++ request.anyName)
            bundle.content) := by
      refine (load_asks.preserves (fun after : Cluster => Agree .content
        ((after.space ns).loaded ns _ _) _) (fun _ _ _ _ => trivial) ?_ ih).mono
          fun _ _ _ hpost => hpost.2
      rintro between exchange after hkept (hloading | hpart) hanswer
      · rw [Cluster.loaded_faltering hanswer hloading]
        exact hkept
      · exact ((Cluster.agree_faltering hanswer hpart).loaded ns _ _).trans hkept
    exact hkeeps.ends hyields hpath

/-- Loads all objects of a bundle, from the first to the last, with nobody else around. -/
def loadAlone (ns name : String) (content : Bundle.Content) (cluster : Cluster) :
    Except Failure Unit × Cluster :=
  let ended := ((loadObjects ns ("Restored by BackupRequest " ++ name) content :
    Activity Unit Unit) ()).run (Cluster.respond default) cluster
  (ended.1.1, ended.2)

theorem loadAlone_spec (ns name : String) (content : Bundle.Content) (cluster : Cluster) :
    (loadAlone ns name content cluster).1 = .ok () ∧
      (loadAlone ns name content cluster).2.space ns =
        (cluster.space ns).loaded ns ("Restored by BackupRequest " ++ name) content := by
  obtain ⟨houtcome, -, hspace⟩ := Cluster.ends_run (loadObjects_changes () cluster) default
  exact ⟨houtcome, hspace⟩

/-- Each call of a load is one of those that the next load undoes. -/
theorem loaded_loadAlone (ns name : String) (content : Bundle.Content) (cluster : Cluster) :
    ((loadAlone ns name content cluster).2.space ns).loaded ns
        ("Restored by BackupRequest " ++ name) content =
      (cluster.space ns).loaded ns ("Restored by BackupRequest " ++ name) content := by
  have hkeeps : Ensures (faltering ns) (loadObjects ns ("Restored by BackupRequest " ++ name)
      content : Activity Unit Unit) () cluster fun _ s after => s = () ∧
        (after.space ns).loaded ns ("Restored by BackupRequest " ++ name) content =
          (cluster.space ns).loaded ns ("Restored by BackupRequest " ++ name) content :=
    (loadObjects_asks ns _ content).preserves (fun after : Cluster =>
        (after.space ns).loaded ns _ content = _) (fun _ _ _ _ => trivial)
      (fun _ _ _ hkept hloading hanswer =>
        (Cluster.loaded_faltering hanswer hloading).trans hkept) rfl
  exact (hkeeps.ends (Dialogue.yields_transcript (Cluster.respond default) _ cluster)
    (Dialogue.path_transcript _ (fun question cluster =>
      .answered (.performed (Cluster.performs_respond default question cluster))) _ _)).2

/-- Loads that are cut off come to the same as one that is not. After any attempts, each of which
may have ended at any call, a load of all objects succeeds and leaves the managed objects, config
maps and secrets that it would have left without them. To load all objects once more changes none of
these, nor does any later pass that loads, whatever becomes of machines and requests. -/
theorem load_converges (settings : Settings) (ns name : String) (bundle : Bundle)
    (cluster cluster' : Cluster) (h : Attempts settings ns name bundle cluster cluster') :
    let loaded := loadAlone ns name bundle.content cluster'
    loaded.1 = .ok () ∧
      Agree .content (loaded.2.space ns)
        ((loadAlone ns name bundle.content cluster).2.space ns) ∧
      Agree .content ((loadAlone ns name bundle.content loaded.2).2.space ns)
        (loaded.2.space ns) ∧
      ∀ request : Request, request.anyName = name →
        Ensures (undisturbed ns) (load settings ns bundle) request loaded.2 fun _ _ after =>
          Agree .content (after.space ns) (loaded.2.space ns) := by
  intro loaded
  obtain ⟨houtcome, hloaded⟩ := loadAlone_spec ns name bundle.content cluster'
  have hagain : (loaded.2.space ns).loaded ns ("Restored by BackupRequest " ++ name) bundle.content =
      loaded.2.space ns := (loaded_loadAlone ns name bundle.content cluster').trans hloaded.symm
  refine ⟨houtcome, ?_, ?_, ?_⟩
  · rw [hloaded, (loadAlone_spec ns name bundle.content cluster).2]
    exact h.agree_loaded
  · rw [(loadAlone_spec ns name bundle.content loaded.2).2, hagain]
  · rintro request rfl
    refine load_undisturbed.mono fun _ _ after hafter => ?_
    rwa [hagain] at hafter

/-- Clock and cluster that report every status as not written, whether it was or not. -/
def stumble (written : Bool) : (question : Query) → Cluster → question.Answer × Cluster
  | .call (.patchManagedStatus ns kind name patch), cluster =>
    (.error (.api "connection closed"),
      if written then (cluster.perform (.patchManagedStatus ns kind name patch)).2 else cluster)
  | question, cluster => Cluster.respond default question cluster

theorem faltering_stumble (ns : String) (written : Bool) (question : Query) (cluster : Cluster) :
    Faltering ns cluster ⟨question, (stumble written question cluster).1⟩
      (stumble written question cluster).2 := by
  cases question with
  | clock => exact .answered (.performed rfl)
  | call c =>
    cases c with
    | patchManagedStatus ns' kind name patch =>
      cases written
      · exact .failed
      · exact .lost
    | _ => exact .answered (.performed rfl)

/-- The cluster after a load that stumbles over the first status. -/
def stumbled (written : Bool) (cluster : Cluster) : (Except Failure Unit × Request) × Cluster :=
  (load {} "cloud" doubledBundle restingRequest).run (stumble written) cluster

/-- A configured network is loaded, but not told to wait; the next load tells it to wait, but does
not find out. The third load comes to what the first one would have come to. -/
theorem doubledBundle_converges :
    let first := stumbled false restingCluster
    let second := stumbled true first.2
    let whole := loadAlone "cloud" "nightly" doubledBundle.content restingCluster
    let third := loadAlone "cloud" "nightly" doubledBundle.content second.2
    first.1.1.isOk = false ∧ second.1.1.isOk = false ∧
      (first.2.space "cloud").managed ≠ (second.2.space "cloud").managed ∧
      (second.2.space "cloud").managed ≠ (whole.2.space "cloud").managed ∧
      third.1 = .ok () ∧ Agree .content (third.2.space "cloud") (whole.2.space "cloud") := by
  intro first second whole third
  have hattempt : ∀ (written : Bool) {cluster : Cluster},
      Attempts {} "cloud" "nightly" doubledBundle restingCluster cluster →
      Attempts {} "cloud" "nightly" doubledBundle restingCluster (stumbled written cluster).2 :=
    fun written cluster h => h.next (show restingRequest.anyName = "nightly" by decide +kernel)
      (Dialogue.yields_transcript (stumble written) _ cluster)
      (Dialogue.path_transcript _ (faltering_stumble "cloud" written) _ cluster)
  obtain ⟨houtcome, hagree, -⟩ := load_converges {} "cloud" "nightly" doubledBundle restingCluster
    second.2 (hattempt true (hattempt false .start))
  exact ⟨by decide +kernel, by decide +kernel, by decide +kernel, by decide +kernel, houtcome, hagree⟩

end Saga

end NamespaceBackup
