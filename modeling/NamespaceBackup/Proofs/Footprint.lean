import NamespaceBackup.Proofs.Keys
import NamespaceBackup.Proofs.Permits
import NamespaceBackup.Proofs.Versions

/-!
# The footprint of a run

A save writes its own status, markers and a bundle, and powers machines on and off. A restore that
deletes nothing does the same without a bundle, and loads what its bundle has. Whatever a pass writes
besides its request, markers and bundles it was told of in that very pass: a save of the machines of
the sets that it listed, a restore of what its bundle lists. All other objects stay as they are, in
the namespace of the request and in all others.

## Main definitions

* `Bundle.Content.Lists`: the objects and machines that a bundle is about
* `Machine.SameButPower`: a machine that was at most powered on or off
* `Footprint.Told`: what a pass was told that it may write to
* `Footprint.Stays`: a call within the footprint of its request

## Main results

* `Footprint.reconcile_stays`: the calls of a pass are within its footprint
* `Footprint.run_frame`: what a run leaves as it is, and what is left of the rest
-/

namespace NamespaceBackup

open Activity (Maintains)
open Cluster (Beside Untouched home)
open Saga
open Space (Key)

/-- The objects that a bundle has, and the machines of its sets. -/
def Bundle.Content.Lists (content : Bundle.Content) : Key → Prop
  | .managed kind name =>
    ∃ saved ∈ content.objects kind.name, saved.metadata.name.getD "" = name
  | .configMap name => ∃ saved ∈ content.configMaps, saved.metadata.name.getD "" = name
  | .secret name => ∃ saved ∈ content.secrets, saved.metadata.name.getD "" = name
  | .machine name =>
    ∃ set ∈ content.objects ManagedKind.vmSet.name, name ∈ MachineSet.members set
  | .bundle _ | .marker .. | .request _ => False

/-! ## Power -/

namespace Machine

/-- The fields by which a machine asks to run. -/
def powerFields : List String := ["running", "runStrategy"]

/-- A patch that changes nothing but whether a machine asks to run. -/
def IsPower (patch : Json) : Prop :=
  ∃ power, patch = .object [("spec", .object power)] ∧ ∀ field ∈ power, field.1 ∈ powerFields

theorem isPower_powerOn : IsPower powerOn := ⟨_, rfl, by simp [powerFields]⟩

theorem isPower_powerOff : IsPower powerOff := ⟨_, rfl, by simp [powerFields]⟩

/-- Two objects of a machine, each with a spec that has fields, that agree in everything but whether
the machine asks to run. -/
structure SameButPower (before after : Resource) : Prop where
  types : after.types = before.types
  metadata : after.metadata = before.metadata
  fields : ∀ name, name ≠ "spec" → after.fields.find? name = before.fields.find? name
  spec : ∃ old new, before.fields.find? "spec" = some (.obj old) ∧
    after.fields.find? "spec" = some (.obj new) ∧
    ∀ name, name ∉ powerFields → Assoc.find? name new = Assoc.find? name old

variable {before between after : Resource} {fields : List (String × Json)} {patch : Json}

theorem SameButPower.refl (h : before.fields.find? "spec" = some (.obj fields)) :
    SameButPower before before :=
  ⟨rfl, rfl, fun _ _ => rfl, fields, fields, h, h, fun _ _ => rfl⟩

theorem SameButPower.trans (h : SameButPower before between) (h' : SameButPower between after) :
    SameButPower before after where
  types := h'.types.trans h.types
  metadata := h'.metadata.trans h.metadata
  fields name hname := (h'.fields name hname).trans (h.fields name hname)
  spec := by
    obtain ⟨old, middle, hold, hmiddle, hsame⟩ := h.spec
    obtain ⟨middle', new, hmiddle', hnew, hsame'⟩ := h'.spec
    cases hmiddle.symm.trans hmiddle'
    exact ⟨old, new, hold, hnew, fun name hname => (hsame' name hname).trans (hsame name hname)⟩

/-- Powering a machine on or off leaves all else in its object as it is. -/
theorem sameButPower_patched (hspec : before.fields.find? "spec" = some (.obj fields))
    (hpower : IsPower patch) : SameButPower before (before.patched patch) := by
  obtain ⟨power, rfl, hpower⟩ := hpower
  have hfind (name : String) := Resource.find?_patched before
    (Dict.ofList [("spec", Json.object power)]).ascending name
  have hentry (name : String) : Assoc.find? name (Dict.ofList [("spec", Json.object power)]).entries =
      if "spec" = name then some (Json.object power) else none := Dict.find?_insert ..
  refine ⟨rfl, rfl, fun name hname => ?_, fields,
    Json.mergeFields fields (Dict.ofList power).entries, hspec, ?_, fun name hname => ?_⟩
  · have hother := hfind name
    rwa [hentry, if_neg hname.symm] at hother
  · have hpatched := hfind "spec"
    rw [hentry, if_pos rfl, hspec] at hpatched
    exact hpatched
  · rw [Json.find?_mergeFields (Dict.ofList power).ascending]
    have hnone : Assoc.find? name (Dict.ofList power).entries = none := by
      refine Assoc.find?_eq_none fun field hfield heq => hname ?_
      exact heq ▸ hpower field (Dict.mem_of_mem_ofList hfield)
    rw [hnone]

end Machine

open Machine (IsPower SameButPower)

/-- A machine that is powered on and off by whoever may, and written by nobody else, stays the same
apart from that. -/
theorem Cluster.exists_sameButPower {ns name : String} {cluster after : Cluster}
    {exchanges : List Exchange} {machine : Resource} {fields : List (String × Json)}
    (hpath : Respondent.Path (Beside ns (.machine name)) cluster exchanges after)
    (hpower : ∀ exchange ∈ exchanges, ∀ patch,
      exchange.1 = .call (.patchMachine ns name patch) → IsPower patch)
    (hmachine : (cluster.space ns).machines.find? name = some machine)
    (hspec : machine.fields.find? "spec" = some (.obj fields)) :
    ∃ machine', (after.space ns).machines.find? name = some machine' ∧
      SameButPower machine machine' := by
  refine hpath.invariant_of_mem (fun after => ∃ machine',
    (after.space ns).machines.find? name = some machine' ∧ SameButPower machine machine')
    ⟨machine, hmachine, .refl hspec⟩ ?_
  rintro cluster exchange after hmem ⟨machine', hfind, hsame⟩ hbeside
  by_cases hpatch : ∃ patch, exchange.1 = .call (.patchMachine ns name patch)
  swap
  · refine ⟨machine', ?_, hsame⟩
    refine Eq.trans (hbeside.lookup?_eq fun c hc hns hkey => hpatch ?_) hfind
    cases c with
    | patchMachine place name' patch =>
      cases hkey
      obtain rfl : place = ns := hns
      exact ⟨patch, hc⟩
    | _ => cases hkey
  · obtain ⟨patch, hpatch⟩ := hpatch
    cases hbeside with
    | passed h => exact ⟨machine', Eq.trans h hfind, hsame⟩
    | performed h =>
      cases hpatch
      obtain ⟨-, _, -, hfields, -⟩ := hsame.spec
      refine ⟨machine'.patched patch, ?_, hsame.trans
        (Machine.sameButPower_patched hfields (hpower _ hmem patch rfl))⟩
      refine Eq.trans h ?_
      rw [perform, modifyOrFail, hfind]
      simp [Space.lookup?, commit]

namespace Footprint

/-! ## Calls within a footprint -/

/-- What a pass was told that it may write to, by what it has heard: a save of the machines of the sets
that are listed, a restore of what its bundle lists. -/
def Told (ns : String) (heard : Exchange → Prop) : Mode → Key → Prop
  | .save, key => ∃ name sets, key = .machine name ∧
    heard ⟨.call (.listManaged ns .vmSet), (.ok sets : Except Failure (List Resource))⟩ ∧
    ∃ set ∈ sets, name ∈ MachineSet.members set
  | .restore, key | .cleanRestore, key => ∃ source bundle,
    heard ⟨.call (.getBundle ns source),
      (.ok (some bundle) : Except Failure (Option Bundle))⟩ ∧
    bundle.content.Lists key

/-- A state in which a request of some mode deletes nothing. -/
def Spares (mode : Mode) (state : State) : Prop := mode.isRestore = true → state ≠ .cleaning

/-- A version of a request that deletes nothing. -/
structure Sparing (first copy : Request) : Prop where
  version : first.IsVersionOf copy
  spares : Spares first.spec.mode copy.state

/-- A call that writes only in the namespace of its request, no content and no machine but what was
told of, and to a machine only whether it asks to run. -/
structure Stays (first : Request) (heard : Exchange → Prop) (c : Call) : Prop where
  place : ∀ key, c.key? = some key → c.ns = home first
  told : ∀ key, c.key? = some key → key.part = .content ∨ key.part = .machines →
    Told (home first) heard first.spec.mode key
  power : ∀ ns machine patch, c = .patchMachine ns machine patch → IsPower patch
  spares : ∀ written, c = .updateStatus written → Spares first.spec.mode written.state

/-- The terms on which the calls of a pass are within its footprint, if what is stored is what was
written. -/
abbrev terms (first : Request) (heard : Exchange → Prop) : Terms Query Query.Answer Unit where
  asks _ question := ∀ c, question = .call c → Stays first heard c
  answers _ exchange _ := heard exchange ∧ ∀ written stored,
    exchange = ⟨.call (.updateStatus written), (.ok stored : Except Failure Request)⟩ →
      first.IsVersionOf stored ∧ stored.status = written.status

variable {first copy : Request} {heard : Exchange → Prop} {settings : Settings}
  {ns name marker reason : String} {question : Query} {state : State} {c : Call}

/-- What writes nothing is within every footprint. -/
theorem stays_of_reads (h : c.key? = none) : Stays first heard c where
  place _ hkey := by
    rw [h] at hkey
    cases hkey
  told _ hkey := by
    rw [h] at hkey
    cases hkey
  power _ _ _ heq := by
    subst heq
    cases h
  spares _ heq := by
    subst heq
    cases h

/-- What writes neither a machine nor a request need not say what it writes. -/
theorem stays_of_writes (key : Key) (hkey : c.key? = some key) (hplace : c.ns = home first)
    (hmachines : key.part ≠ .machines) (hrequests : key.part ≠ .requests)
    (htold : key.part = .content → Told (home first) heard first.spec.mode key) :
    Stays first heard c where
  place _ _ := hplace
  told key' hkey' hpart := by
    obtain rfl : key = key' := Option.some.inj (hkey.symm.trans hkey')
    exact htold (hpart.resolve_right hmachines)
  power _ _ _ heq := by
    subst heq
    cases hkey
    exact absurd rfl hmachines
  spares _ heq := by
    subst heq
    cases hkey
    exact absurd rfl hrequests

theorem stays_patchMachine {machine : String} {patch : Json}
    (htold : Told (home first) heard first.spec.mode (.machine machine)) (hpower : IsPower patch) :
    Stays first heard (.patchMachine (home first) machine patch) where
  place _ _ := rfl
  told _ hkey _ := by
    cases hkey
    exact htold
  power _ _ _ heq := by
    cases heq
    exact hpower
  spares _ heq := by cases heq

theorem stays_updateStatus {written : Request} (hplace : home written = home first)
    (hspares : Spares first.spec.mode written.state) : Stays first heard (.updateStatus written) where
  place _ _ := hplace
  told _ hkey hpart := by
    cases hkey
    simp [Key.part] at hpart
  power _ _ _ heq := by cases heq
  spares _ heq := by
    cases heq
    exact hspares

theorem stays_of_clock : ∀ c, Query.clock = .call c → Stays first heard c := by
  rintro c ⟨⟩

theorem stays_of_isListing {selector : String} (h : Inventory.IsListing ns selector question) :
    ∀ c, question = .call c → Stays first heard c := by
  rintro c rfl
  cases h <;> exact stays_of_reads rfl

theorem stays_of_isBundling {inventory : Inventory} {recorded : Dict String}
    (h : IsBundling settings (home first) name marker inventory recorded question) :
    ∀ c, question = .call c → Stays first heard c := by
  rintro c rfl
  cases h with
  | find => exact stays_of_reads rfl
  | create seconds =>
    refine stays_of_writes (.bundle _) rfl rfl ?_ ?_ ?_ <;> simp [Key.part]

theorem stays_of_isImaging {task : Imaging.Task} {machines : List String}
    (htold : ∀ machine ∈ machines, Told (home first) heard first.spec.mode (.machine machine))
    (h : Imaging.IsImaging settings ⟨home first, name, marker⟩ task machines question) :
    ∀ c, question = .call c → Stays first heard c := by
  rintro c rfl
  cases h with
  | list => exact stays_of_reads rfl
  | handle h =>
    cases h with
    | powerOn hmachine => exact stays_patchMachine (htold _ hmachine) Machine.isPower_powerOn
    | powerOff hmachine => exact stays_patchMachine (htold _ hmachine) Machine.isPower_powerOff
    | mark => refine stays_of_writes (.marker _ _) rfl rfl ?_ ?_ ?_ <;> simp [Key.part]
    | read | command => exact stays_of_reads rfl

theorem stays_of_isLoading {content : Bundle.Content}
    (htold : ∀ key, content.Lists key → Told (home first) heard first.spec.mode key)
    (h : IsLoading (home first) reason content question) :
    ∀ c, question = .call c → Stays first heard c := by
  -- Every object is loaded under the name that the bundle lists it under.
  have hload {c : Call} (key : Key) (hkey : c.key? = some key) (hplace : c.ns = home first)
      (hcontent : key.part = .content) (hlists : content.Lists key) : Stays first heard c :=
    stays_of_writes key hkey hplace (by simp [hcontent]) (by simp [hcontent]) fun _ => htold _ hlists
  have hname (m : Metadata) : m.name.getD "" = (m.reloaded (home first)).anyName := by
    cases hname : m.name <;> simp [Metadata.anyName, Metadata.reloaded, hname]
  rintro c rfl
  cases h with
  | object hsaved | status hsaved => exact hload (.managed _ _) rfl rfl rfl ⟨_, hsaved, hname _⟩
  | configMap hsaved => exact hload (.configMap _) rfl rfl rfl ⟨_, hsaved, hname _⟩
  | secret hsaved => exact hload (.secret _) rfl rfl rfl ⟨_, hsaved, hname _⟩

/-! ## Passes -/

theorem Sparing.home_eq (h : Sparing first copy) : home copy = home first :=
  congrArg (·.getD "") h.version.ns

theorem eq_home_of_lives (h : Lives (Sparing first) ns) : ns = home first := by
  obtain ⟨copy, hcopy, hns⟩ := h
  rw [← hcopy.home_eq, home, requestNamespace_eq_ok.1 hns, Option.getD_some]

/-- What every pass asks is within its footprint, and no status that it writes makes it delete
anything. -/
theorem permits : Permits (terms first heard) settings (Sparing first) where
  clock := stays_of_clock
  listing _ _ := stays_of_isListing
  status copy status hcopy hstate := by
    refine ⟨⟨hcopy.version.name, hcopy.version.ns, hcopy.version.created, hcopy.version.mode⟩, ?_⟩
    intro hrestore
    rcases hstate with hsame | hne
    · exact fun hcleaning => hcopy.spares hrestore (hsame.symm.trans hcleaning)
    · exact hne
  write written hwritten := by
    refine ⟨fun c hc => ?_, fun stored hstored => ?_⟩
    · cases hc
      exact stays_updateStatus hwritten.home_eq hwritten.spares
    · obtain ⟨hversion, hstatus⟩ := hstored.2 _ _ rfl
      refine ⟨hversion, ?_⟩
      rw [Request.state, Versions.currentStatus_congr hstatus]
      exact hwritten.spares

theorem permitsSave (hmode : first.spec.mode = .save) :
    PermitsSave (terms first heard) settings (Sparing first) where
  toPermits := permits
  bundling _ _ _ _ _ _ _ hlives _ hbundling := by
    obtain rfl := eq_home_of_lives hlives
    exact stays_of_isBundling hbundling
  imaging _ _ _ sets _ _ hlives _ hanswer himaging := by
    obtain rfl := eq_home_of_lives hlives
    refine stays_of_isImaging (fun machine hmachine => ?_) himaging
    obtain ⟨set, hset, hmember⟩ := List.mem_flatMap.1 hmachine
    rw [hmode]
    exact ⟨machine, sets, rfl, hanswer.1, set, hset, hmember⟩

theorem permitsRestore (hmode : first.spec.mode = .restore) :
    PermitsRestore (terms first heard) settings (Sparing first) := by
  have htold {bundle : Bundle} (hfinds : Finds (terms first heard) (home first) bundle) (key : Key)
      (hkey : bundle.content.Lists key) : Told (home first) heard first.spec.mode key := by
    obtain ⟨source, hanswer⟩ := hfinds
    rw [hmode]
    exact ⟨source, bundle, hanswer.1, hkey⟩
  refine ⟨permits, fun ns source _ c hc => ?_, fun ns reason bundle question hlives hfinds hloading => ?_,
    fun copy ns marker bundle question _ hlives _ hfinds himaging => ?_⟩
  · cases hc
    exact stays_of_reads rfl
  · obtain rfl := eq_home_of_lives hlives
    exact stays_of_isLoading (htold hfinds) hloading
  · obtain rfl := eq_home_of_lives hlives
    exact stays_of_isImaging (fun machine hmachine =>
      htold hfinds _ (List.mem_flatMap.1 hmachine)) himaging

/-- A pass that deletes nothing stays within its footprint, and its request will not delete anything. -/
theorem reconcile_stays (htrack : first.spec.mode = .save ∨ first.spec.mode = .restore) :
    Maintains (terms first heard) (Sparing first) (reconcile settings) := by
  intro copy hcopy
  refine permits.reconcile hcopy ?_
  rw [hcopy.version.mode]
  rcases htrack with hmode | hmode
  · rw [hmode]
    exact (permitsSave hmode).savePass copy hcopy
  · rw [hmode]
    have hspared (copy : Request) (hcopy : Sparing first copy) : copy.state ≠ .cleaning :=
      hcopy.spares (by rw [hmode]; rfl)
    refine (permitsRestore hmode).restorePass hcopy (fun hclean => ?_) fun copy _ hcopy _ hcleaning =>
      absurd hcleaning (hspared copy hcopy)
    rw [hcopy.version.mode, hmode] at hclean
    cases hclean

/-! ## Runs -/

section Runs

variable {transcripts : List (List Exchange)} {versions versions' : List Request}
  {earlier before : List Exchange}

/-- What others write brings no version that deletes anything. -/
theorem sparing_of_edits (h : Versions.Edits first.IsVersionOf versions versions')
    (hall : ∀ request ∈ versions, Sparing first request) :
    ∀ request ∈ versions', Sparing first request := by
  intro request hrequest
  have hedits := h.all (Q := fun status => Spares first.spec.mode status.state)
    fun request hrequest => ⟨(hall request hrequest).version, (hall request hrequest).spares⟩
  exact ⟨(hedits.2 request hrequest).1, (hedits.2 request hrequest).2⟩

/-- Neither does what a pass writes within its footprint. -/
theorem sparing_of_answers {exchange : Exchange}
    (h : (Versions.surroundings first.IsVersionOf).answers versions exchange versions')
    (hstays : ∀ c, exchange.1 = .call c → Stays first heard c)
    (hall : ∀ request ∈ versions, Sparing first request) :
    ∀ request ∈ versions', Sparing first request := by
  obtain ⟨between, hedits, hanswers⟩ := h
  have hbetween := sparing_of_edits hedits hall
  have hafter := hanswers.all (Q := fun status => Spares first.spec.mode status.state)
    (fun request hrequest => ⟨(hbetween request hrequest).version, (hbetween request hrequest).spares⟩)
    fun written heq => (hstays _ heq).spares written rfl
  exact fun request hrequest => ⟨(hafter.2 request hrequest).1, (hafter.2 request hrequest).2⟩

/-- What is stored is what was written. -/
theorem answers_of_surroundings {exchange : Exchange}
    (h : (Versions.surroundings first.IsVersionOf).answers versions exchange versions')
    (hheard : heard exchange) : (terms first heard).answers () exchange () := by
  refine ⟨hheard, ?_⟩
  rintro written stored rfl
  exact ⟨Versions.version_of_answers h, Versions.status_eq_of_answers h⟩

/-- If a request deletes nothing at first, no version of it does. -/
theorem sparing_of_runs
    (hrun : Runs (Versions.surroundings first.IsVersionOf) settings [first] transcripts versions)
    (htrack : first.spec.mode = .save ∨ first.spec.mode = .restore)
    (hstart : Spares first.spec.mode first.state) :
    ∀ request ∈ versions, Sparing first request := by
  refine hrun.invariant (fun versions => ∀ request ∈ versions, Sparing first request) ?_
    (fun _ _ hall hedits => sparing_of_edits hedits hall) fun versions copy hall hcopy => ?_
  · intro request hrequest
    obtain rfl := List.mem_singleton.1 hrequest
    exact ⟨.refl request, hstart⟩
  have hstays : Maintains (terms first fun _ => True) (Sparing first) (reconcile settings) :=
    reconcile_stays htrack
  refine (Dialogue.Ensures.transfer (fun _ versions => ∀ request ∈ versions, Sparing first request)
    (fun _ _ _ _ _ => trivial) (fun _ versions exchange versions' hall hasked hanswers =>
      ⟨(), answers_of_surroundings hanswers trivial, sparing_of_answers hanswers hasked hall⟩)
    (hstays copy (hall copy hcopy)) hall).mono fun _ _ ⟨_, hafter, _⟩ => hafter

/-- Every call of a run is within the footprint of its pass. -/
theorem stays_of_asked
    (hrun : Runs (Versions.surroundings first.IsVersionOf) settings [first] transcripts versions)
    (htrack : first.spec.mode = .save ∨ first.spec.mode = .restore)
    (hstart : Spares first.spec.mode first.state)
    (hasked : Asked transcripts earlier before (.call c)) : Stays first (· ∈ before) c := by
  obtain ⟨copy, hover⟩ := hrun.exists_copy hasked
  cases hover with
  | intro hrun hedits hgives hpass hpath =>
    have hcopy := sparing_of_edits hedits (sparing_of_runs hrun htrack hstart) copy hgives
    have hbefore : (terms first (· ∈ before)).answers.Path () before () := by
      refine Activity.path_hearing fun exchange hexchange => ?_
      obtain ⟨_, _, hanswers⟩ := hpath.exists_of_mem hexchange
      exact answers_of_surroundings hanswers hexchange
    have hstays : Maintains (terms first (· ∈ before)) (Sparing first) (reconcile settings) :=
      reconcile_stays htrack
    exact Dialogue.Ensures.asked (hstays copy hcopy) hpass hbefore c rfl

/-- What was told by some exchanges is told by more of them. -/
theorem Told.mono {mode : Mode} {key : Key} {exchanges : List Exchange}
    (h : Told ns (· ∈ before) mode key) (hsub : before ⊆ exchanges) :
    Told ns (· ∈ exchanges) mode key := by
  cases mode with
  | save =>
    obtain ⟨name, sets, hname, hsets, hmember⟩ := h
    exact ⟨name, sets, hname, hsub hsets, hmember⟩
  | restore | cleanRestore =>
    obtain ⟨source, bundle, hbundle, hlists⟩ := h
    exact ⟨source, bundle, hsub hbundle, hlists⟩

/-- A run of a save, in whatever state it begins, or of a restore that does not begin in the cleaning
state, such as one without a status, may be held with any cluster, other writers and failures. It
leaves all other namespaces as they are, and in its own a save leaves all managed objects, config maps
and secrets as they are, a restore those that no bundle has that it read. A save patches members of
the sets of machines that it listed before, a restore members of the sets in its bundle. Of a machine
with a spec nothing changes but what asks it to run. -/
theorem run_frame
    (hrun : Runs (Versions.surroundings first.IsVersionOf) settings [first] transcripts versions)
    (htrack : first.spec.mode = .save ∨ first.spec.mode = .restore ∧ first.state ≠ .cleaning) :
    (∀ ns key, (ns = home first → key.part = .content ∧ (first.spec.mode = .restore →
        ∀ source bundle, ⟨.call (.getBundle (home first) source),
          (.ok (some bundle) : Except Failure (Option Bundle))⟩ ∈ transcripts.flatten →
            ¬ bundle.content.Lists key)) →
      Untouched ns key transcripts.flatten) ∧
    (∀ earlier before ns machine patch,
      Asked transcripts earlier before (.call (.patchMachine ns machine patch)) →
      ns = home first ∧
      (first.spec.mode = .save → ∃ sets, ⟨.call (.listManaged ns .vmSet),
        (.ok sets : Except Failure (List Resource))⟩ ∈ before ∧
          ∃ set ∈ sets, machine ∈ MachineSet.members set) ∧
      (first.spec.mode = .restore → ∃ source bundle, ⟨.call (.getBundle ns source),
        (.ok (some bundle) : Except Failure (Option Bundle))⟩ ∈ before ∧
          ∃ set ∈ bundle.content.objects ManagedKind.vmSet.name,
            machine ∈ MachineSet.members set)) ∧
    ∀ ns name cluster after machine spec,
      Respondent.Path (Beside ns (.machine name)) cluster transcripts.flatten after →
      (cluster.space ns).machines.find? name = some machine →
      machine.fields.find? "spec" = some (.obj spec) →
      ∃ machine', (after.space ns).machines.find? name = some machine' ∧
        SameButPower machine machine' := by
  have hmode : first.spec.mode = .save ∨ first.spec.mode = .restore := htrack.imp_right And.left
  have hstart : Spares first.spec.mode first.state := by
    rcases htrack with hsave | ⟨-, hstate⟩
    · rw [hsave]
      exact nofun
    · exact fun _ => hstate
  have hstays : ∀ {earlier before c}, Asked transcripts earlier before (.call c) →
      Stays first (· ∈ before) c := stays_of_asked hrun hmode hstart
  have hmem : ∀ exchange ∈ transcripts.flatten, ∀ c, exchange.1 = .call c →
      ∃ earlier before, Asked transcripts earlier before (.call c) := fun exchange hexchange c hc =>
    exists_asked_of_mem (hc ▸ List.mem_map_of_mem hexchange)
  refine ⟨fun ns key hspared => ?_, fun earlier before ns machine patch hasked => ?_,
    fun ns name cluster after machine spec hpath hmachine hspec => ?_⟩
  · refine Cluster.untouched_of_mem fun exchange hexchange c hc hns hkey => ?_
    obtain ⟨earlier, before, hasked⟩ := hmem exchange hexchange c hc
    obtain ⟨hcontent, hunlisted⟩ := hspared (hns.symm.trans ((hstays hasked).place key hkey))
    have htold := ((hstays hasked).told key hkey (.inl hcontent)).mono hasked.before_subset
    rcases hmode with hmode | hmode <;> rw [hmode] at htold
    · obtain ⟨name, _, rfl, -⟩ := htold
      cases hcontent
    · obtain ⟨source, bundle, hbundle, hlists⟩ := htold
      exact hunlisted hmode source bundle hbundle hlists
  · obtain rfl : ns = home first := (hstays hasked).place _ rfl
    have htold := (hstays hasked).told _ rfl (.inr rfl)
    refine ⟨rfl, fun hmode => ?_, fun hmode => ?_⟩ <;> rw [hmode] at htold
    · obtain ⟨_, sets, heq, hsets, hmember⟩ := htold
      cases heq
      exact ⟨sets, hsets, hmember⟩
    · exact htold
  · refine Cluster.exists_sameButPower hpath (fun exchange hexchange patch hpatch => ?_) hmachine hspec
    obtain ⟨earlier, before, hasked⟩ := hmem exchange hexchange _ hpatch
    exact (hstays hasked).power ns name patch rfl

end Runs

/-! ## A restore beside others -/

/-- A request to restore with images. -/
def revive : Request where
  metadata := { name := some "revive", ns := some "cloud", creationTimestamp := some ⟨5, false⟩ }
  spec := { mode := .restore, includeImages := true, restoreSource := some "nightly-7" }

/-- A bundle of a config map and of a set with one machine. -/
def nightlyBundle : Bundle where
  metadata := { name := some "nightly-7" }
  content :=
    { resources := .ofList [(ManagedKind.vmSet.name, [{
        metadata := { name := some "computes" }
        fields := .ofList [("status", .object [("vmHosts", .object [("vm-0", .object [])])])] }])]
      configMaps := [{ metadata := { name := some "inventory" } }]
      snapshotNames := .ofList [("vm-0", "vm-0-nightly-0")] }

/-- Has the bundle, accepts whatever is loaded, and has every machine running. -/
def serve : (question : Query) → List Request → question.Answer × List Request
  | .call (.getBundle _ _), versions =>
    ((.ok (some nightlyBundle) : Except Failure (Option Bundle)), versions)
  | .call (.applyManaged _ _ _), versions => ((.ok () : Except Failure Unit), versions)
  | .call (.patchManagedStatus _ _ _ _), versions => ((.ok () : Except Failure Unit), versions)
  | .call (.applyConfigMap _ _), versions => ((.ok () : Except Failure Unit), versions)
  | question, versions => Versions.respond revive (fun _ => []) [] question versions

theorem answers_serve (question : Query) (versions : List Request) :
    (Versions.surroundings revive.IsVersionOf).answers versions
      ⟨question, (serve question versions).1⟩ (serve question versions).2 := by
  have hversion : ∀ status, revive.IsVersionOf { revive with status } := fun _ => ⟨rfl, rfl, rfl, rfl⟩
  cases question with
  | clock => exact Versions.answers_respond hversion (fun _ => []) [] .clock versions
  | call c =>
    cases c with
    | getBundle | applyManaged | patchManagedStatus | applyConfigMap =>
      exact ⟨versions, .none, .other (by simp)⟩
    | _ => exact Versions.answers_respond hversion (fun _ => []) [] _ versions

/-- The first pass of the restore. -/
def revival : List Exchange := (reconcile {} revive).transcript serve [revive]

/-- The only bundle that the pass reads is the one that there is. -/
theorem eq_nightlyBundle {source : String} {bundle : Bundle}
    (h : ⟨.call (.getBundle ns source),
      (.ok (some bundle) : Except Failure (Option Bundle))⟩ ∈ revival) : bundle = nightlyBundle := by
  have hpath := Dialogue.path_transcript (R := fun versions exchange _ =>
      exchange.2 = (serve exchange.1 versions).1) serve (fun _ _ => rfl) (reconcile {} revive) [revive]
  obtain ⟨_, _, hanswer⟩ := hpath.exists_of_mem h
  cases hanswer
  rfl

/-- The restore powers its machine off and leaves alone what else the machine is made of, and a config
map that is not in the bundle. -/
theorem revive_frame :
    Untouched "cloud" (.configMap "bystander") revival ∧
    Query.call (.patchMachine "cloud" "vm-0" Machine.powerOff) ∈ revival.map Sigma.fst ∧
    ∀ cluster after, Respondent.Path (Beside "cloud" (.machine "vm-0")) cluster revival after →
      (cluster.space "cloud").machines.find? "vm-0" = some Versions.running →
      ∃ machine, (after.space "cloud").machines.find? "vm-0" = some machine ∧
        SameButPower Versions.running machine := by
  have hrun : Runs (Versions.surroundings revive.IsVersionOf) {} [revive] [revival]
      ((reconcile {} revive).run serve [revive]).2 :=
    runs_transcript answers_serve .none (List.mem_singleton_self revive)
  obtain ⟨huntouched, -, hmachine⟩ := run_frame hrun (.inr ⟨rfl, by decide⟩)
  rw [List.flatten_singleton] at huntouched hmachine
  refine ⟨huntouched "cloud" _ fun _ => ⟨rfl, fun _ source bundle hbundle => ?_⟩, by decide +kernel,
    fun cluster after hpath hfind => hmachine "cloud" "vm-0" cluster after Versions.running
      _ hpath hfind rfl⟩
  obtain rfl := eq_nightlyBundle hbundle
  rintro ⟨saved, hsaved, hname⟩
  obtain rfl := List.mem_singleton.1 hsaved
  exact absurd hname (by decide)

end Footprint

end NamespaceBackup
