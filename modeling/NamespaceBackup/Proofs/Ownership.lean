import NamespaceBackup.Controller.Watch
import NamespaceBackup.Proofs.Labels
import NamespaceBackup.Proofs.Permits
import NamespaceBackup.Proofs.Saving

/-!
# Whose an object is

Whatever a pass makes bears the marker and the name of its request, and whatever it looks for it
looks for by the marker. A marker is a name and a second with a dash between them. Names may have
dashes and digits of their own, but the second is written without a dash, so a marker tells both. So
no request finds what another one made, even one of the same name, and from the labels of an object
the request is found that made it.

## Main definitions

* `Request.identity`: what tells requests apart
* `Ownership.made?`, `Ownership.sought?`: what a question makes, and what it looks for
* `Ownership.Bears`: metadata with the labels of a request
* `Ownership.Covers`: the questions that a pass asks while it stays the same request

## Main results

* `Request.marker_inj`: a marker tells the name and the second
* `Ownership.Covers.asked`, `Ownership.covers_isOwn`: a pass makes and looks for nothing but what is
  its own
* `Ownership.isolated_of_made`: who finds what a pass made
-/

namespace NamespaceBackup

/-! ## Markers and identities -/

namespace Request

variable {name name' : String} {second second' : Int}

/-- The second of its creation, by which a request's marker is made. -/
def createdSecond? (request : Request) : Option Int :=
  request.metadata.creationTimestamp.map (·.seconds)

/-- What tells requests apart: where a request lives, its name, and when it was made. -/
def identity (request : Request) : Option String × Option String × Option Timestamp :=
  (request.metadata.ns, request.metadata.name, request.metadata.creationTimestamp)

/-- A marker tells the name and the second, because the last dash is the one between them. -/
theorem marker_inj (h : 0 ≤ second) (h' : 0 ≤ second')
    (heq : name ++ "-" ++ toString second = name' ++ "-" ++ toString second') :
    name = name' ∧ second = second' := by
  obtain ⟨n, rfl⟩ := Int.eq_ofNat_of_zero_le h
  obtain ⟨n', rfl⟩ := Int.eq_ofNat_of_zero_le h'
  have hdash (n : Nat) : '-' ∉ (toString n).toList.reverse := by
    rw [List.mem_reverse]
    exact notMem_toString_nat (by decide) n
  -- Read from the end, the first dash is the one between second and name.
  have hlist : (toString n).toList.reverse ++ '-' :: name.toList.reverse =
      (toString n').toList.reverse ++ '-' :: name'.toList.reverse := by
    have htexts := congrArg String.toList heq
    rw [String.toList_append, String.toList_append, String.toList_append,
      String.toList_append] at htexts
    have hreverse := congrArg List.reverse htexts
    simp only [List.reverse_append] at hreverse
    exact hreverse
  obtain ⟨hsecond, hname⟩ := Membership.append_cons_inj (hdash n) (hdash n') hlist
  rw [List.reverse_inj] at hsecond hname
  refine ⟨String.toList_inj.1 hname, ?_⟩
  have hnumber := congrArg (fun digits => Nat.ofDigitChars 10 digits 0) hsecond
  exact congrArg Int.ofNat (by simpa [Nat.toString_eq_ofList_toDigits] using hnumber)

theorem marker?_eq_some_iff {request : Request} {marker : String} :
    request.marker? = some marker ↔ ∃ name second, request.metadata.name = some name ∧
      request.createdSecond? = some second ∧ marker = name ++ "-" ++ toString second := by
  simp only [marker?, createdSecond?, Option.bind_eq_bind, Option.bind_eq_some_iff,
    Option.map_eq_some_iff, Option.pure_def, Option.some.injEq]
  constructor
  · rintro ⟨created, hcreated, name, hname, rfl⟩
    exact ⟨name, _, hname, ⟨created, hcreated, rfl⟩, rfl⟩
  · rintro ⟨name, _, hname, ⟨created, hcreated, rfl⟩, rfl⟩
    exact ⟨created, hcreated, name, hname, rfl⟩

/-- Two requests have one marker if they have one name and were made in one second. -/
theorem marker_eq_iff {a b : Request} {marker marker' : String}
    (ha : ∀ created ∈ a.metadata.creationTimestamp, 0 ≤ created.seconds)
    (hb : ∀ created ∈ b.metadata.creationTimestamp, 0 ≤ created.seconds)
    (h : a.marker? = some marker) (h' : b.marker? = some marker') :
    marker = marker' ↔
      a.metadata.name = b.metadata.name ∧ a.createdSecond? = b.createdSecond? := by
  have hnonneg : ∀ {request : Request} {second : Int},
      (∀ created ∈ request.metadata.creationTimestamp, 0 ≤ created.seconds) →
      request.createdSecond? = some second → 0 ≤ second := by
    intro request second hrequest hsecond
    obtain ⟨created, hcreated, rfl⟩ := Option.map_eq_some_iff.1 hsecond
    exact hrequest created hcreated
  obtain ⟨name, second, hname, hsecond, rfl⟩ := marker?_eq_some_iff.1 h
  obtain ⟨name', second', hname', hsecond', rfl⟩ := marker?_eq_some_iff.1 h'
  rw [hname, hname', hsecond, hsecond', Option.some.injEq, Option.some.injEq]
  constructor
  · exact marker_inj (hnonneg ha hsecond) (hnonneg hb hsecond')
  · rintro ⟨rfl, rfl⟩
    rfl

theorem marker?_congr {a b : Request} (h : a.identity = b.identity) : a.marker? = b.marker? := by
  simp only [identity, Prod.mk.injEq] at h
  rw [marker?, marker?, h.2.1, h.2.2]

end Request

namespace Ownership

open Activity (Ensures)
open Dialogue (Yields)
open Saga

/-! ## What is made and what is looked for -/

/-- The namespace and the metadata of the marker or the bundle that a question makes. -/
def made? : Query → Option (String × Metadata)
  | .call (.createMarker ns _ marker) => some (ns, marker.metadata)
  | .call (.createBundle ns bundle) => some (ns, bundle.metadata)
  | _ => none

/-- The namespace and the selector by which a question looks for markers or bundles. -/
def sought? : Query → Option (String × String)
  | .call (.listMarkers ns _ selector) | .call (.findBundle ns selector) => some (ns, selector)
  | _ => none

/-- What a pass must know of its request before it makes anything for it. -/
structure Tells (first : Request) (ns name marker : String) : Prop where
  ns_eq : first.metadata.ns = some ns
  name_eq : first.metadata.name = some name
  marker_eq : first.marker? = some marker

/-- Metadata of an object that lives with a request and has its labels. -/
structure Bears (settings : Settings) (ns name marker : String) (metadata : Metadata) : Prop where
  placed : metadata.ns = some ns
  named : metadata.label? settings.requestLabel = some name
  marked : metadata.label? settings.markerLabel = some marker

/-- The questions by which a pass works on what is its own: whatever is made has the labels of its
request, and whatever is looked for is looked for by the marker. -/
structure IsOwn (settings : Settings) (first : Request) (question : Query) : Prop where
  made : ∀ ns metadata, made? question = some (ns, metadata) →
    ∃ name marker, Tells first ns name marker ∧ Bears settings ns name marker metadata
  sought : ∀ ns selector, sought? question = some (ns, selector) →
    ∃ name marker, Tells first ns name marker ∧ selector = settings.markerSelector marker

/-- What is stored is the request that was written. -/
def StoresSame (exchange : Exchange) : Prop :=
  ∀ written stored, exchange = ⟨.call (.updateStatus written),
    (.ok stored : Except Failure Request)⟩ → stored.identity = written.identity

variable {settings : Settings} {first second : Request} {ns name marker : String}

theorem bears_newBundle (hkeys : settings.markerLabel ≠ settings.requestLabel)
    (bundleName : String) (inventory : Inventory) (recorded : Dict String) :
    Bears settings ns name marker
      (newBundle settings ns name marker bundleName inventory recorded).metadata where
  placed := rfl
  named := by simp [newBundle, Metadata.label?, Dict.ofList, hkeys]
  marked := by simp [newBundle, Metadata.label?, Dict.ofList]

theorem bears_buildMarker (hkeys : settings.markerLabel ≠ settings.requestLabel)
    (task : Imaging.Task) (machine snapshotName : String) :
    Bears settings ns name marker
      (Imaging.buildMarker settings ⟨ns, name, marker⟩ task machine snapshotName).metadata where
  placed := by cases task <;> rfl
  named := by simp [Imaging.buildMarker, Metadata.label?, Dict.ofList]
  marked := by simp [Imaging.buildMarker, Metadata.label?, Dict.ofList, hkeys.symm]

section Shapes

variable {question : Query} {metadata : Metadata}

/-- What neither makes nor looks for anything is no concern of anybody. -/
theorem isOwn_of_neither (hmade : made? question = none) (hsought : sought? question = none) :
    IsOwn settings first question where
  made _ _ h := by
    rw [hmade] at h
    cases h
  sought _ _ h := by
    rw [hsought] at h
    cases h

theorem isOwn_of_made (hsought : sought? question = none)
    (hmade : made? question = some (ns, metadata)) (htells : Tells first ns name marker)
    (hbears : Bears settings ns name marker metadata) : IsOwn settings first question where
  made _ _ h := by
    rw [hmade] at h
    cases h
    exact ⟨name, marker, htells, hbears⟩
  sought _ _ h := by
    rw [hsought] at h
    cases h

theorem isOwn_of_sought (hmade : made? question = none)
    (hsought : sought? question = some (ns, settings.markerSelector marker))
    (htells : Tells first ns name marker) : IsOwn settings first question where
  made _ _ h := by
    rw [hmade] at h
    cases h
  sought _ _ h := by
    rw [hsought] at h
    cases h
    exact ⟨name, marker, htells, rfl⟩

end Shapes

theorem isOwn_clock : IsOwn settings first .clock := isOwn_of_neither rfl rfl

theorem isOwn_updateStatus {written : Request} :
    IsOwn settings first (.call (.updateStatus written)) := isOwn_of_neither rfl rfl

theorem isOwn_of_isListing {selector : String} {question : Query}
    (h : Inventory.IsListing ns selector question) : IsOwn settings first question := by
  cases h <;> exact isOwn_of_neither rfl rfl

theorem isOwn_of_isDeletion {inventory : Inventory} {question : Query}
    (h : Inventory.IsDeletion ns inventory question) : IsOwn settings first question := by
  cases h <;> exact isOwn_of_neither rfl rfl

theorem isOwn_of_isLoading {reason : String} {content : Bundle.Content} {question : Query}
    (h : IsLoading ns reason content question) : IsOwn settings first question := by
  cases h <;> exact isOwn_of_neither rfl rfl

theorem isOwn_of_isBundling (hkeys : settings.markerLabel ≠ settings.requestLabel)
    (htells : Tells first ns name marker) {inventory : Inventory} {recorded : Dict String}
    {question : Query} (h : IsBundling settings ns name marker inventory recorded question) :
    IsOwn settings first question := by
  cases h with
  | find => exact isOwn_of_sought rfl rfl htells
  | clock => exact isOwn_clock
  | create seconds =>
    exact isOwn_of_made rfl rfl htells (bears_newBundle hkeys _ inventory recorded)

theorem isOwn_of_isImaging (hkeys : settings.markerLabel ≠ settings.requestLabel)
    (htells : Tells first ns name marker) {task : Imaging.Task} {machines : List String}
    {question : Query} (h : Imaging.IsImaging settings ⟨ns, name, marker⟩ task machines question) :
    IsOwn settings first question := by
  cases h with
  | list => exact isOwn_of_sought rfl rfl htells
  | handle h =>
    cases h with
    | @mark machine snapshot =>
      exact isOwn_of_made rfl rfl htells (bears_buildMarker hkeys task machine snapshot)
    | _ => exact isOwn_of_neither rfl rfl

/-! ## Parts of a pass -/

/-- What a copy tells of its request. -/
theorem tells_of_copy {copy : Request} (hcopy : copy.identity = first.identity)
    (hns : first.metadata.ns = some ns) (hmarker : requestMarker copy = .ok marker) :
    Tells first ns copy.anyName marker := by
  have hmarker := marker?_of_requestMarker hmarker
  obtain ⟨name, _, hname, -, -⟩ := Request.marker?_eq_some_iff.1 hmarker
  have hany : copy.anyName = name := by simp [Request.anyName, Metadata.anyName, hname]
  refine ⟨hns, ?_, (Request.marker?_congr hcopy).symm.trans hmarker⟩
  simp only [Request.identity, Prod.mk.injEq] at hcopy
  rw [hany, ← hname, hcopy.2.1]

theorem ns_eq_of_copy {copy : Request} (hcopy : copy.identity = first.identity)
    (hns : requestNamespace copy = .ok ns) : first.metadata.ns = some ns := by
  simp only [Request.identity, Prod.mk.injEq] at hcopy
  rw [← hcopy.1, requestNamespace_eq_ok.1 hns]

theorem ns_eq_of_lives (h : Lives (·.identity = first.identity) ns) :
    first.metadata.ns = some ns := by
  obtain ⟨copy, hcopy, hns⟩ := h
  exact ns_eq_of_copy hcopy hns

/-- The questions that a pass asks while it stays the same request. Whatever is made or looked for, the
request has told its name and its marker before. -/
structure Covers (settings : Settings) (first : Request) (P : Query → Prop) : Prop where
  clock : P .clock
  status : ∀ written, P (.call (.updateStatus written))
  source : ∀ ns name, P (.call (.getBundle ns name))
  listing : ∀ ns question, Inventory.IsListing ns settings.managedSelector question → P question
  deletion : ∀ ns inventory question, Inventory.IsDeletion ns inventory question → P question
  loading : ∀ ns reason content question, IsLoading ns reason content question → P question
  bundling : ∀ ns name marker inventory recorded question, Tells first ns name marker →
    IsBundling settings ns name marker inventory recorded question → P question
  imaging : ∀ ns name marker task machines question, Tells first ns name marker →
    Imaging.IsImaging settings ⟨ns, name, marker⟩ task machines question → P question

/-- The terms on which only such questions are asked, and what is stored is what was written. -/
abbrev staying (P : Query → Prop) : Terms Query Query.Answer Unit where
  asks _ question := P question
  answers _ exchange _ := StoresSame exchange

namespace Covers

variable {P : Query → Prop} (h : Covers settings first P)

include h

/-- Whatever status is written, the request stays the same. -/
theorem permits : Permits (staying P) settings (·.identity = first.identity) where
  clock := h.clock
  listing := h.listing
  status _ _ hcopy _ := hcopy
  write written hwritten := ⟨h.status written, fun _ hstores => (hstores _ _ rfl).trans hwritten⟩

theorem permitsSave : PermitsSave (staying P) settings (·.identity = first.identity) where
  toPermits := h.permits
  bundling _ _ _ _ _ _ hcopy hlives hmarker :=
    h.bundling _ _ _ _ _ _ (tells_of_copy hcopy (ns_eq_of_lives hlives) hmarker)
  imaging _ _ _ _ _ hcopy hlives hmarker _ :=
    h.imaging _ _ _ _ _ _ (tells_of_copy hcopy (ns_eq_of_lives hlives) hmarker)

theorem permitsRestore : PermitsRestore (staying P) settings (·.identity = first.identity) where
  toPermits := h.permits
  source ns name _ := h.source ns name
  loading _ _ _ _ _ _ := h.loading _ _ _ _
  imaging _ _ _ _ _ hcopy hlives hmarker _ :=
    h.imaging _ _ _ _ _ _ (tells_of_copy hcopy (ns_eq_of_lives hlives) hmarker)

theorem reconcile {copy : Request} (hcopy : copy.identity = first.identity) :
    Ensures (staying P) (reconcile settings) copy ()
      fun _ copy' _ => copy'.identity = first.identity := by
  refine h.permits.reconcile hcopy ?_
  have hrestore := h.permitsRestore.restorePass hcopy (fun _ _ _ => hcopy)
    fun _ _ hcopy _ hstate => h.permits.clean hcopy hstate (h.deletion _)
  cases copy.spec.mode with
  | save => exact h.permitsSave.savePass copy hcopy
  | restore => exact hrestore
  | cleanRestore => exact hrestore

/-- Whatever a pass asks is among these questions. -/
theorem asked {transcript : List Exchange} {outcome : Except Failure Action × Request}
    (hpass : Yields (Saga.reconcile settings first) transcript outcome)
    (hstores : ∀ exchange ∈ transcript, StoresSame exchange) {exchange : Exchange}
    (hmem : exchange ∈ transcript) : P exchange.1 := by
  obtain ⟨before, after, rfl⟩ := List.append_of_mem hmem
  have hpath : (Activity.hearing StoresSame).answers.Path () before () :=
    Activity.path_hearing fun e he => hstores e (List.mem_append_left _ he)
  exact (h.reconcile rfl).asked hpass hpath

end Covers

/-- A pass makes and looks for nothing but what is its own. -/
theorem covers_isOwn (hkeys : settings.markerLabel ≠ settings.requestLabel) :
    Covers settings first (IsOwn settings first) where
  clock := isOwn_clock
  status _ := isOwn_updateStatus
  source _ _ := isOwn_of_neither rfl rfl
  listing _ _ := isOwn_of_isListing
  deletion _ _ _ := isOwn_of_isDeletion
  loading _ _ _ _ := isOwn_of_isLoading
  bundling _ _ _ _ _ _ htells := isOwn_of_isBundling hkeys htells
  imaging _ _ _ _ _ _ htells := isOwn_of_isImaging hkeys htells

/-! ## Who finds what -/

/-- Whatever a pass makes is found by the marker of those requests only that have the name of its
own and were made in the same second. Other passes look for things in this way and in no other, and
the labels of what was made tell whose it is. -/
theorem isolated_of_made (hkeys : settings.markerLabel ≠ settings.requestLabel)
    (hcomma : ',' ∉ settings.markerLabel.toList) (hequals : '=' ∉ settings.markerLabel.toList)
    (hname : ∀ name ∈ second.metadata.name, ',' ∉ name.toList)
    (hfirst : ∀ created ∈ first.metadata.creationTimestamp, 0 ≤ created.seconds)
    (hsecond : ∀ created ∈ second.metadata.creationTimestamp, 0 ≤ created.seconds)
    (hns : first.metadata.ns = second.metadata.ns)
    {transcript : List Exchange} {outcome : Except Failure Action × Request}
    (h : Yields (reconcile settings first) transcript outcome)
    (hstores : ∀ exchange ∈ transcript, StoresSame exchange) {made : Exchange}
    (hmem : made ∈ transcript) {metadata : Metadata} (hmade : made? made.1 = some (ns, metadata)) :
    (∀ marker, second.marker? = some marker →
      (Selector.selects (settings.markerSelector marker) metadata = true ↔
        first.metadata.name = second.metadata.name ∧
          first.createdSecond? = second.createdSecond?)) ∧
    (∀ transcript' outcome', Yields (reconcile settings second) transcript' outcome' →
      (∀ exchange ∈ transcript', StoresSame exchange) → ∀ sought ∈ transcript', ∀ ns' selector,
        sought? sought.1 = some (ns', selector) →
        ns' = ns ∧ ∃ marker, second.marker? = some marker ∧
          selector = settings.markerSelector marker) ∧
    ∃ name, first.metadata.ns = some ns ∧ first.metadata.name = some name ∧
      Watch.owner? settings.requestLabel metadata = some ⟨ns, name⟩ := by
  obtain ⟨name, marker, htells, hbears⟩ := ((covers_isOwn hkeys).asked h hstores hmem).made _ _ hmade
  refine ⟨fun marker' hmarker' => ?_, fun transcript' outcome' h' hstores' sought hmem' ns' selector
    hsought => ?_, name, htells.ns_eq, htells.name_eq, ?_⟩
  · have hcommas := Request.comma_notMem_marker hname hmarker'
    rw [Settings.selects_markerSelector hcomma hequals hcommas, hbears.marked, Option.some.injEq]
    exact Request.marker_eq_iff hfirst hsecond htells.marker_eq hmarker'
  · obtain ⟨_, marker', htells', hselector⟩ :=
      ((covers_isOwn hkeys).asked h' hstores' hmem').sought _ _ hsought
    refine ⟨?_, marker', htells'.marker_eq, hselector⟩
    have hsome := htells'.ns_eq.symm.trans (hns.symm.trans htells.ns_eq)
    exact Option.some.inj hsome
  · simp [Watch.owner?, hbears.named, hbears.placed]

/-! ## A request made anew -/

/-- A request to save, made in some second, that is about to make its bundle. -/
def nightly (second : Int) : Request where
  metadata :=
    { name := some "nightly-1", ns := some "cloud", creationTimestamp := some ⟨second, false⟩ }
  status := some { state := .saving }

/-- Answers of an empty namespace that accepts whatever is asked. -/
def vacancy : (question : Query) → question.Answer
  | .clock => (⟨7, 0⟩ : Instant)
  | .call (.listManaged _ _) => (.ok [] : Except Failure (List Resource))
  | .call (.listConfigMaps _ _) => (.ok [] : Except Failure (List ConfigMap))
  | .call (.listSecrets _ _) => (.ok [] : Except Failure (List Secret))
  | .call (.findBundle _ _) => (.ok none : Except Failure (Option Bundle))
  | .call (.createBundle _ _) => (.ok () : Except Failure Unit)
  | .call (.updateStatus written) => (.ok written : Except Failure Request)
  | .call c => (.error (.api "not served") : Except Failure c.Answer)

theorem storesSame_vacancy (question : Query) : StoresSame ⟨question, vacancy question⟩ := by
  rintro written stored heq
  cases heq
  rfl

/-- A pass held with somebody who gives these answers. -/
def visit (request : Request) : List Exchange :=
  (reconcile {} request).transcript (fun question _ => (vacancy question, ())) ()

theorem storesSame_of_mem_visit {request : Request} {exchange : Exchange}
    (hmem : exchange ∈ visit request) : StoresSame exchange := by
  have hpath := Dialogue.path_transcript (R := fun _ exchange _ => StoresSame exchange)
    (fun question (_ : Unit) => (vacancy question, ()))
    (fun question _ => storesSame_vacancy question) (reconcile {} request) ()
  obtain ⟨_, _, hstores⟩ := hpath.exists_of_mem hmem
  exact hstores

/-- The metadata of the bundle that a pass over the request of second 5 makes. -/
def bundleMetadata : Metadata where
  name := some "nightly-1-7"
  ns := some "cloud"
  labels := some <| .ofList [(({} : Settings).requestLabel, "nightly-1"),
    (({} : Settings).markerLabel, "nightly-1-5")]

/-- A request that is made anew under the name of an older one does not find the bundle that the
older one made, which does find it, and the watch tells their name. -/
theorem nightly_isolated :
    Selector.selects (({} : Settings).markerSelector "nightly-1-6") bundleMetadata = false ∧
      Selector.selects (({} : Settings).markerSelector "nightly-1-5") bundleMetadata = true ∧
      Watch.owner? ({} : Settings).requestLabel bundleMetadata =
        some ⟨"cloud", "nightly-1"⟩ := by
  have hmade : ∃ made ∈ visit (nightly 5), made? made.1 = some ("cloud", bundleMetadata) := by
    decide +kernel
  obtain ⟨made, hmem, hmade⟩ := hmade
  have hpass := Dialogue.yields_transcript (fun question _ => (vacancy question, ()))
    (reconcile {} (nightly 5)) ()
  have hisolated (second : Int) (h : 0 ≤ second) := by
    have hns : (nightly 5).metadata.ns = (nightly second).metadata.ns := rfl
    exact isolated_of_made (by decide) (by decide) (by decide) (by simp [nightly])
      (by simp [nightly]) (by simpa [nightly] using h) hns hpass
      (fun _ => storesSame_of_mem_visit) hmem hmade
  obtain ⟨name, -, hname, howner⟩ := (hisolated 5 (by decide)).2.2
  obtain rfl := Option.some.inj hname
  refine ⟨?_, ?_, howner⟩
  · rw [← Bool.not_eq_true, (hisolated 6 (by decide)).1 _ (by decide +kernel)]
    decide
  · rw [(hisolated 5 (by decide)).1 _ (by decide +kernel)]
    decide

end Ownership

end NamespaceBackup
