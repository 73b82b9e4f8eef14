import Mathlib.Data.List.Basic
import NamespaceBackup.Proofs.Frames
import NamespaceBackup.Proofs.Restoring
import NamespaceBackup.Proofs.Vouching

/-!
# Passes in trouble

A pass that is given the stored request works on it while nobody else writes its namespace. But any
call may fail, whether or not it was carried out, and commands may come to anything. A write whose
answer got lost leaves the pass with an old copy, and from then on all of its writes are refused.
So whatever it does store was written over the stored request, for one of the reasons for which a
pass writes at all.

## Main definitions

* `Cluster.Serves`, `Cluster.troubled`: clock and cluster in trouble
* `Cluster.Retains`: a namespace has the content that it had at first
* `Cluster.stored`: a request as it is stored
* `Saga.Tracks`: the copy in hand is what is stored, or its writes are refused
* `Saga.Stores`: what is stored after a write that was asked for

## Main results

* `Cluster.collected`: what is collected in trouble is what the namespace holds
* `Saga.grounds_of_stored`: whatever is stored was written over the stored request for a reason
-/

namespace NamespaceBackup

open Activity (Gives)
open Space (Part Agree)

/-! ## Numbers as texts -/

namespace Text

theorem ne_underscore_of_isDigit {c : Char} (h : c.isDigit = true) : c ≠ '_' := by
  rintro rfl
  exact absurd h (by decide)

/-- A text of digits is a number. -/
theorem isNat_of_isDigit {text : String} (hne : text ≠ "")
    (hdigits : ∀ c ∈ text.toList, c.isDigit = true) : text.isNat = true := by
  have hcs : text.toList ≠ [] := by simpa using hne
  rw [String.isNat, String.Slice.isNat]
  simp only [String.Slice.forIn_eq_forIn_toList, String.copy_toSlice]
  generalize text.toList = cs at hcs hdigits
  cases cs with
  | nil => exact absurd rfl hcs
  | cons first rest =>
    -- Once a digit was read, the text that was read is a number, and so it stays.
    simp only [List.forIn_cons, ne_underscore_of_isDigit (hdigits first (by simp)),
      hdigits first (by simp), if_true, if_false, pure_bind]
    have hrest : ∀ c ∈ rest, c.isDigit = true := fun c hc => hdigits c (by simp [hc])
    clear hcs hdigits
    induction rest with
    | nil => rfl
    | cons c cs ih =>
      simp only [List.forIn_cons, ne_underscore_of_isDigit (hrest c (by simp)),
        hrest c (by simp), if_true, if_false, pure_bind]
      exact ih fun c hc => hrest c (by simp [hc])

/-- A number is read again from its text. -/
theorem toNat?_toString (n : Nat) : (toString n).toNat? = some n := by
  -- Std has this as Nat.toNat?_repr, in a module that no single module of Mathlib imports.
  have hdigits : ∀ c ∈ (Nat.repr n).toList, c.isDigit = true := by
    rw [Nat.toList_repr]
    exact fun c hc => Nat.isDigit_of_mem_toDigits (by decide) (by decide) hc
  have hnat : (Nat.repr n).toSlice.isNat = true := isNat_of_isDigit (by simp) hdigits
  rw [Nat.toString_eq_repr, String.toNat?, String.Slice.toNat?, if_pos hnat,
    String.Slice.foldl_eq_foldl_toList, String.copy_toSlice, Option.some.injEq]
  calc
    _ = Nat.ofDigitChars 10 (Nat.repr n).toList 0 := by
      rw [Nat.ofDigitChars_eq_foldl]
      refine List.foldl_ext _ _ _ fun number c hc => ?_
      rw [if_neg (ne_underscore_of_isDigit (hdigits c hc)), Nat.mul_comm]
    _ = n := by rw [Nat.toList_repr, Nat.ofDigitChars_toDigits (by decide) (by decide)]

end Text

/-! ## Clock and cluster in trouble -/

namespace Cluster

variable {cluster before after w v : Cluster} {exchange : Exchange} {trace : List Exchange}
  {ns name : String} {part : Part}

/-- How clock and cluster answer in trouble: a call is performed, a command comes to anything, and
any call may fail, with or without having been carried out. -/
inductive Serves (cluster : Cluster) : Exchange → Cluster → Prop
  | clock (instant : Instant) : Serves cluster ⟨.clock, instant⟩ cluster
  | performed {c : Call} {answer : Except Failure c.Answer} {after : Cluster}
    (h : cluster.perform c = (answer, after)) : Serves cluster ⟨.call c, answer⟩ after
  | commanded (ns text : String) (output : CommandOutput) :
    Serves cluster ⟨.call (.runCommand ns text), (.ok output : Except Failure CommandOutput)⟩ cluster
  | refused (c : Call) (failure : Failure) :
    Serves cluster ⟨.call c, (.error failure : Except Failure c.Answer)⟩ cluster
  | lost (c : Call) (failure : Failure) :
    Serves cluster ⟨.call c, (.error failure : Except Failure c.Answer)⟩ (cluster.perform c).2

/-- Clock and cluster in trouble, while others write other namespaces than the given one. -/
def troubled (ns : String) : Respondent Query Query.Answer Cluster := fun cluster exchange after =>
  ∃ before : Cluster, before.space ns = cluster.space ns ∧ before.Serves exchange after

theorem Serves.agree (h : cluster.Serves exchange after) (hpart : exchange.1.part? ≠ some part)
    (ns : String) : Agree part (after.space ns) (cluster.space ns) := by
  cases h with
  | clock | commanded | refused => rfl
  | @performed c _ _ h =>
    have hagree := agree_perform hpart cluster ns
    rwa [h] at hagree
  | lost => exact agree_perform hpart cluster ns

theorem agree_troubled (h : troubled ns cluster exchange after)
    (hpart : exchange.1.part? ≠ some part) :
    Agree part (after.space ns) (cluster.space ns) := by
  obtain ⟨before, hbefore, hserves⟩ := h
  exact hbefore ▸ hserves.agree hpart ns

/-- What nobody asks to be changed stays as it is. -/
theorem agree_path (h : (troubled ns).Path w trace v)
    (hpart : ∀ exchange ∈ trace, exchange.1.part? ≠ some part) :
    Agree part (v.space ns) (w.space ns) := by
  induction h with
  | nil => rfl
  | cons hexchange _ ih =>
    have hrest := ih fun e he => hpart e (by simp [he])
    exact hrest.trans (agree_troubled hexchange (hpart _ (by simp)))

/-- What is answered to a call, unless it is a command, was performed. -/
theorem Serves.performed_of_ok {c : Call} {value : c.Answer}
    (h : cluster.Serves ⟨.call c, (.ok value : Except Failure c.Answer)⟩ after)
    (hc : ∀ ns text, c ≠ .runCommand ns text) : cluster.perform c = (.ok value, after) := by
  cases h with
  | performed h => exact h
  | commanded ns text => exact absurd rfl (hc ns text)

/-- A bundle that was found once is still there. -/
theorem found_of_path {bundle : Bundle} (h : (troubled ns).Path w trace v)
    (hfound : ⟨.call (.getBundle ns name),
      (.ok (some bundle) : Except Failure (Option Bundle))⟩ ∈ trace) :
    (v.space ns).bundles.find? name = some bundle := by
  obtain ⟨first, rest, rfl⟩ := List.append_of_mem hfound
  obtain ⟨u, -, hlater⟩ := Respondent.path_append.1 h
  obtain ⟨u', ⟨before, hbefore, hserves⟩, hrest⟩ := Respondent.path_cons.1 hlater
  have hperform := hserves.performed_of_ok (by simp)
  have hthere : (u'.space ns).bundles.find? name = some bundle := by
    obtain ⟨hbundle, rfl⟩ := Prod.mk.inj hperform
    exact Except.ok.inj hbundle
  refine hrest.invariant (fun cluster => (cluster.space ns).bundles.find? name = some bundle) hthere ?_
  rintro cluster exchange after hbundle ⟨before, hbefore, hserves⟩
  rw [← hbefore] at hbundle
  cases hserves with
  | clock | commanded | refused => exact hbundle
  | @performed c _ _ h =>
    have hkept := find?_bundles_perform hbundle c
    rwa [h] at hkept
  | lost c => exact find?_bundles_perform hbundle c

/-- The terms in trouble, on which anything may be asked. -/
abbrev inTrouble (ns : String) : Terms Query Query.Answer Cluster where
  answers := troubled ns

/-- The content of a namespace is what it was in the given cluster. -/
def Retains (ns : String) (w cluster : Cluster) : Prop :=
  Agree .content (cluster.space ns) (w.space ns)

/-- In trouble, whatever is listed is what the namespace holds, and is held afterwards. -/
theorem listed_inTrouble (ns selector : String) (w : Cluster) :
    Inventory.Listed (inTrouble ns) ns selector (Retains ns w)
      (fun kind objects => objects = ((w.space ns).ofKind kind.name).values)
      (fun configMaps => configMaps =
        ((w.space ns).configMaps.filter (Selector.selects selector ·.metadata)).values)
      (fun secrets => secrets =
        ((w.space ns).secrets.filter (Selector.selects selector ·.metadata)).values) where
  asks := fun _ _ _ _ => trivial
  keeps := by
    rintro cluster exchange after hcluster hlisting hexchange
    refine Agree.trans (agree_troubled hexchange ?_) hcluster
    generalize exchange.1 = question at hlisting
    cases hlisting <;> simp [Query.part?, Call.part?]
  managed := by
    rintro cluster kind objects after hcluster ⟨before, hbefore, hserves⟩
    obtain ⟨hobjects, -⟩ := Prod.mk.inj (hserves.performed_of_ok (by simp))
    rw [← Except.ok.inj hobjects, hbefore, hcluster.ofKind_eq]
  configMaps := by
    rintro cluster configMaps after hcluster ⟨before, hbefore, hserves⟩
    obtain ⟨hconfigMaps, -⟩ := Prod.mk.inj (hserves.performed_of_ok (by simp))
    rw [← Except.ok.inj hconfigMaps, hbefore, hcluster.2.1, Dict.values_filter]
  secrets := by
    rintro cluster secrets after hcluster ⟨before, hbefore, hserves⟩
    obtain ⟨hsecrets, -⟩ := Prod.mk.inj (hserves.performed_of_ok (by simp))
    rw [← Except.ok.inj hsecrets, hbefore, hcluster.2.2, Dict.values_filter]

/-- What is collected in trouble, if it is, is what the namespace holds all the while. -/
theorem collected {settings : Settings} {copy : Request} {inventory : Inventory}
    (hcollect : Gives (Saga.collect settings ns) copy trace inventory)
    (hpath : (troubled ns).Path w trace v) :
    inventory = (w.space ns).inventory settings.managedSelector ∧
      Agree .content (v.space ns) (w.space ns) := by
  have hlisted := listed_inTrouble ns settings.managedSelector w
  obtain ⟨-, hv, lists, configMaps, secrets, hlists, rfl, rfl, rfl⟩ :=
    hcollect.ends (Inventory.collect_ensures hlisted (Agree.refl _ _)) hpath
  refine ⟨?_, hv⟩
  rw [funext hlists]
  rfl

/-! ## The stored request -/

/-- A request as it is stored. -/
def stored (cluster : Cluster) (request : Request) : Option Request :=
  (cluster.space (home request)).requests.find? request.anyName

/-- A version is another than the one before. -/
theorem nextVersion_ne (version : Option String) : some (nextVersion version) ≠ version := by
  -- Read as a number, it is one more than the version before.
  rintro heq
  have hnumber : (nextVersion version).toNat? =
      some (((version.bind String.toNat?).getD 0) + 1) := by
    rw [nextVersion, Text.toNat?_toString]
  have hversion : version.bind String.toNat? =
      some (((version.bind String.toNat?).getD 0) + 1) := by
    conv_lhs => rw [← heq]
    exact hnumber
  rw [hversion] at hversion
  simp at hversion

variable {old written : Request} {status : Request.Status}

/-- A status is stored over the version that it was made from, and refused over any other. -/
theorem writeStatus_of_stored (hold : cluster.stored written = some old)
    (hstatus : written.status = some status) :
    (old.metadata.resourceVersion ≠ written.metadata.resourceVersion ∧
      ∃ failure, cluster.writeStatus written = (.error failure, cluster)) ∨
    (old.metadata.resourceVersion = written.metadata.resourceVersion ∧
      ∃ after, cluster.writeStatus written = (.ok (Saga.withStatus old status), after) ∧
        after.stored written = some (Saga.withStatus old status)) := by
  rw [stored] at hold
  by_cases hversion : old.metadata.resourceVersion = written.metadata.resourceVersion
  · refine .inr ⟨hversion, cluster.withSpace (home written)
      { cluster.space (home written) with
        requests := (cluster.space (home written)).requests.insert written.anyName
          (Saga.withStatus old status) }, ?_, ?_⟩
    · simp [writeStatus, hold, hversion, hstatus, Saga.withStatus]
    · rw [stored, space_withSpace, Dict.find?_insert, if_pos rfl]
  · refine .inl ⟨hversion, .conflict "stale resourceVersion", ?_⟩
    simp only [writeStatus, hold]
    exact if_pos hversion

/-- In trouble, a write of a status is not tried at all, or it is tried and its answer may be lost. -/
theorem Serves.updateStatus {answer : Except Failure Request}
    (h : cluster.Serves ⟨.call (.updateStatus written), answer⟩ after) :
    (after = cluster ∧ ∃ failure, answer = .error failure) ∨
    (after = (cluster.writeStatus written).2 ∧
      (answer = (cluster.writeStatus written).1 ∨ ∃ failure, answer = .error failure)) := by
  cases h with
  | performed h => exact .inr ⟨(congrArg Prod.snd h).symm, .inl (congrArg Prod.fst h).symm⟩
  | refused _ failure => exact .inl ⟨rfl, failure, rfl⟩
  | lost _ failure => exact .inr ⟨rfl, .inr ⟨failure, rfl⟩⟩

end Cluster

namespace Saga

open Cluster (home troubled)

variable {settings : Settings} {given copy old new written : Request} {status : Request.Status}
  {cluster w v v' : Cluster} {exchange : Exchange} {before after journal : List Exchange}

theorem SameCall.home_eq {a b : Request} (h : SameCall a b) : home a = home b := by
  rw [home, home, h.ns_eq]

theorem SameCall.stored_eq {a b : Request} (h : SameCall a b) (cluster : Cluster) :
    cluster.stored a = cluster.stored b := by
  rw [Cluster.stored, Cluster.stored, h.home_eq, h.marker?_eq.2]

theorem sameCall_withStatus (request : Request) (status : Request.Status) :
    SameCall request (withStatus request status) := ⟨rfl, rfl⟩

theorem SameCall.trans {a b c : Request} (h : SameCall a b) (h' : SameCall b c) : SameCall a c where
  spec := h.spec.trans h'.spec
  metadata := h.metadata.trans h'.metadata

/-- A copy of the given request tracks the stored one: it is what is stored, or what is stored has
another version and nothing will be stored over it. -/
structure Tracks (given copy old : Request) (cluster : Cluster) : Prop where
  stored : cluster.stored given = some old
  same : SameCall given copy
  current : old = copy ∨ SameCall given old ∧
    old.metadata.resourceVersion ≠ copy.metadata.resourceVersion

theorem Tracks.sameCall_old (h : Tracks given copy old cluster) : SameCall given old := by
  rcases h.current with rfl | ⟨hold, -⟩
  · exact h.same
  · exact hold

/-- What is stored after a write that was asked for: what was there before, if the write failed, or
the copy with its new status. -/
inductive Stores (copy old : Request) (status : Request.Status) :
    Except Failure Request → Request → Prop
  | kept (failure : Failure) : Stores copy old status (.error failure) old
  | changed {answer : Except Failure Request} (hold : old = copy)
    (hanswer : answer = .ok (withStatus old status) ∨ ∃ failure, answer = .error failure) :
    Stores copy old status answer (withStatus old status)

theorem Tracks.stores {answer : Except Failure Request} (h : Tracks given copy old v)
    (hexchange : troubled (home given) v
      ⟨.call (.updateStatus { copy with status := some status }), answer⟩ v') :
    ∃ new, v'.stored given = some new ∧ Stores copy old status answer new := by
  obtain ⟨u, hu, hserves⟩ := hexchange
  have hwritten : SameCall given { copy with status := some status } := ⟨h.same.spec, h.same.metadata⟩
  have hold : u.stored { copy with status := some status } = some old := by
    rw [← hwritten.stored_eq, Cluster.stored, hu]
    exact h.stored
  rw [hwritten.stored_eq]
  have hkept : ∀ failure, ∃ new, u.stored { copy with status := some status } = some new ∧
      Stores copy old status (.error failure) new := fun failure => ⟨old, hold, .kept failure⟩
  rcases hserves.updateStatus with ⟨rfl, failure, rfl⟩ | ⟨rfl, hanswer⟩
  · exact hkept failure
  · -- A write that was tried is refused unless the copy is current.
    rcases Cluster.writeStatus_of_stored hold rfl with
      ⟨-, refusal, hwrite⟩ | ⟨hversion, after, hwrite, hstored⟩
    · rw [hwrite] at hanswer ⊢
      rcases hanswer with rfl | ⟨failure, rfl⟩
      · exact hkept refusal
      · exact hkept failure
    · have heq : old = copy := h.current.resolve_right fun hne => hne.2 hversion
      rw [hwrite] at hanswer ⊢
      exact ⟨_, hstored, .changed heq hanswer⟩

/-- What asks for no write of a status leaves the request as it is stored. -/
theorem stored_troubled (hexchange : troubled (home given) v exchange v')
    (hother : ∀ written, exchange.1 ≠ .call (.updateStatus written)) :
    v'.stored given = v.stored given := by
  have hrequests : Agree .requests (v'.space (home given)) (v.space (home given)) := by
    refine Cluster.agree_troubled hexchange ?_
    obtain ⟨question, answer⟩ := exchange
    cases question with
    | clock => simp [Query.part?]
    | call c => cases c <;> simp_all [Query.part?, Call.part?]
  exact congrArg (Dict.find? · given.anyName) hrequests

/-- The copy in hand tracks the stored request all along a pass that was given what is stored. -/
theorem InHand.tracks (h : InHand given journal copy) (hstored : w.stored given = some given)
    (hpath : (troubled (home given)).Path w journal v) : ∃ old, Tracks given copy old v := by
  induction h generalizing v with
  | given =>
    obtain rfl := Respondent.path_nil.1 hpath
    exact ⟨given, hstored, ⟨rfl, rfl⟩, .inl rfl⟩
  | other _ hother ih =>
    obtain ⟨u, hjournal, hexchange⟩ := Respondent.path_concat.1 hpath
    obtain ⟨old, htracks⟩ := ih hjournal
    exact ⟨old, (stored_troubled hexchange hother).trans htracks.stored, htracks.same,
      htracks.current⟩
  | refused _ failure ih =>
    obtain ⟨u, hjournal, hexchange⟩ := Respondent.path_concat.1 hpath
    obtain ⟨old, htracks⟩ := ih hjournal
    obtain ⟨new, hnew, hstores⟩ := htracks.stores hexchange
    refine ⟨new, hnew, htracks.same, ?_⟩
    cases hstores with
    | kept => exact htracks.current
    | changed hold =>
      -- The write took place and its answer got lost, so the copy is out of date from now on.
      subst hold
      exact .inr ⟨htracks.same.trans (sameCall_withStatus _ _), Cluster.nextVersion_ne _⟩
  | stored _ ih =>
    obtain ⟨u, hjournal, hexchange⟩ := Respondent.path_concat.1 hpath
    obtain ⟨old, htracks⟩ := ih hjournal
    obtain ⟨new, hnew, hstores⟩ := htracks.stores hexchange
    cases hstores with
    | changed hold hanswer =>
      obtain rfl := Except.ok.inj (hanswer.resolve_right nofun)
      exact ⟨_, hnew, htracks.sameCall_old.trans (sameCall_withStatus _ _), .inl rfl⟩

/-- Whatever a pass stores that was given what is stored, it stores for a reason, over the request
as it is stored, and by a call that touches nothing but requests. -/
theorem grounds_of_stored {outcome : Except Failure Action × Request}
    (hgiven : w.stored given = some given)
    (hpass : Dialogue.Yields (reconcile settings given) (before ++ exchange :: after) outcome)
    (hbefore : (troubled (home given)).Path w before v)
    (hexchange : troubled (home given) v exchange v')
    (hold : v.stored given = some old) (hnew : v'.stored given = some new) (hchange : new ≠ old) :
    SameCall given old ∧ exchange.1.part? = some .requests ∧
    ∃ start now status message, before = start ++ [⟨.clock, now⟩] ∧
      Grounds settings given old start status ∧
      new = withStatus old (status.announced now message) := by
  by_cases hother : ∀ written, exchange.1 ≠ .call (.updateStatus written)
  · have hsame := stored_troubled hexchange hother
    rw [hold, hnew] at hsame
    exact absurd (Option.some.inj hsame) hchange
  · push Not at hother
    obtain ⟨written, hwritten⟩ := hother
    obtain ⟨_, answer⟩ := exchange
    obtain rfl : _ = Query.call (.updateStatus written) := hwritten
    have hwriting : Writing settings given before written := writing_of_yields hpass
    cases hwriting with
    | @intro start copy status hcopy hgrounds now message =>
      have hinHand : InHand given (start ++ [⟨.clock, now⟩]) copy := hcopy.other (by simp)
      -- A write that is stored was made from a copy that is not out of date.
      obtain ⟨_, htracks⟩ := hinHand.tracks hgiven hbefore
      obtain rfl := Option.some.inj (htracks.stored.symm.trans hold)
      obtain ⟨_, hstored, hstores⟩ := htracks.stores hexchange
      obtain rfl := Option.some.inj (hstored.symm.trans hnew)
      cases hstores with
      | kept => exact absurd rfl hchange
      | changed heq =>
        subst heq
        exact ⟨htracks.sameCall_old, rfl, start, now, status, message, rfl, hgrounds, rfl⟩

end Saga

end NamespaceBackup
