import NamespaceBackup.Proofs.Capture
import NamespaceBackup.Proofs.Restoring

/-!
# What a clean restore brings back

A clean restore that is left alone gets to wait for the controllers within three passes. From then
on the namespace holds what its bundle has captured and nothing else, whatever was there before.

## Main definitions

* `Saga.Stage`: what a namespace holds in each state of the request
* `Saga.Within`: how many passes a restore still needs at most

## Main results

* `Saga.loaded_of_three_passes`: after three passes the bundle is loaded
* `Saga.collect_after_cleanRestore`: a clean restore brings back what a save has captured
-/

namespace NamespaceBackup.Saga

variable {settings : Settings} {ns name selector : String} {bundle : Bundle} {request : Request}
  {state state' : State} {before after : Space}

/-- In these states the bundle has been loaded. -/
def IsLoaded (state : State) : Prop := state = .reconciling ∨ state = .restored

/-! ## How long it takes -/

/-- How many passes a restore needs at most until its bundle is loaded. -/
def Within (selector : String) (passes : Nat) (space : Space) : State → Prop
  | .empty | .cleaning =>
    2 ≤ passes ∧ (space.inventory selector).isEmpty = true ∨ 3 ≤ passes ∧ space.Named
  | .loading => 1 ≤ passes
  | .reconciling | .restored => True
  | _ => False

/-- Every pass brings the bundle nearer. -/
theorem Within.advances {passes : Nat} (h : Within selector passes before state)
    (hname : bundle.anyName ≠ "")
    (hadvances : Advances ns name selector bundle before state state' after) :
    Within selector (passes - 1) after state' := by
  cases hadvances with
  | cleared hstate hbefore hafter =>
    have hnamed : 3 ≤ passes ∧ before.Named := by
      rcases hstate with rfl | rfl <;> exact h.resolve_left fun hempty => hbefore hempty.2
    exact .inl ⟨by omega, hafter hnamed.2⟩
  | clean hstate hbefore hafter =>
    have hpasses : 2 ≤ passes := by
      rcases hstate with rfl | rfl <;> rcases h with h | h <;> omega
    show 1 ≤ passes - 1
    omega
  | loaded hafter => trivial
  | waited hstate hafter => rcases hstate with rfl | rfl <;> trivial
  | ended hstate => cases state <;> trivial
  | failed hstate hstuck =>
    -- In every state that a restore is in by now, it can go on.
    refine absurd ?_ (hstuck.resolve_left hname)
    cases state with
    | empty => exact .inl (.inl rfl)
    | cleaning => exact .inl (.inr rfl)
    | loading => exact .inr (.inl rfl)
    | reconciling => exact .inr (.inr rfl)
    | restored => exact absurd rfl hstate
    | quiescing | saving | saved | saveError | restoreError => exact h.elim

/-- A restore that is left alone in a named namespace has loaded its bundle after three passes. -/
theorem loaded_of_three_passes {before after : Cluster} {transcripts : List (List Exchange)}
    (h : Underway ns name bundle request (before.space ns)) (hnew : request.state = .empty)
    (hname : bundle.anyName ≠ "") (hnamed : (before.space ns).Named)
    (hrestore : Runs (restoring ns name) settings before transcripts after)
    (hpasses : 3 ≤ transcripts.length) :
    ∃ request', Underway ns name bundle request' (after.space ns) ∧ IsLoaded request'.state := by
  have hstart : Within settings.managedSelector 3 (before.space ns) request.state := by
    rw [hnew]
    exact .inr ⟨Nat.le_refl 3, hnamed⟩
  -- Every pass that was held is one that is not needed any more.
  obtain ⟨request', hunderway, hwithin⟩ := hrestore.advances h
    (fun passes state space => Within settings.managedSelector (3 - passes) space state) hstart
    fun passes state state' before after hwithin hadvances => hwithin.advances hname hadvances
  refine ⟨request', hunderway, ?_⟩
  rw [Nat.sub_eq_zero_of_le hpasses] at hwithin
  cases hstate : request'.state <;> rw [hstate] at hwithin <;> simp_all [Within, IsLoaded]

/-! ## What is there -/

/-- What a namespace holds in a state of the request: nothing when the bundle is about to be loaded,
and `target` once it is. -/
def Stage (selector : String) (target : Inventory) (space : Space) : State → Prop
  | .loading => (space.inventory selector).isEmpty = true
  | .reconciling | .restored => space.inventory selector = target
  | _ => True

/-- Every pass leads from stage to stage, if `target` is what the bundle brings. -/
theorem Stage.advances {target : Inventory} (h : Stage selector target before state)
    (htarget : (before.inventory selector).isEmpty = true →
      (before.loaded ns ("Restored by BackupRequest " ++ name) bundle.content).inventory selector =
        target)
    (hadvances : Advances ns name selector bundle before state state' after) :
    Stage selector target after state' := by
  cases hadvances with
  | cleared => trivial
  | clean hstate hbefore hafter =>
    rw [Stage, hafter]
    exact hbefore
  | loaded hafter =>
    rw [Stage, hafter]
    exact htarget h
  | waited hstate hafter =>
    have htarget : after.inventory selector = target := hafter.trans h
    rcases hstate with rfl | rfl <;> exact htarget
  | ended => exact h
  | failed => trivial

/-- Whatever a save captured, a clean restore brings back, and nothing else. The save may be given
any copies of its requests, its calls may fail, and others may write at any moment; between save and
restore everything may change but the bundle. -/
theorem collect_after_cleanRestore {during : Cluster → Prop} {start saved before after : Cluster}
    {saves restores : List (List Exchange)} {request' : Request}
    (hnamed : ∀ cluster, during cluster → (cluster.space ns).Named)
    (hsave : Runs (saving during) settings start saves saved)
    (hmade : .call (.createBundle ns bundle) ∈ saves.flatten.map Sigma.fst)
    (hrequest : Underway ns name bundle request (before.space ns)) (hnew : request.state = .empty)
    (hrestore : Runs (restoring ns name) settings before restores after)
    (hstored : (after.space ns).requests.find? name = some request')
    (hloaded : IsLoaded request'.state) {σ : Type} (s : σ) (instant : Instant) :
    ∃ (inventory : Inventory) (names : Dict String),
      inventory.CollectedWhile during ns settings.managedSelector ∧
        bundle.content = inventory.toBundle names ∧
        ((Inventory.collect ns settings.managedSelector : Activity σ Inventory) s).run
          (Cluster.respond instant) after =
            ((.ok (inventory.restored ns ("Restored by BackupRequest " ++ name)), s), after) := by
  obtain ⟨earlier, sofar, hasked⟩ := exists_asked_of_mem hmade
  obtain ⟨inventory, names, hcollected, hcontent⟩ := captures_of_asked hsave hasked
  refine ⟨inventory, names, hcollected, hcontent, ?_⟩
  -- What the bundle brings is what is restored, as soon as the namespace is clean.
  have hstart : Stage settings.managedSelector
      (inventory.restored ns ("Restored by BackupRequest " ++ name)) (before.space ns)
      request.state := by
    rw [hnew]
    trivial
  obtain ⟨stored, hunderway, hstage⟩ := hrestore.advances hrequest
    (fun _ state space => Stage settings.managedSelector
      (inventory.restored ns ("Restored by BackupRequest " ++ name)) space state) hstart
    fun _ state state' before after hstage hadvances => hstage.advances (fun hclean => by
      rw [hcontent]
      exact Space.inventory_loaded hcollected hnamed hclean) hadvances
  obtain rfl := Option.some.inj (hunderway.stored.symm.trans hstored)
  have htarget : (after.space ns).inventory settings.managedSelector =
      inventory.restored ns ("Restored by BackupRequest " ++ name) := by
    rcases hloaded with hstate | hstate <;> rw [hstate] at hstage <;> exact hstage
  rw [Inventory.run_collect, htarget]

/-! ## A night in a cloud -/

/-- A network that has been configured. -/
def nightlyNetwork : Resource where
  types := some ⟨"director.infra.io/v1beta1", "Network"⟩
  metadata := { name := some "ctlplane", ns := some "cloud", uid := some "7d1f" }
  fields := .ofList [("spec", .object [("vlan", .int 20)]),
    ("status", .object [("currentState", .str "Configured")])]

/-- A secret that belongs to what is managed. -/
def nightlySecret : Secret where
  metadata :=
    { name := some "password", ns := some "cloud",
      labels := some (.ofList [("app.kubernetes.io/managed-by", "director-operator")]) }
  data := some (.ofList [("root", [104, 105])])

/-- A cloud in which a save was just requested. -/
def evening : Cluster :=
  ⟨.ofList [("cloud",
    { managed := .ofList [("Network", .ofList [("ctlplane", nightlyNetwork)])]
      secrets := .ofList [("password", nightlySecret)]
      requests := .ofList [("nightly",
        { metadata :=
            { name := some "nightly", ns := some "cloud"
              creationTimestamp := some ⟨0, false⟩ } })] })]⟩

/-- The bundle that the save makes. -/
def nightlyBundle : Bundle :=
  newBundle {} "cloud" "nightly" "nightly-0" "nightly-0"
    ((evening.space "cloud").inventory ({} : Settings).managedSelector) .empty

/-- A request for a clean restore of that bundle. -/
def rollback : Request where
  metadata := { name := some "rollback", ns := some "cloud" }
  spec := { mode := .cleanRestore, restoreSource := some "nightly-0" }

/-- The cloud on the next morning: network and secret are gone, another network was made, and a
clean restore is requested. -/
def morning : Cluster :=
  ⟨.ofList [("cloud",
    { managed := .ofList [("Network",
        .ofList [("stray", { metadata := { name := some "stray" } })])]
      bundles := .ofList [("nightly-0", nightlyBundle)]
      requests := .ofList [("rollback", rollback)] })]⟩

/-- The cloud is served by a cluster that keeps everything in it named. -/
def namedRespond (question : Query) (cluster : Cluster) : question.Answer × Cluster :=
  let answered := Cluster.respond default question cluster
  (answered.1, if (answered.2.space "cloud").Named then answered.2 else cluster)

theorem answers_namedRespond (question : Query) (cluster : Cluster)
    (h : (cluster.space "cloud").Named) :
    (saving fun cluster => (cluster.space "cloud").Named).answers cluster
        ⟨question, (namedRespond question cluster).1⟩ (namedRespond question cluster).2 ∧
      ((namedRespond question cluster).2.space "cloud").Named := by
  refine ⟨⟨h, ?_⟩, ?_⟩
  · cases question with
    | clock => trivial
    | call call => exact .inl rfl
  · simp only [namedRespond]
    split
    · assumption
    · exact h

/-- The save as it is stored in the cloud. -/
def nightly (cluster : Cluster) : Request :=
  ((cluster.space "cloud").requests.find? "nightly").getD default

/-- What is exchanged in a pass of the save. -/
def nightlyTranscript (cluster : Cluster) : List Exchange :=
  (reconcile {} (nightly cluster)).transcript namedRespond cluster

/-- The cloud after a pass of the save. -/
def afterNightly (cluster : Cluster) : Cluster :=
  ((reconcile {} (nightly cluster)).run namedRespond cluster).2

theorem runs_nightly :
    Runs (saving fun cluster => (cluster.space "cloud").Named) {} evening
      [nightlyTranscript evening, nightlyTranscript (afterNightly evening)]
      (afterNightly (afterNightly evening)) := by
  -- The first pass finds the cloud at rest, and the second makes the bundle.
  have hevening : (evening.space "cloud").Named := by decide +kernel
  have hnight : ((afterNightly evening).space "cloud").Named := by decide +kernel
  have hfirst : (nightly evening).spec.mode = .save := by decide +kernel
  have hsecond : (nightly (afterNightly evening)).spec.mode = .save := by decide +kernel
  have hstart : Runs (saving fun cluster => (cluster.space "cloud").Named) {} evening
      [nightlyTranscript evening] (afterNightly evening) :=
    .pass .start trivial hfirst (Dialogue.yields_transcript ..)
      (Dialogue.path_transcript_of namedRespond answers_namedRespond _ hevening)
  exact hstart.pass trivial hsecond (Dialogue.yields_transcript ..)
    (Dialogue.path_transcript_of namedRespond answers_namedRespond _ hnight)

/-- By noon the cloud has the network and the secret again, and not the network of the morning. -/
theorem collect_at_noon :
    ∃ (restores : List (List Exchange)) (noon : Cluster),
      Runs (restoring "cloud" "rollback") {} morning restores noon ∧
      ∃ (inventory : Inventory) (names : Dict String),
        inventory.CollectedWhile (fun cluster => (cluster.space "cloud").Named) "cloud"
            ({} : Settings).managedSelector ∧
          nightlyBundle.content = inventory.toBundle names ∧
          ((Inventory.collect "cloud" ({} : Settings).managedSelector : Activity Unit Inventory)
            ()).run (Cluster.respond default) noon =
              ((.ok (inventory.restored "cloud" "Restored by BackupRequest rollback"), ()),
                noon) := by
  have hrollback : Underway "cloud" "rollback" nightlyBundle rollback (morning.space "cloud") :=
    ⟨⟨by decide, rfl, rfl, rfl, by decide⟩, by decide +kernel, by decide +kernel⟩
  obtain ⟨restores, noon, hpasses, hrestore⟩ := exists_runs {} hrollback 3
  obtain ⟨request', hunderway, hloaded⟩ := loaded_of_three_passes hrollback rfl (by decide)
    (by decide +kernel) hrestore (Nat.le_of_eq hpasses.symm)
  exact ⟨restores, noon, hrestore, collect_after_cleanRestore (fun _ h => h) runs_nightly
    (by decide +kernel) hrollback rfl hrestore hunderway.stored hloaded () default⟩

end NamespaceBackup.Saga
