import Mathlib.Data.List.Induction
import NamespaceBackup.Proofs.Ledger
import NamespaceBackup.Proofs.Quorum
import NamespaceBackup.Proofs.Versions
import NamespaceBackup.Proofs.Vouching

/-!
# The record of a request

The machines that a status records are all that a request remembers of its images. A record only
grows: whatever becomes of a pass, what an older version of the request records is in every newer
one too. Whoever is new in a version was vouched for in the pass that wrote it. This is so even if
the answer of a write gets lost, and passes work on old copies of the request.

## Main definitions

* `Ledger.lossy`: passes over one request, whose writes may be stored without being confirmed
* `Ledger.Numbered`: the number of a version tells which it is
* `Ledger.Accounted`: a machine that some pass of a run has recorded with reason
* `Ledger.Continues`: how a newer version goes on with the record of an older one

## Main results

* `Ledger.record_of_runs`: records only grow, and whoever is recorded was vouched for
-/

namespace NamespaceBackup.Ledger

/-! ## Answers that get lost -/

/-- How a question is answered if answers may get lost. What confirms no write may leave everything
as it is. A status is stored only if the copy that it was made from is the stored one, and its
writer is told so, or that the write failed. -/
inductive Loses : Ledger → Exchange → Ledger → Prop
  | other {ledger : Ledger} {exchange : Exchange}
    (h : ∀ (written stored : Request), exchange ≠
      ⟨.call (.updateStatus written), (.ok stored : Except Failure Request)⟩) :
    Loses ledger exchange ledger
  | stored {current written : Request} {older : Ledger} {version : String}
    (hmatch : written.metadata.resourceVersion = current.metadata.resourceVersion)
    (hunused : Unused version (current :: older)) (answer : Except Failure Request)
    (hanswer : ∀ stored, answer = .ok stored → stored = rewritten current written.status version) :
    Loses (current :: older) ⟨.call (.updateStatus written), answer⟩
      (rewritten current written.status version :: current :: older)

/-- What may be answered if no answer gets lost may be answered if some do. -/
theorem Answers.loses {ledger ledger' : Ledger} {exchange : Exchange}
    (h : Answers ledger exchange ledger') : Loses ledger exchange ledger' := by
  cases h with
  | other hother =>
    refine .other ?_
    rintro written stored rfl
    exact hother written rfl
  | refused failure =>
    refine .other ?_
    rintro written stored ⟨⟩
  | stored hmatch hunused =>
    refine .stored hmatch hunused _ ?_
    rintro _ ⟨⟩
    rfl

/-- Passes over one request, each given some version of it, while others write it at any time and
answers may get lost. -/
def lossy : Saga.Surroundings Ledger where
  answers ledger exchange ledger' := ∃ between, Edits ledger between ∧ Loses between exchange ledger'
  gives ledger request := request ∈ ledger
  between := Edits

/-- The number of a version tells which it is. -/
def Numbered (ledger : Ledger) : Prop :=
  ∀ a ∈ ledger, ∀ b ∈ ledger, a.metadata.resourceVersion = b.metadata.resourceVersion → a = b

/-! ## Records that go on -/

variable {settings : Settings} {transcripts : List (List Exchange)} {ledger ledger' older : Ledger}
  {current newer given copy : Request} {version machine name : String} {exchange : Exchange}
  {journal rest : List Exchange}

/-- A machine was recorded with a snapshot by a pass of a run that had reason to do so. -/
def Accounted (settings : Settings) (transcripts : List (List Exchange)) (machine name : String) :
    Prop :=
  ∃ earlier before written,
    Saga.Asked transcripts earlier before (.call (.updateStatus written)) ∧
    written.currentStatus.snapshotNames.find? machine = some name ∧
    Saga.Vouched settings written before machine name

/-- How a newer version goes on with the record of an older one: it keeps the record, and whoever is
new was vouched for in the pass that wrote the newer version, before it did. -/
structure Continues (settings : Settings) (transcripts : List (List Exchange))
    (older newer : Request) : Prop where
  kept : ∀ machine name, older.currentStatus.snapshotNames.find? machine = some name →
    newer.currentStatus.snapshotNames.find? machine = some name
  added : ∀ machine name, newer.currentStatus.snapshotNames.find? machine = some name →
    older.currentStatus.snapshotNames.find? machine = some name ∨
    ∃ earlier before written,
      Saga.Asked transcripts earlier before (.call (.updateStatus written)) ∧
      newer.status = written.status ∧ Saga.Vouched settings written before machine name

theorem asked_append {transcript earlier before : List Exchange} {question : Query}
    (h : Saga.Asked transcripts earlier before question) :
    Saga.Asked (transcripts ++ [transcript]) earlier before question := by
  obtain ⟨passes, answer, after, later, rfl, hearlier⟩ := h
  exact ⟨passes, answer, after, later ++ [transcript], by simp, hearlier⟩

theorem Accounted.append (h : Accounted settings transcripts machine name)
    (transcript : List Exchange) : Accounted settings (transcripts ++ [transcript]) machine name := by
  obtain ⟨earlier, before, written, hasked, hwritten⟩ := h
  exact ⟨earlier, before, written, asked_append hasked, hwritten⟩

theorem Continues.append (h : Continues settings transcripts current newer)
    (transcript : List Exchange) :
    Continues settings (transcripts ++ [transcript]) current newer where
  kept := h.kept
  added machine name hfind := by
    rcases h.added machine name hfind with hold | ⟨earlier, before, written, hasked, hwritten⟩
    · exact .inl hold
    · exact .inr ⟨earlier, before, written, asked_append hasked, hwritten⟩

/-- A version with the same status has the same record. -/
theorem continues_of_status_eq (h : newer.status = current.status) :
    Continues settings transcripts current newer := by
  have hsame : newer.currentStatus = current.currentStatus :=
    congrArg (Option.getD · ({} : Request.Status)) h
  constructor
  · exact fun machine name hfind => hsame ▸ hfind
  · exact fun machine name hfind => .inl (hsame ▸ hfind)

/-- A ledger in which the number of a version tells which it is, every version goes on with the
record of the one before, and every machine that is recorded is accounted for. -/
structure Chronicle (settings : Settings) (transcripts : List (List Exchange)) (ledger : Ledger) :
    Prop where
  numbered : Numbered ledger
  chain : ledger.IsChain fun newer older => Continues settings transcripts older newer
  accounted : ∀ request ∈ ledger, ∀ machine name,
    request.currentStatus.snapshotNames.find? machine = some name →
    Accounted settings transcripts machine name

namespace Chronicle

theorem singleton (hempty : newer.currentStatus.snapshotNames = .empty) :
    Chronicle settings transcripts [newer] where
  numbered := by simp [Numbered]
  chain := .singleton newer
  accounted := by
    simp [hempty]

theorem append (h : Chronicle settings transcripts ledger) (transcript : List Exchange) :
    Chronicle settings (transcripts ++ [transcript]) ledger where
  numbered := h.numbered
  chain := h.chain.imp fun _ _ hcontinues => hcontinues.append transcript
  accounted request hrequest machine name hfind :=
    (h.accounted request hrequest machine name hfind).append transcript

/-- A new version that goes on with the record of the newest one. -/
theorem cons (h : Chronicle settings transcripts (current :: older))
    (hcontinues : Continues settings transcripts current newer)
    (hversion : newer.metadata.resourceVersion = some version)
    (hunused : Unused version (current :: older)) :
    Chronicle settings transcripts (newer :: current :: older) where
  numbered := eq_of_version_eq_cons h.numbered hversion hunused
  chain := List.isChain_cons_cons.2 ⟨hcontinues, h.chain⟩
  accounted := by
    intro request hrequest machine name hfind
    rcases List.mem_cons.1 hrequest with rfl | hrequest
    · rcases hcontinues.added machine name hfind with hold |
        ⟨earlier, before, written, hasked, hstatus, hvouched⟩
      · exact h.accounted current (by simp) machine name hold
      · refine ⟨earlier, before, written, hasked, ?_, hvouched⟩
        rw [Request.currentStatus, hstatus] at hfind
        exact hfind
    · exact h.accounted request hrequest machine name hfind

/-- What others write changes no record and removes no version. -/
theorem edits (h : Chronicle settings transcripts ledger) (hedits : Edits ledger ledger') :
    Chronicle settings transcripts ledger' ∧ ledger ⊆ ledger' := by
  induction hedits with
  | none => exact ⟨h, List.Subset.refl _⟩
  | edit _ hstatus _ hversion hunused ih =>
    exact ⟨ih.1.cons (continues_of_status_eq hstatus) hversion hunused,
      List.Subset.trans ih.2 (List.subset_cons_self _ _)⟩

end Chronicle

/-! ## Passes that go on with a record -/

/-- A new status and a new version make no difference to what a request asks for. -/
theorem sameCall_rewritten {status : Option Request.Status} (h : Saga.SameCall given copy) :
    Saga.SameCall given (rewritten copy status version) where
  spec := h.spec
  metadata := h.metadata

/-- The copy in hand is a version that asks for what the given one does, and records only machines
that the given one records or that are vouched for. -/
structure Derives (settings : Settings) (given : Request) (journal : List Exchange)
    (ledger : Ledger) (copy : Request) : Prop where
  mem : copy ∈ ledger
  same : Saga.SameCall given copy
  backed : Imaging.Backed (Saga.Vouched settings given journal) given.currentStatus.snapshotNames
    copy.currentStatus.snapshotNames

theorem Derives.mono {journal' : List Exchange} (h : Derives settings given journal ledger copy)
    (hledger : ledger ⊆ ledger') (hjournal : journal ⊆ journal') :
    Derives settings given journal' ledger' copy where
  mem := hledger h.mem
  same := h.same
  backed := h.backed.mono fun _ _ hvouched => hvouched.of_sameCall ⟨rfl, rfl⟩ hjournal

/-- Whichever copy is in hand is such a version. -/
def InStore (settings : Settings) (given : Request) (journal : List Exchange) (ledger : Ledger) :
    Prop :=
  ∀ copy, Saga.InHand given journal copy → Derives settings given journal ledger copy

/-- What is written records, apart from whom the given copy records, only machines that are vouched
for. -/
theorem backed_of_writing {written : Request} (hwriting : Saga.Writing settings given journal written)
    (hstore : InStore settings given journal ledger) :
    Imaging.Backed (Saga.Vouched settings given journal) given.currentStatus.snapshotNames
      written.currentStatus.snapshotNames := by
  cases hwriting with
  | @intro start copy status hcopy hgrounds now message =>
    have hderives := hstore copy (hcopy.other (by simp))
    refine hderives.backed.trans ((hgrounds.vouched hderives.same).mono ?_)
    exact fun _ _ hvouched => hvouched.of_sameCall hderives.same.symm (by simp)

/-- Writing a status for one of the reasons goes on with the record of the version that it was
written over. -/
theorem continues_of_writing {written : Request} {earlier : List Exchange}
    (hwriting : Saga.Writing settings given journal written)
    (hasked : Saga.Asked transcripts earlier journal (.call (.updateStatus written)))
    (hstore : InStore settings given journal ledger) (hnumbered : Numbered ledger)
    (hcurrent : current ∈ ledger)
    (hmatch : written.metadata.resourceVersion = current.metadata.resourceVersion) :
    Continues settings transcripts current (rewritten current written.status version) := by
  cases hwriting with
  | @intro start copy status hcopy hgrounds now message =>
    -- The clock was read last, so the copy in hand is still the one that the status is for.
    have hderives := hstore copy (hcopy.other (by simp))
    obtain rfl : copy = current := hnumbered copy hderives.mem current hcurrent hmatch
    constructor
    · exact fun machine name hfind => hgrounds.kept hfind
    · intro machine name hfind
      rcases hgrounds.vouched hderives.same machine name hfind with hold | hvouched
      · exact .inl hold
      · exact .inr ⟨earlier, _, _, hasked, rfl, hvouched.of_sameCall ⟨rfl, rfl⟩ (by simp)⟩

/-- One exchange of a pass goes on with the records of a ledger, and leaves the copy in hand among
its versions. -/
theorem Chronicle.answered {outcome : Except Failure Action × Request}
    {passes later : List (List Exchange)} {between : Ledger}
    (h : Chronicle settings transcripts between)
    (hstore : InStore settings given journal between)
    (hpass : Dialogue.Yields (Saga.reconcile settings given) (journal ++ exchange :: rest) outcome)
    (htranscripts : transcripts = passes ++ (journal ++ exchange :: rest) :: later)
    (hanswer : Loses between exchange ledger') :
    Chronicle settings transcripts ledger' ∧
      InStore settings given (journal ++ [exchange]) ledger' := by
  have hjournal : journal ⊆ journal ++ [exchange] := List.subset_append_left _ _
  cases hanswer with
  | other hother =>
    -- No write was confirmed, so the copy in hand is the old one.
    refine ⟨h, fun copy hcopy => ?_⟩
    rcases hcopy.of_concat with ⟨hcopy, -⟩ | ⟨before, status, -, rfl⟩
    · exact (hstore copy hcopy).mono (List.Subset.refl _) hjournal
    · exact absurd rfl (hother _ _)
  | @stored current written older version hmatch hunused answer hanswer =>
    have hwriting : Saga.Writing settings given journal written := Saga.writing_of_yields hpass
    have hasked : Saga.Asked transcripts passes.flatten journal (.call (.updateStatus written)) :=
      ⟨passes, answer, rest, later, htranscripts, rfl⟩
    have hcontinues : Continues settings transcripts current
        (rewritten current written.status version) :=
      continues_of_writing hwriting hasked hstore h.numbered (by simp) hmatch
    refine ⟨h.cons hcontinues rfl hunused, fun copy hcopy => ?_⟩
    rcases hcopy.of_concat with ⟨hcopy, -⟩ | ⟨before, status, hbefore, heq⟩
    · exact (hstore copy hcopy).mono (List.subset_cons_self _ _) hjournal
    · -- What was stored is the copy that was written over, with another status and version.
      cases heq
      have hderives := hstore before hbefore
      obtain rfl : before = current := h.numbered before hderives.mem current (by simp) hmatch
      obtain rfl := hanswer copy rfl
      refine ⟨by simp, sameCall_rewritten hderives.same, ?_⟩
      refine (backed_of_writing hwriting hstore).mono fun _ _ hvouched => ?_
      exact hvouched.of_sameCall ⟨rfl, rfl⟩ hjournal

/-- A part of a pass goes on with the records of a ledger. -/
theorem Chronicle.during {outcome : Except Failure Action × Request}
    {passes later : List (List Exchange)} (h : Chronicle settings transcripts ledger)
    (hgiven : given ∈ ledger)
    (hpass : Dialogue.Yields (Saga.reconcile settings given) (journal ++ rest) outcome)
    (htranscripts : transcripts = passes ++ (journal ++ rest) :: later)
    (hpath : lossy.answers.Path ledger journal ledger') :
    Chronicle settings transcripts ledger' ∧ InStore settings given journal ledger' := by
  -- From the end, so that what has been exchanged before the last exchange is a journal again.
  induction journal using List.reverseRecOn generalizing rest ledger' with
  | nil =>
    obtain rfl := Respondent.path_nil.1 hpath
    refine ⟨h, fun copy hcopy => ?_⟩
    obtain rfl := hcopy.of_nil
    exact ⟨hgiven, ⟨rfl, rfl⟩, .refl _ _⟩
  | append_singleton journal exchange ih =>
    obtain ⟨before, hbefore, between, hedits, hanswer⟩ := Respondent.path_concat.1 hpath
    rw [List.append_assoc, List.singleton_append] at hpass htranscripts
    obtain ⟨hchronicle, hstore⟩ := ih hpass htranscripts hbefore
    obtain ⟨hbetween, hsub⟩ := hchronicle.edits hedits
    refine hbetween.answered (fun copy hcopy => ?_) hpass htranscripts hanswer
    exact (hstore copy hcopy).mono hsub (List.Subset.refl _)

theorem chronicle_of_runs {first : Request}
    (hempty : first.currentStatus.snapshotNames = .empty)
    (hruns : Saga.Runs lossy settings [first] transcripts ledger) :
    Chronicle settings transcripts ledger := by
  induction hruns with
  | start => exact .singleton hempty
  | @pass _ _ _ transcripts _ transcript _ _ hedits hgives hpass hpath ih =>
    obtain ⟨h, -⟩ := (ih.append transcript).edits hedits
    have htranscripts : transcripts ++ [transcript] = transcripts ++ (transcript ++ []) :: [] := by
      rw [List.append_nil]
    rw [← List.append_nil transcript] at hpass
    exact (h.during hgives hpass htranscripts hpath).1

/-- Whoever is recorded when a status is written was recorded in the copy that the pass was given, or
was vouched for in the pass before. -/
theorem backed_of_asked {first written : Request} {earlier before : List Exchange}
    (hempty : first.currentStatus.snapshotNames = .empty)
    (hasked : Saga.AskedOver lossy settings [first] given (.call (.updateStatus written)) earlier
      before) :
    Imaging.Backed (Saga.Vouched settings given before) given.currentStatus.snapshotNames
      written.currentStatus.snapshotNames := by
  cases hasked with
  | @intro v v' u transcripts before after answer outcome hrun hedits hgives hpass hpath =>
    have hchronicle := ((chronicle_of_runs hempty hrun).append
      (before ++ ⟨.call (.updateStatus written), answer⟩ :: after)).edits hedits
    exact backed_of_writing (Saga.writing_of_yields hpass)
      (hchronicle.1.during hgives hpass rfl hpath).2

/-- In every run, whatever others write, the cluster answers and commands come to, and even if the
answers of writes get lost: each version of a request goes on with the record of the one before, so
no machine that is recorded is ever changed or taken back; and a machine is recorded only by a pass
that has heard by then that its marker is ready, that it runs, and that it is back in its cluster. -/
theorem record_of_runs {first : Request}
    (hempty : first.currentStatus.snapshotNames = .empty)
    (hruns : Saga.Runs lossy settings [first] transcripts ledger) :
    (ledger.IsChain fun newer older => Continues settings transcripts older newer) ∧
      ∀ request ∈ ledger, ∀ machine name,
        request.currentStatus.snapshotNames.find? machine = some name →
        Accounted settings transcripts machine name :=
  have h := chronicle_of_runs hempty hruns
  ⟨h.chain, h.accounted⟩

/-! ## A cluster that joins again -/

/-- Stores statuses, and answers everything else as an obliging cluster does. -/
def serve (first : Request) (objects : ManagedKind → List Resource) (markers : List Resource) :
    (question : Query) → Ledger → question.Answer × Ledger
  | .call (.updateStatus written), ledger => write written ledger
  | question, ledger => ((Versions.respond first objects markers question ledger).1, ledger)

theorem answers_serve (first : Request) (objects : ManagedKind → List Resource)
    (markers : List Resource) (question : Query) (ledger : Ledger) :
    lossy.answers ledger ⟨question, (serve first objects markers question ledger).1⟩
      (serve first objects markers question ledger).2 := by
  refine ⟨ledger, .none, ?_⟩
  cases question with
  | clock => exact Answers.loses (.other (by simp))
  | call c =>
    cases c with
    | updateStatus written => exact (answers_write written ledger).loses
    | _ => exact Answers.loses (.other (by simp))

open Quorum (trioObjects trioRequest)

/-- The marker of the first machine, whose image has been taken. -/
def firstMarker : Resource where
  metadata := { name := some "vm-0-save-0" }
  fields := .ofList [("status", .object [("readyToUse", .bool true)])]

/-- What is stored after a pass that finds the marker of the first machine. -/
def afterPass : Ledger :=
  ((Saga.reconcile {} trioRequest).run (serve trioRequest trioObjects [firstMarker]) [trioRequest]).2

/-- The first machine is recorded once its marker is ready and it has joined its cluster again, and
is accounted for. -/
theorem trioRequest_accounted :
    trioRequest.currentStatus.snapshotNames = .empty ∧ ∃ transcripts,
      Saga.Runs lossy {} [trioRequest] transcripts afterPass ∧
      (afterPass.headD trioRequest).currentStatus.snapshotNames.find? "vm-0" = some "vm-0-save-0" ∧
      Accounted {} transcripts "vm-0" "vm-0-save-0" := by
  have hempty : trioRequest.currentStatus.snapshotNames = .empty := rfl
  have hrun : Saga.Runs lossy {} [trioRequest] _ afterPass :=
    Saga.runs_transcript (answers_serve trioRequest trioObjects [firstMarker]) .none
      (List.mem_singleton_self trioRequest)
  have hnewest : afterPass.headD trioRequest ∈ afterPass := by decide +kernel
  have hrecorded : (afterPass.headD trioRequest).currentStatus.snapshotNames.find? "vm-0" =
      some "vm-0-save-0" := by decide +kernel
  have hrecord := record_of_runs hempty hrun
  exact ⟨hempty, _, hrun, hrecorded, hrecord.2 _ hnewest _ _ hrecorded⟩

end NamespaceBackup.Ledger
