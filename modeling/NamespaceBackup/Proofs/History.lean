import Mathlib.Data.List.Induction
import NamespaceBackup.Proofs.Conditions

/-!
# What a history tells

To announce a state is to make its type the current one. The entry that was current is marked `False`,
the announced one says what was announced, and nothing else changes, whatever was announced before.
So a history tells which states were announced, in which order they came first, what was said of each
of them last, and which of them is the current one.

The times are another matter. The entry of the current state is demoted before it is promoted again,
so to announce it once more counts as a transition, although its status, reason and message are what
they were.

## Main definitions

* `Condition.passed`: an entry when another state becomes the current one
* `Conditions.TurnsTo`: what the announcement of a state makes of a history
* `Conditions.announceAll`, `Conditions.Recounts`: the history of some announcements, and what it
  tells of them

## Main results

* `Conditions.promote_eq_map`, `Conditions.promote_eq_concat`: an announcement as a map over the
  history
* `Conditions.history_tells`: what a history tells after an announcement, and after any number of them
* `Conditions.promote_current_moves`: what an announcement of the current state does to the times
-/

namespace NamespaceBackup

namespace Condition

/-- An entry when another state becomes the current one. -/
def passed (now : Instant) (c : Condition) : Condition :=
  if c.status = holding then c.demoted now else c

@[simp] theorem passed_typeName (now : Instant) (c : Condition) :
    (c.passed now).typeName = c.typeName := by
  rw [passed]
  split <;> rfl

@[simp] theorem passed_reason (now : Instant) (c : Condition) :
    (c.passed now).reason = c.reason := by
  rw [passed]
  split <;> rfl

@[simp] theorem passed_message (now : Instant) (c : Condition) :
    (c.passed now).message = c.message := by
  rw [passed]
  split <;> rfl

theorem passed_status (now : Instant) (c : Condition) :
    (c.passed now).status = if c.status = holding then past else c.status := by
  rw [passed]
  split <;> rfl

/-- No entry is current when another one becomes so. -/
theorem passed_status_ne (now : Instant) (c : Condition) : (c.passed now).status ≠ holding := by
  rw [passed_status]
  split
  · exact holding_ne_past.symm
  · assumption

/-- The entry that becomes current is in transition, whatever it said. -/
theorem updated_passed (now : Instant) (c : Condition) {typeName reason message : String} :
    (c.passed now).updated (build now typeName holding reason message) =
      build now typeName holding reason message := by
  have hstatus : ¬ (c.passed now).status = (build now typeName holding reason message).status :=
    passed_status_ne now c
  rw [updated, if_neg]
  simp [agrees, hstatus]

end Condition

namespace Conditions

open Condition (holding past passed)

variable {conditions : List Condition} {now : Instant} {typeName reason message : String}

/-- A type that occurs is announced in its own place. -/
theorem promote_eq_map (h : WellFormed conditions)
    (hmem : typeName ∈ conditions.map (·.typeName)) :
    promote now typeName reason message conditions = conditions.map fun c =>
      if c.typeName = typeName then .build now typeName holding reason message
      else c.passed now := by
  have htypes : (demote now conditions).map (·.typeName) = conditions.map (·.typeName) :=
    typeNames_demote h
  have hnodup : ((demote now conditions).map (·.typeName)).Nodup := htypes ▸ h.nodup
  rw [promote, set_eq_map hnodup (htypes ▸ hmem), demote_eq_map h, List.map_map]
  refine List.map_congr_left fun c _ => ?_
  change (if (c.passed now).typeName = typeName then (c.passed now).updated _ else c.passed now) = _
  rw [Condition.passed_typeName, Condition.updated_passed]

/-- A type that is new is announced at the end. -/
theorem promote_eq_concat (h : WellFormed conditions)
    (hnew : typeName ∉ conditions.map (·.typeName)) :
    promote now typeName reason message conditions =
      conditions.map (·.passed now) ++ [.build now typeName holding reason message] := by
  have hne : ∀ c ∈ demote now conditions, c.typeName ≠ typeName := by
    rintro c hc rfl
    exact hnew (typeNames_demote h ▸ List.mem_map_of_mem hc)
  rw [promote, set_eq_append hne, demote_eq_map h]
  rfl

/-- The announced type stands where it stood, or at the end if it is new. -/
theorem getElem?_promote (h : WellFormed conditions) :
    (promote now typeName reason message conditions)[
      (conditions.map (·.typeName)).idxOf typeName]? =
        some (.build now typeName holding reason message) := by
  by_cases hmem : typeName ∈ conditions.map (·.typeName)
  · have hplace := List.getElem?_idxOf hmem
    rw [List.getElem?_map, Option.map_eq_some_iff] at hplace
    obtain ⟨c, hc, htype⟩ := hplace
    rw [promote_eq_map h hmem, List.getElem?_map, hc, Option.map_some, if_pos htype]
  · have hlength : conditions.length = (conditions.map (·.passed now)).length :=
      (List.length_map _).symm
    rw [promote_eq_concat h hmem, List.idxOf_of_notMem hmem, List.length_map, hlength]
    exact List.getElem?_concat_length

/-- An entry of another type stays where it is. -/
theorem getElem?_promote_of_ne (h : WellFormed conditions) {place : Nat} {old : Condition}
    (hold : conditions[place]? = some old) (hne : old.typeName ≠ typeName) :
    (promote now typeName reason message conditions)[place]? = some (old.passed now) := by
  by_cases hmem : typeName ∈ conditions.map (·.typeName)
  · rw [promote_eq_map h hmem, List.getElem?_map, hold, Option.map_some, if_neg hne]
  · have hlt := (List.getElem?_eq_some_iff.1 hold).1
    rw [promote_eq_concat h hmem, List.getElem?_append_left (by simpa using hlt),
      List.getElem?_map, hold, Option.map_some]

theorem length_promote (h : WellFormed conditions) :
    (promote now typeName reason message conditions).length =
      if typeName ∈ conditions.map (·.typeName) then conditions.length
      else conditions.length + 1 := by
  split
  case isTrue hmem => rw [promote_eq_map h hmem, List.length_map]
  case isFalse hnew =>
    rw [promote_eq_concat h hnew, List.length_append, List.length_map, List.length_singleton]

/-! ## One announcement -/

/-- What the announcement of a state makes of a history. -/
structure TurnsTo (typeName reason message : String) (before after : List Condition) : Prop where
  /-- No type occurs twice. -/
  nodup : (after.map (·.typeName)).Nodup
  /-- Exactly one entry is marked `True`. -/
  current_one : after.countP (·.status = holding) = 1
  /-- The announced state is current. It stands where it stood, or at the end if it is new. -/
  announced : ∃ c : Condition, after[(before.map (·.typeName)).idxOf typeName]? = some c ∧
    c.typeName = typeName ∧ c.status = holding ∧ c.reason = some reason ∧ c.message = some message
  /-- All other entries stand where they stood and say what they said, but none is current. -/
  others : ∀ (place : Nat) (old : Condition), before[place]? = some old → old.typeName ≠ typeName →
    ∃ c : Condition, after[place]? = some c ∧ c.typeName = old.typeName ∧ c.reason = old.reason ∧
      c.message = old.message ∧ c.status = if old.status = holding then past else old.status
  /-- Nothing is added but the announced state. -/
  length_eq : after.length =
    if typeName ∈ before.map (·.typeName) then before.length else before.length + 1

theorem turnsTo_promote (h : WellFormed conditions) :
    TurnsTo typeName reason message conditions
      (promote now typeName reason message conditions) where
  nodup := h.promote.nodup
  current_one := by
    obtain ⟨current, hcurrent, -, -⟩ : ∃ c, current?
        (promote now typeName reason message conditions) = some c ∧ c.typeName = typeName ∧
          c.message = some message := exists_current?_promote h
    have hstatus := List.find?_some hcurrent
    exact Nat.le_antisymm h.promote.current_unique
      (List.countP_pos_iff.2 ⟨current, List.mem_of_find?_eq_some hcurrent, hstatus⟩)
  announced := ⟨_, getElem?_promote h, rfl, rfl, rfl, rfl⟩
  others place old hold hother :=
    ⟨_, getElem?_promote_of_ne h hold hother, old.passed_typeName now, old.passed_reason now,
      old.passed_message now, old.passed_status now⟩
  length_eq := length_promote h

/-- To announce the same state again changes times only. -/
theorem withoutTimes_promote_promote (h : WellFormed conditions) (later : Instant) :
    withoutTimes (promote later typeName reason message
        (promote now typeName reason message conditions)) =
      withoutTimes (promote now typeName reason message conditions) :=
  withoutTimes_promote h.promote stated_mem_promote

/-! ## Announcements one after the other -/

/-- What is said of a state when it becomes the current one. -/
structure Announcement where
  now : Instant
  typeName : String
  reason : String
  message : String

/-- The history of some announcements. -/
def announceAll (announcements : List Announcement) : List Condition :=
  announcements.foldl (fun conditions a => promote a.now a.typeName a.reason a.message conditions) []

theorem announceAll_concat (announcements : List Announcement) (a : Announcement) :
    announceAll (announcements ++ [a]) =
      promote a.now a.typeName a.reason a.message (announceAll announcements) := by
  rw [announceAll, List.foldl_append]
  rfl

/-- What a history tells of some announcements. -/
structure Recounts (announcements : List Announcement) (conditions : List Condition) : Prop where
  /-- The types are those that were announced, in order of first announcement. -/
  types : conditions.map (·.typeName) = (announcements.map (·.typeName)).eraseDups
  /-- Each entry says what was said when its state was last announced. -/
  said : ∀ c ∈ conditions, ∃ last, announcements.reverse.find? (·.typeName = c.typeName) = some last ∧
    c.reason = some last.reason ∧ c.message = some last.message
  /-- The state that was announced last is current, and no other. -/
  status : ∀ c ∈ conditions, c.status =
    if announcements.getLast?.map (·.typeName) = some c.typeName then holding else past

variable {announcements : List Announcement}

theorem wellFormed_announceAll (announcements : List Announcement) :
    WellFormed (announceAll announcements) := by
  induction announcements using List.reverseRecOn with
  | nil => exact ⟨List.nodup_nil, Nat.zero_le 1⟩
  | append_singleton announcements a ih =>
    rw [announceAll_concat]
    exact ih.promote

/-- What is added at the end stays only if it is new. -/
theorem eraseDups_concat (types : List String) (typeName : String) :
    (types ++ [typeName]).eraseDups =
      if typeName ∈ types then types.eraseDups else types.eraseDups ++ [typeName] := by
  rw [List.eraseDups_append, List.removeAll]
  by_cases hold : typeName ∈ types <;> simp [hold, List.eraseDups_cons]

theorem Recounts.concat (h : Recounts announcements conditions) (hwell : WellFormed conditions)
    (a : Announcement) : Recounts (announcements ++ [a])
      (promote a.now a.typeName a.reason a.message conditions) where
  types := by
    rw [typeNames_promote hwell, h.types, List.map_append]
    simp only [List.mem_eraseDups]
    exact (eraseDups_concat _ _).symm
  said c hc := by
    rw [List.reverse_concat, List.find?_cons]
    rcases of_mem_promote hwell hc with ⟨htype, -, hreason, hmessage⟩ |
      ⟨htype, -, old, hold, htype', hreason, hmessage, -⟩
    · exact ⟨a, by simp [htype], hreason, hmessage⟩
    · -- Of another type nothing new was said.
      obtain ⟨last, hlast, hreason', hmessage'⟩ := h.said old hold
      refine ⟨last, ?_, hreason.trans hreason', hmessage.trans hmessage'⟩
      rw [htype'] at htype ⊢
      simp [htype.symm, hlast]
  status c hc := by
    simp only [List.getLast?_concat, Option.map_some, Option.some.injEq]
    rcases of_mem_promote hwell hc with ⟨htype, hstatus, -⟩ |
      ⟨htype, -, old, hold, -, -, -, hstatus⟩
    · rw [hstatus, if_pos htype.symm]
    · rw [hstatus, if_neg htype.symm, h.status old hold]
      split <;> simp_all

theorem recounts_announceAll (announcements : List Announcement) :
    Recounts announcements (announceAll announcements) := by
  induction announcements using List.reverseRecOn with
  | nil => exact ⟨rfl, nofun, nofun⟩
  | append_singleton announcements a ih =>
    rw [announceAll_concat]
    exact ih.concat (wellFormed_announceAll announcements) a

/-- An announcement makes its state the current one and leaves alone what the history says of all
others, and once made it changes nothing but times. So the history of any announcements tells which
states they were about, in order, what was said of each of them last, and which came last. -/
theorem history_tells (h : WellFormed conditions) (now : Instant)
    (typeName reason message : String) :
    TurnsTo typeName reason message conditions (promote now typeName reason message conditions) ∧
    (∀ later, withoutTimes (promote later typeName reason message
        (promote now typeName reason message conditions)) =
      withoutTimes (promote now typeName reason message conditions)) ∧
    ∀ announcements, Recounts announcements (announceAll announcements) :=
  ⟨turnsTo_promote h, withoutTimes_promote_promote h, recounts_announceAll⟩

/-- A history with an entry that is neither current nor marked `False`. -/
def mixed : List Condition :=
  [{ typeName := "Quiescing", status := past, reason := some "q", message := some "quiet" },
    { typeName := "Odd", status := "Unknown" },
    { typeName := "Saving", status := holding, reason := some "s" }]

/-- An old state of it is announced again. -/
theorem mixed_tells : WellFormed mixed ∧
    TurnsTo "Quiescing" "q" "again" mixed (promote ⟨7, 0⟩ "Quiescing" "q" "again" mixed) ∧
    (promote ⟨7, 0⟩ "Quiescing" "q" "again" mixed).map (·.status) = [holding, "Unknown", past] := by
  have hmixed : WellFormed mixed := ⟨by decide, by decide⟩
  exact ⟨hmixed, (history_tells hmixed ⟨7, 0⟩ "Quiescing" "q" "again").1, by decide +kernel⟩

/-! ## The times of the current state -/

/-- The history in which an entry is confirmed without being in transition. -/
def confirm (now : Instant) (typeName : String) (conditions : List Condition) : List Condition :=
  conditions.map fun c =>
    if c.typeName = typeName then { c with lastHeartbeatTime := some now.text } else c

/-- The history in which an entry is in transition besides. -/
def move (now : Instant) (typeName : String) (conditions : List Condition) : List Condition :=
  conditions.map fun c =>
    if c.typeName = typeName then
      { c with lastHeartbeatTime := some now.text, lastTransitionTime := some now.text }
    else c

/-- A history with a current entry that says what is announced. -/
structure Says (typeName reason message : String) (conditions : List Condition)
    (current : Condition) : Prop extends WellFormed conditions where
  mem : current ∈ conditions
  typeName_eq : current.typeName = typeName
  status_eq : current.status = holding
  reason_eq : current.reason = some reason
  message_eq : current.message = some message

namespace Says

variable {current c : Condition} (h : Says typeName reason message conditions current)

include h

theorem mem_types : typeName ∈ conditions.map (·.typeName) :=
  List.mem_map.2 ⟨current, h.mem, h.typeName_eq⟩

theorem eq_current (hc : c ∈ conditions) (hname : c.typeName = typeName) : c = current :=
  List.inj_on_of_nodup_map h.nodup hc h.mem (hname.trans h.typeName_eq.symm)

theorem status_ne (hc : c ∈ conditions) (hne : c.typeName ≠ typeName) : c.status ≠ holding :=
  fun hholding => hne ((h.current_eq hc h.mem hholding h.status_eq).trans h.typeName_eq)

/-- The current entry is in transition when it is announced again, although it says what it said. -/
theorem promote_eq_move (now : Instant) :
    promote now typeName reason message conditions = move now typeName conditions := by
  rw [promote_eq_map h.toWellFormed h.mem_types]
  refine List.map_congr_left fun c hc => ?_
  split
  case isTrue hname =>
    obtain rfl := h.eq_current hc hname
    rw [← h.typeName_eq, ← h.status_eq, Condition.build, ← h.reason_eq, ← h.message_eq]
  case isFalse hne => rw [passed, if_neg (h.status_ne hc hne)]

/-- An entry that says what it said is only confirmed when it is entered again. -/
theorem set_eq_confirm (now : Instant) :
    set (.build now typeName holding reason message) conditions =
      confirm now typeName conditions := by
  rw [set_eq_map h.nodup h.mem_types]
  refine List.map_congr_left fun c hc => if_ctx_congr Iff.rfl (fun hname => ?_) fun _ => rfl
  obtain rfl := h.eq_current hc hname
  rw [Condition.updated, if_pos]
  · rfl
  · simp [Condition.agrees, Condition.build, h.status_eq, h.reason_eq, h.message_eq]

theorem move_eq_confirm_iff (now : Instant) :
    move now typeName conditions = confirm now typeName conditions ↔
      current.lastTransitionTime = some now.text := by
  rw [move, confirm, List.map_inj_left]
  constructor
  · intro hall
    have hsame := congrArg Condition.lastTransitionTime (hall current h.mem)
    rw [if_pos h.typeName_eq, if_pos h.typeName_eq] at hsame
    exact hsame.symm
  · intro htime c hc
    refine if_ctx_congr Iff.rfl (fun hname => ?_) fun _ => rfl
    rw [h.eq_current hc hname, htime]

end Says

/-- To announce the current state with what it says already leaves every other entry alone, but the
entry itself is always in transition. To enter it would only confirm it, which comes to the same just
if it was in transition at that very time before. -/
theorem promote_current_moves {current : Condition}
    (h : Says typeName reason message conditions current) (now : Instant) :
    promote now typeName reason message conditions = move now typeName conditions ∧
    set (.build now typeName holding reason message) conditions = confirm now typeName conditions ∧
    (promote now typeName reason message conditions = confirm now typeName conditions ↔
      current.lastTransitionTime = some now.text) := by
  refine ⟨h.promote_eq_move now, h.set_eq_confirm now, ?_⟩
  rw [h.promote_eq_move now]
  exact h.move_eq_confirm_iff now

/-- An entry of a request that waits. -/
def waiting : Condition where
  typeName := "Quiescing"
  status := holding
  reason := some "Quiescing"
  message := some "waiting"
  lastHeartbeatTime := some "2023-11-14T22:00:00+00:00"
  lastTransitionTime := some "2023-11-14T22:00:00+00:00"

/-- It is announced again as it is, and has the time of a transition that never was. -/
theorem waiting_moves :
    Says "Quiescing" "Quiescing" "waiting" [waiting] waiting ∧
      promote ⟨1700000000, 0⟩ "Quiescing" "Quiescing" "waiting" [waiting] ≠
        confirm ⟨1700000000, 0⟩ "Quiescing" [waiting] := by
  have htold : Says "Quiescing" "Quiescing" "waiting" [waiting] waiting :=
    { nodup := by decide, current_unique := by decide, mem := List.mem_singleton_self waiting
      typeName_eq := rfl, status_eq := rfl, reason_eq := rfl, message_eq := rfl }
  refine ⟨htold, fun heq => ?_⟩
  have htime := (promote_current_moves htold ⟨1700000000, 0⟩).2.2.1 heq
  exact absurd htime (by decide +kernel)

end Conditions

end NamespaceBackup
