import Mathlib.Data.List.Nodup
import NamespaceBackup.Condition

/-!
# The history of conditions

What it means for a history that a type becomes the current one. On a well-formed history the
entry that was current is marked `False` where it stands, and the promoted type is entered in its
own place, or at the end if it is new.

## Main definitions

* `Condition.demoted`: an entry that is no longer current

## Main results

* `Conditions.set_eq_map`, `Conditions.demote_eq_map`: updates as maps over the history
* `Conditions.typeNames_promote`: which types a history has after a promotion, in order
* `Conditions.of_mem_promote`: what the entries are after a promotion
* `Conditions.WellFormed.promote`, `Conditions.exists_current?_promote`: a promotion keeps a history
  well-formed, and the promoted entry is the current one
* `Conditions.withoutTimes_promote`: to promote what is current already changes times only
-/

namespace NamespaceBackup

namespace Condition

/-- The entry of a state that is left: marked `False`, with the old reason and message. -/
def demoted (now : Instant) (c : Condition) : Condition :=
  { build now c.typeName past "" "" with reason := c.reason, message := c.message }

@[simp] theorem demoted_typeName (now : Instant) (c : Condition) :
    (c.demoted now).typeName = c.typeName := rfl

@[simp] theorem demoted_status (now : Instant) (c : Condition) : (c.demoted now).status = past :=
  rfl

@[simp] theorem demoted_reason (now : Instant) (c : Condition) :
    (c.demoted now).reason = c.reason := rfl

@[simp] theorem demoted_message (now : Instant) (c : Condition) :
    (c.demoted now).message = c.message := rfl

/-- The entry of the current state, without its times. -/
def stated (typeName reason message : String) : Condition :=
  { typeName, status := holding, reason := some reason, message := some message }

@[simp] theorem withoutTimes_build (now : Instant) (typeName reason message : String) :
    (build now typeName holding reason message).withoutTimes = stated typeName reason message := rfl

theorem holding_ne_past : holding ≠ past := by decide

/-- An update says what the newer entry says, apart from the times. -/
theorem withoutTimes_updated {old new : Condition} (h : old.typeName = new.typeName) :
    (old.updated new).withoutTimes = new.withoutTimes := by
  rw [updated]
  split
  case isTrue hagrees =>
    simp only [agrees, Bool.and_eq_true, decide_eq_true_eq] at hagrees
    simp [withoutTimes, h, hagrees]
  case isFalse => rfl

theorem withoutTimes_eq_iff {a b : Condition} :
    a.withoutTimes = b.withoutTimes ↔
      a.typeName = b.typeName ∧ a.status = b.status ∧ a.reason = b.reason ∧
        a.message = b.message := by
  simp [withoutTimes]

/-- The current entry, updated with its demotion, is its demotion. -/
theorem updated_demoted {now : Instant} {c : Condition} (h : c.status = holding) :
    c.updated (c.demoted now) = c.demoted now := by
  rw [updated, if_neg]
  simp [agrees, h, holding_ne_past]

end Condition

namespace Conditions

open Condition (holding past)

variable {conditions : List Condition} {new c : Condition} {now : Instant}
  {typeName reason message : String}

/-- A condition of a type that occurs is entered in the place of that type. -/
theorem set_eq_map (hnodup : (conditions.map (·.typeName)).Nodup)
    (hmem : new.typeName ∈ conditions.map (·.typeName)) :
    set new conditions =
      conditions.map fun c => if c.typeName = new.typeName then c.updated new else c := by
  induction conditions with
  | nil => simp at hmem
  | cons old rest ih =>
    rw [List.map_cons, List.nodup_cons] at hnodup
    rw [set, List.map_cons]
    split
    case isTrue heq =>
      congr 1
      -- No later entry is of the same type, so the rest stays as it is.
      refine (List.map_id rest).symm.trans (List.map_congr_left fun c hc => ?_)
      rw [if_neg]
      · rfl
      · intro h
        exact hnodup.1 (heq ▸ h ▸ List.mem_map_of_mem hc)
    case isFalse hne =>
      rw [ih hnodup.2]
      simpa [Ne.symm hne] using hmem

theorem typeNames_set (hnodup : (conditions.map (·.typeName)).Nodup) :
    (set new conditions).map (·.typeName) =
      if new.typeName ∈ conditions.map (·.typeName) then conditions.map (·.typeName)
      else conditions.map (·.typeName) ++ [new.typeName] := by
  split
  case isTrue hmem =>
    rw [set_eq_map hnodup hmem, List.map_map]
    refine List.map_congr_left fun c _ => ?_
    simp only [Function.comp_apply]
    split
    · exact updated_typeName ‹_›
    · rfl
  case isFalse hmem =>
    rw [set_eq_append fun c hc h => hmem (h ▸ List.mem_map_of_mem hc), List.map_append]
    rfl

/-- An entry after an update is of another type and as before, or it is the updated one. -/
theorem of_mem_set (hnodup : (conditions.map (·.typeName)).Nodup) (hc : c ∈ set new conditions) :
    c.typeName ≠ new.typeName ∧ c ∈ conditions ∨ c.withoutTimes = new.withoutTimes := by
  by_cases hmem : new.typeName ∈ conditions.map (·.typeName)
  · rw [set_eq_map hnodup hmem, List.mem_map] at hc
    obtain ⟨old, hold, rfl⟩ := hc
    split
    case isTrue h => exact .inr (Condition.withoutTimes_updated h)
    case isFalse h => exact .inl ⟨h, hold⟩
  · have hne : ∀ c ∈ conditions, c.typeName ≠ new.typeName := fun c hc h =>
      hmem (h ▸ List.mem_map_of_mem hc)
    rw [set_eq_append hne, List.mem_append, List.mem_singleton] at hc
    rcases hc with hc | rfl
    · exact .inl ⟨hne c hc, hc⟩
    · exact .inr rfl

/-- At most one entry is current, so two current entries have one type. -/
theorem WellFormed.current_eq (h : WellFormed conditions) {a b : Condition}
    (ha : a ∈ conditions) (hb : b ∈ conditions) (ha' : a.status = holding)
    (hb' : b.status = holding) : a.typeName = b.typeName := by
  have hone := h.current_unique
  rw [List.countP_eq_length_filter] at hone
  have hfa : a ∈ conditions.filter (·.status = holding) := by simp [ha, ha']
  have hfb : b ∈ conditions.filter (·.status = holding) := by simp [hb, hb']
  rcases hf : conditions.filter (·.status = holding) with _ | ⟨x, _ | ⟨y, rest⟩⟩
  · simp [hf] at hfa
  · rw [hf, List.mem_singleton] at hfa hfb
    rw [hfa, hfb]
  · simp [hf] at hone

/-- Demotion marks the current entry, wherever it stands. -/
theorem demote_eq_map (h : WellFormed conditions) :
    demote now conditions =
      conditions.map fun c => if c.status = holding then c.demoted now else c := by
  rw [demote]
  cases hcurrent : current? conditions with
  | none =>
    have hnone : ∀ c ∈ conditions, c.status ≠ holding := by simpa [current?] using hcurrent
    refine (List.map_id conditions).symm.trans (List.map_congr_left fun c hc => ?_)
    rw [if_neg (hnone c hc)]
    rfl
  | some current =>
    have hmem : current ∈ conditions := List.mem_of_find?_eq_some hcurrent
    have hholding : current.status = holding := by
      simpa using List.find?_some hcurrent
    change set (current.demoted now) conditions = _
    have htype : (current.demoted now).typeName ∈ conditions.map (·.typeName) :=
      List.mem_map.2 ⟨current, hmem, rfl⟩
    rw [set_eq_map h.nodup htype]
    refine List.map_congr_left fun c hc => ?_
    -- An entry is current exactly if it is the one that was found.
    by_cases hstatus : c.status = holding
    · have htype : c.typeName = current.typeName := h.current_eq hc hmem hstatus hholding
      have heq : c = current := List.inj_on_of_nodup_map h.nodup hc hmem htype
      subst heq
      rw [if_pos (Condition.demoted_typeName now c).symm, if_pos hholding,
        Condition.updated_demoted hholding]
    · have htype : c.typeName ≠ current.typeName := fun htype =>
        hstatus (List.inj_on_of_nodup_map h.nodup hc hmem htype ▸ hholding)
      rw [if_neg hstatus]
      exact if_neg htype

theorem typeNames_demote (h : WellFormed conditions) :
    (demote now conditions).map (·.typeName) = conditions.map (·.typeName) := by
  rw [demote_eq_map h, List.map_map]
  refine List.map_congr_left fun c _ => ?_
  simp only [Function.comp_apply]
  split <;> rfl

/-- The types of a history after a promotion: a new one comes last. -/
theorem typeNames_promote (h : WellFormed conditions) :
    (promote now typeName reason message conditions).map (·.typeName) =
      if typeName ∈ conditions.map (·.typeName) then conditions.map (·.typeName)
      else conditions.map (·.typeName) ++ [typeName] := by
  have hnodup : ((demote now conditions).map (·.typeName)).Nodup := by
    rw [typeNames_demote h]
    exact h.nodup
  rw [promote, typeNames_set hnodup, typeNames_demote h]
  rfl

/-- An entry after a promotion is that of the promoted type, with the new reason and message, or
an older one that is not current any more. -/
theorem of_mem_promote (h : WellFormed conditions)
    (hc : c ∈ promote now typeName reason message conditions) :
    c.typeName = typeName ∧ c.status = holding ∧ c.reason = some reason ∧
        c.message = some message ∨
      c.typeName ≠ typeName ∧ c.status ≠ holding ∧ ∃ old ∈ conditions,
        c.typeName = old.typeName ∧ c.reason = old.reason ∧ c.message = old.message ∧
          c.status = if old.status = holding then past else old.status := by
  have hnodup : ((demote now conditions).map (·.typeName)).Nodup := by
    rw [typeNames_demote h]
    exact h.nodup
  rcases of_mem_set hnodup hc with ⟨hne, hmem⟩ | heq
  · right
    rw [demote_eq_map h, List.mem_map] at hmem
    obtain ⟨old, hold, rfl⟩ := hmem
    refine ⟨hne, ?_⟩
    split
    case isTrue => exact ⟨Ne.symm Condition.holding_ne_past, old, hold, by simp [*]⟩
    case isFalse => exact ⟨‹_›, old, hold, by simp [*]⟩
  · exact .inl (Condition.withoutTimes_eq_iff.1 heq)

/-- An entry is current after a promotion exactly if it is of the promoted type. -/
theorem holding_iff_of_mem_promote (h : WellFormed conditions)
    (hc : c ∈ promote now typeName reason message conditions) :
    c.status = holding ↔ c.typeName = typeName := by
  rcases of_mem_promote h hc with ⟨htype, hstatus, -⟩ | ⟨htype, hstatus, -⟩
  · exact iff_of_true hstatus htype
  · exact iff_of_false hstatus htype

theorem WellFormed.promote (h : WellFormed conditions) :
    WellFormed (promote now typeName reason message conditions) := by
  have hnodup : ((Conditions.promote now typeName reason message conditions).map
      (·.typeName)).Nodup := by
    rw [typeNames_promote h]
    split
    case isTrue => exact h.nodup
    case isFalse hnew => exact List.concat_eq_append ▸ h.nodup.concat hnew
  refine ⟨hnodup, ?_⟩
  have hcount : (Conditions.promote now typeName reason message conditions).countP
      (·.status = holding) =
      ((Conditions.promote now typeName reason message conditions).map (·.typeName)).count
        typeName := by
    rw [List.count, List.countP_map]
    refine List.countP_congr fun c hc => ?_
    simp [holding_iff_of_mem_promote h hc]
  rw [hcount]
  exact List.nodup_iff_count_le_one.1 hnodup _

/-- The current entry after a promotion is that of the promoted type, with the new message. -/
theorem exists_current?_promote (h : WellFormed conditions) :
    ∃ c, current? (promote now typeName reason message conditions) = some c ∧
      c.typeName = typeName ∧ c.message = some message := by
  have hmem : typeName ∈ (promote now typeName reason message conditions).map (·.typeName) := by
    rw [typeNames_promote h]
    split
    · assumption
    · simp
  obtain ⟨c, hc, htype⟩ := List.mem_map.1 hmem
  have hsome : (current? (promote now typeName reason message conditions)).isSome = true := by
    rw [current?, List.find?_isSome]
    exact ⟨c, hc, by simpa using (holding_iff_of_mem_promote h hc).2 htype⟩
  obtain ⟨current, hcurrent⟩ := Option.isSome_iff_exists.1 hsome
  have hstatus : current.status = holding := by simpa using List.find?_some hcurrent
  -- The entry that is found is current, so it is the promoted one.
  rcases of_mem_promote h (List.mem_of_find?_eq_some hcurrent) with
    ⟨htype, -, -, hmessage⟩ | ⟨-, hpast, -⟩
  · exact ⟨current, hcurrent, htype, hmessage⟩
  · exact absurd hstatus hpast

/-- What is entered is in the history, apart from its times. -/
theorem withoutTimes_mem_set : new.withoutTimes ∈ withoutTimes (set new conditions) := by
  induction conditions with
  | nil => simp [set, withoutTimes]
  | cons old rest ih =>
    rw [set]
    split
    case isTrue htype => simp [withoutTimes, Condition.withoutTimes_updated htype]
    case isFalse => exact List.mem_cons_of_mem _ ih

theorem stated_mem_promote : Condition.stated typeName reason message ∈
    withoutTimes (promote now typeName reason message conditions) := by
  rw [← Condition.withoutTimes_build now]
  exact withoutTimes_mem_set

/-- To promote what is current already changes times only. -/
theorem withoutTimes_promote (h : WellFormed conditions)
    (hstated : Condition.stated typeName reason message ∈ withoutTimes conditions) :
    withoutTimes (promote now typeName reason message conditions) = withoutTimes conditions := by
  obtain ⟨current, hcurrent, hsame⟩ := List.mem_map.1 hstated
  rw [← Condition.withoutTimes_build now] at hsame
  obtain ⟨htype, hholding, -⟩ := Condition.withoutTimes_eq_iff.1 hsame
  have hnodup : ((demote now conditions).map (·.typeName)).Nodup := by
    rw [typeNames_demote h]
    exact h.nodup
  have hmem : typeName ∈ (demote now conditions).map (·.typeName) := by
    rw [typeNames_demote h]
    exact List.mem_map.2 ⟨current, hcurrent, htype⟩
  rw [promote, set_eq_map hnodup hmem, demote_eq_map h, withoutTimes, List.map_map, List.map_map]
  refine List.map_congr_left fun c hc => ?_
  simp only [Function.comp_apply]
  -- The current entry is demoted and promoted again, and no other entry is touched.
  by_cases hstatus : c.status = holding
  · have heq : c = current :=
      List.inj_on_of_nodup_map h.nodup hc hcurrent (h.current_eq hc hcurrent hstatus hholding)
    have hholding : current.status = holding := hholding
    have hdemoted : (current.demoted now).typeName =
        (Condition.build now typeName holding reason message).typeName := htype
    rw [heq, if_pos hholding, if_pos hdemoted, Condition.withoutTimes_updated hdemoted, hsame]
  · have hother : c.typeName ≠ typeName := fun hname =>
      hstatus (List.inj_on_of_nodup_map h.nodup hc hcurrent (hname.trans htype.symm) ▸ hholding)
    rw [if_neg hstatus]
    exact congrArg _ (if_neg hother)

end Conditions

end NamespaceBackup
