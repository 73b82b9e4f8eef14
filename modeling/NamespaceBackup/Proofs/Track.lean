import NamespaceBackup.Proofs.Conditions
import NamespaceBackup.Request.Basic
import NamespaceBackup.Saga.Basic

/-!
# Tracks

A request of one mode passes through the states of its track in order, and may fail for good at
any point before the end. Its status tells the way it took: there is one condition for every
state it entered, in order, and only the last of them is current.

## Main definitions

* `Mode.Leads`: the states that a request may go to from a state
* `Mode.itineraries`: the lists of states that a request may have entered
* `Request.Status.Follows`: a status that tells an itinerary

## Main results

* `Mode.itinerary_step`: an itinerary goes on with the state that is entered next
* `Request.Status.Follows.announced`: announcing the next state keeps a status in order
-/

namespace NamespaceBackup

namespace State

theorem name_injective : Function.Injective name := fun a b h => by
  have ha := ofName?_name a
  rw [h, ofName?_name b] at ha
  exact (Option.some.inj ha).symm

end State

namespace Mode

/-- A request may go from one state to another: it stays where it is, goes to the next state of
its track, or fails for good. -/
def Leads (mode : Mode) (before after : State) : Prop :=
  before = after ∨ (before, after) ∈ mode.track.zip mode.track.tail ∨
    before.isTerminal = false ∧ after = mode.errorState

instance (mode : Mode) (before after : State) : Decidable (mode.Leads before after) :=
  inferInstanceAs (Decidable (_ ∨ _ ∨ _))

/-- The states that a request may have entered, in order: the track up to some point, with the
error state behind it unless the track was finished. -/
def itineraries (mode : Mode) : List (List State) :=
  mode.track.tail.inits ++ mode.track.tail.dropLast.inits.map (· ++ [mode.errorState])

theorem leads_errorState {mode : Mode} {state : State} (h : state.isTerminal = false) :
    mode.Leads state mode.errorState := .inr (.inr ⟨h, rfl⟩)

theorem nodup_of_mem_itineraries {mode : Mode} :
    ∀ visited ∈ mode.itineraries, visited.Nodup := by
  cases mode <;> decide

theorem mem_track_of_mem_itineraries {mode : Mode} :
    ∀ visited ∈ mode.itineraries, visited.getLastD .empty ∈ mode.errorState :: mode.track := by
  cases mode <;> decide

theorem errorState_ne_empty (mode : Mode) : mode.errorState ≠ .empty := by cases mode <;> decide

/-- The next state of a request is the one it is in, or it goes on an itinerary of the request and
was never entered before. -/
theorem itinerary_step {mode : Mode} {visited : List State} (hvisited : visited ∈ mode.itineraries)
    {next : State} (hleads : mode.Leads (visited.getLastD .empty) next) (hne : next ≠ .empty) :
    next = visited.getLastD .empty ∧ next ∈ visited ∨
      next ∉ visited ∧ visited ++ [next] ∈ mode.itineraries := by
  -- There are few itineraries and states, so all steps can be tried.
  have hall : ∀ visited ∈ mode.itineraries, ∀ next ∈ State.all,
      mode.Leads (visited.getLastD .empty) next → next ≠ .empty →
        next = visited.getLastD .empty ∧ next ∈ visited ∨
          next ∉ visited ∧ visited ++ [next] ∈ mode.itineraries := by
    cases mode <;> decide
  exact hall visited hvisited next (by cases next <;> decide) hleads hne

end Mode

namespace Request.Status

open Condition (holding past)

/-- Whether a state is the goal of a request. -/
def IsGoal (state : State) : Prop := state = .saved ∨ state = .restored

instance (state : State) : Decidable (IsGoal state) := inferInstanceAs (Decidable (_ ∨ _))

/-- A status that tells an itinerary of a mode: the types of its conditions are the states that
were entered, the condition of the last one is the only one that is current, and the time of
completion is there exactly at the goal. -/
structure Follows (mode : Mode) (status : Status) : Prop where
  /-- The conditions are those of an itinerary that ends in the state. -/
  visited : ∃ visited ∈ mode.itineraries,
    status.conditions.map (·.typeName) = visited.map State.name ∧
      visited.getLastD .empty = status.state
  /-- Each condition has its state as reason, and is current exactly if its state is. -/
  entries : ∀ c ∈ status.conditions, c.reason = some c.typeName ∧
    c.status = if c.typeName = status.state.name then holding else past
  /-- The time of completion is there exactly at the goal. -/
  completed : status.completionTimestamp.isSome = true ↔ IsGoal status.state

variable {mode : Mode} {status old new : Status}

/-- The status of a request that nobody has worked on yet. -/
theorem follows_default (mode : Mode) : Follows mode {} where
  visited := ⟨[], by cases mode <;> decide, rfl, rfl⟩
  entries := by simp
  completed := by simp [IsGoal]

theorem Follows.mem_track (h : Follows mode status) :
    status.state ∈ mode.errorState :: mode.track := by
  obtain ⟨visited, hvisited, -, hlast⟩ := h.visited
  exact hlast ▸ Mode.mem_track_of_mem_itineraries visited hvisited

theorem Follows.wellFormed (h : Follows mode status) : Conditions.WellFormed status.conditions := by
  obtain ⟨visited, hvisited, htypes, -⟩ := h.visited
  have hnodup : (status.conditions.map (·.typeName)).Nodup := by
    rw [htypes]
    exact (Mode.nodup_of_mem_itineraries visited hvisited).map State.name_injective
  refine ⟨hnodup, ?_⟩
  -- An entry is current exactly if it is of the type of the state, which occurs once.
  have hcount : status.conditions.countP (·.status = holding) =
      (status.conditions.map (·.typeName)).count status.state.name := by
    rw [List.count, List.countP_map]
    refine List.countP_congr fun c hc => ?_
    rw [(h.entries c hc).2]
    split <;> simp_all [Condition.holding_ne_past.symm]
  rw [hcount]
  exact List.nodup_iff_count_le_one.1 hnodup _

/-- Once a request was worked on, there is a current condition, and it is that of its state. -/
theorem Follows.current (h : Follows mode status) (hne : status.state ≠ .empty) :
    ∃ c, Conditions.current? status.conditions = some c ∧ c.typeName = status.state.name := by
  obtain ⟨visited, -, htypes, hlast⟩ := h.visited
  have hmem : status.state ∈ visited := by
    cases visited with
    | nil => exact absurd hlast.symm hne
    | cons first rest =>
      rw [← hlast, List.getLastD_cons]
      exact List.getLastD_mem_cons
  have htype : status.state.name ∈ status.conditions.map (·.typeName) :=
    htypes ▸ List.mem_map_of_mem hmem
  obtain ⟨c, hc, hname⟩ := List.mem_map.1 htype
  have hholding : c.status = holding := by rw [(h.entries c hc).2, if_pos hname]
  cases hfind : Conditions.current? status.conditions with
  | none =>
    have hnone : ∀ c ∈ status.conditions, c.status ≠ holding := by
      simpa [Conditions.current?] using hfind
    exact absurd hholding (hnone c hc)
  | some current =>
    have hcurrent : current.status = holding := by simpa using List.find?_some hfind
    have htype := h.wellFormed.current_eq (List.mem_of_find?_eq_some hfind) hc hcurrent hholding
    exact ⟨current, rfl, htype.trans hname⟩

/-- Announcing the state that a request goes to keeps its status in order, and goes on with the
history that there is. -/
theorem Follows.announced (h : Follows mode old) (hleads : mode.Leads old.state new.state)
    (hne : new.state ≠ .empty) (hconditions : new.conditions = old.conditions)
    (hcompleted : new.completionTimestamp.isSome = true ↔ IsGoal new.state) (now : Instant)
    (message : String) : Follows mode (new.announced now message) ∧
      old.conditions.map (·.typeName) <+:
        (new.announced now message).conditions.map (·.typeName) := by
  obtain ⟨visited, hvisited, htypes, hlast⟩ := h.visited
  have hwell : Conditions.WellFormed new.conditions := hconditions ▸ h.wellFormed
  have hpromote : (new.announced now message).conditions.map (·.typeName) =
      if new.state.name ∈ visited.map State.name then visited.map State.name
      else visited.map State.name ++ [new.state.name] := by
    rw [← htypes, ← hconditions]
    exact Conditions.typeNames_promote hwell
  refine ⟨⟨?_, fun c hc => ?_, hcompleted⟩, ?_⟩
  -- The conditions tell the old itinerary if its last state is announced again, else a longer one.
  · rw [hpromote]
    rcases Mode.itinerary_step hvisited (hlast ▸ hleads) hne with ⟨hsame, hmem⟩ | ⟨hmem, hnext⟩
    · exact ⟨visited, hvisited, if_pos (List.mem_map_of_mem hmem), hsame.symm⟩
    · refine ⟨visited ++ [new.state], hnext, ?_, by simp [Status.announced]⟩
      rw [if_neg (by rwa [List.mem_map_of_injective State.name_injective]), List.map_append]
      rfl
  -- An entry is the one that was promoted, or an old one that is not current any more.
  · rcases Conditions.of_mem_promote hwell hc with
      ⟨htype, hstatus, hreason, -⟩ | ⟨htype, -, old', hold, htype', hreason, -, hstatus⟩
    · exact ⟨htype ▸ hreason, hstatus.trans (if_pos htype).symm⟩
    · obtain ⟨hreason', hstatus'⟩ := h.entries old' (hconditions ▸ hold)
      refine ⟨hreason.trans (htype' ▸ hreason'), ?_⟩
      refine Eq.trans ?_ (if_neg htype).symm
      rw [hstatus, hstatus']
      split <;> simp_all
  · rw [hpromote, htypes]
    split
    · exact List.prefix_refl _
    · exact List.prefix_append _ _

end Request.Status

end NamespaceBackup
