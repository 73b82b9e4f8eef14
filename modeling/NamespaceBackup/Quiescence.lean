import NamespaceBackup.Inventory

/-!
# Quiescence

A namespace is at rest when every controller in it has finished its work. An object whose
controller has not is a hold-up; a report lists all hold-ups.

## Main definitions

* `HoldUp`: an object that is not finished
* `Quiescence.Report`: the hold-ups, by kind and then by name
* `Quiescence.evaluate`: the hold-ups of an inventory
* `Quiescence.evaluateRestored`: the objects of a bundle that are not back yet
-/

namespace NamespaceBackup

/-- An object whose controller has not finished. -/
structure HoldUp where
  /-- The name of its kind. -/
  kind : String
  name : String
deriving DecidableEq, Repr

namespace HoldUp

/-- Hold-ups are ordered by kind, then by name. -/
def le (a b : HoldUp) : Bool := a.kind < b.kind || a.kind = b.kind && a.name ≤ b.name

/-- A hold-up as text. -/
def text (holdUp : HoldUp) : String := holdUp.kind ++ ": " ++ holdUp.name

theorem le_total (a b : HoldUp) : a.le b || b.le a := by
  simp only [le, Bool.or_eq_true, decide_eq_true_eq, Bool.and_eq_true]
  rcases Std.le_total (a := a.kind) (b := b.kind) with h | h
  · by_cases heq : a.kind = b.kind
    · rcases Std.le_total (a := a.name) (b := b.name) with h' | h'
      · exact .inl (.inr ⟨heq, h'⟩)
      · exact .inr (.inr ⟨heq.symm, h'⟩)
    · exact .inl (.inl (String.not_le.1 fun hle => heq (String.le_antisymm h hle)))
  · by_cases heq : a.kind = b.kind
    · rcases Std.le_total (a := a.name) (b := b.name) with h' | h'
      · exact .inl (.inr ⟨heq, h'⟩)
      · exact .inr (.inr ⟨heq.symm, h'⟩)
    · exact .inr (.inl (String.not_le.1 fun hle => heq (String.le_antisymm hle h)))

theorem le_trans {a b c : HoldUp} (hab : a.le b = true) (hbc : b.le c = true) :
    a.le c = true := by
  simp only [le, Bool.or_eq_true, decide_eq_true_eq, Bool.and_eq_true] at *
  rcases hab with hab | ⟨hab, hab'⟩ <;> rcases hbc with hbc | ⟨hbc, hbc'⟩
  · exact .inl (String.lt_trans hab hbc)
  · exact .inl (hbc ▸ hab)
  · exact .inl (hab ▸ hbc)
  · exact .inr ⟨hab.trans hbc, String.le_trans hab' hbc'⟩

theorem le_antisymm {a b : HoldUp} (hab : a.le b = true) (hba : b.le a = true) : a = b := by
  simp only [le, Bool.or_eq_true, decide_eq_true_eq, Bool.and_eq_true] at *
  obtain ⟨ak, an⟩ := a
  obtain ⟨bk, bn⟩ := b
  simp only at *
  rcases hab with hab | ⟨rfl, hab'⟩
  · rcases hba with hba | ⟨rfl, -⟩
    · exact absurd (String.lt_trans hab hba) (String.lt_irrefl _)
    · exact absurd hab (String.lt_irrefl _)
  · rcases hba with hba | ⟨-, hba'⟩
    · exact absurd hba (String.lt_irrefl _)
    · simp [String.le_antisymm hab' hba']

end HoldUp

namespace Quiescence

/-- The hold-ups of a namespace, in order. -/
structure Report where
  holdUps : List HoldUp := []
deriving DecidableEq, Repr

namespace Report

/-- The report of hold-ups found in any order. -/
def ofList (holdUps : List HoldUp) : Report := ⟨holdUps.mergeSort HoldUp.le⟩

/-- Whether there is no hold-up. -/
def quiesced (report : Report) : Bool := report.holdUps.isEmpty

/-- The report as text. -/
def text (report : Report) : String :=
  "[" ++ ", ".intercalate (report.holdUps.map HoldUp.text) ++ "]"

end Report

/-- The hold-up that an object of a kind is. -/
def holdUp (kind : ManagedKind) (object : Resource) : HoldUp := ⟨kind.name, object.anyName⟩

/-- Every object of an inventory that is not finished. -/
def evaluate (inventory : Inventory) : Report :=
  .ofList <| inventory.populatedKinds.flatMap fun (kind, objects) =>
    (objects.filter (!kind.isFinished ·)).map (holdUp kind)

/-- Whether the first object of the given name is there and finished. -/
def isBack (kind : ManagedKind) (live : List Resource) (name : String) : Bool :=
  (live.find? (·.anyName = name)).any kind.isFinished

/-- Every object of a bundle that is missing from an inventory or not finished there. Kinds that
are not managed do not count. -/
def evaluateRestored (content : Bundle.Content) (inventory : Inventory) : Report :=
  .ofList <| content.resources.entries.flatMap fun (kindName, saved) =>
    match ManagedKind.ofName? kindName with
    | none => []
    | some kind =>
      (saved.filter fun object => !isBack kind (inventory.objects kind.name) object.anyName).map
        (holdUp kind)

end Quiescence

end NamespaceBackup
