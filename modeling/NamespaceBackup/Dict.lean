/-!
# Dictionaries

A dictionary holds named values in ascending order of name. The order is part of the
type, so two dictionaries that answer every lookup alike are equal, and a listing never
depends on how the dictionary was built.

## Main definitions

* `Assoc.find?`, `Assoc.insert`, `Assoc.erase`: lookup and update on plain lists of pairs
* `Dict`: a list of pairs whose names ascend strictly
* `Dict.find?`, `Dict.insert`, `Dict.erase`, `Dict.ofList`, `Dict.map`

## Main results

* `Dict.find?_insert`, `Dict.find?_erase`: what an update does to every lookup
* `Dict.ext_find?`: a dictionary is determined by its lookups
-/

namespace NamespaceBackup

namespace Assoc

variable {α : Type}

/-- The value of the first pair called `name`. -/
def find? (name : String) : List (String × α) → Option α
  | [] => none
  | (key, value) :: rest => if key = name then some value else find? name rest

/-- Puts a value in front of the first larger name, in place of a pair of the same name. -/
def insert (name : String) (value : α) : List (String × α) → List (String × α)
  | [] => [(name, value)]
  | (key, old) :: rest =>
    if name < key then (name, value) :: (key, old) :: rest
    else if name = key then (name, value) :: rest
    else (key, old) :: insert name value rest

/-- Drops every pair called `name`. -/
def erase (name : String) (pairs : List (String × α)) : List (String × α) :=
  pairs.filter (fun pair => pair.1 ≠ name)

/-- The names ascend strictly. -/
def Ascending (pairs : List (String × α)) : Prop :=
  pairs.Pairwise (fun a b => a.1 < b.1)

theorem mem_insert {name : String} {value : α} {pair : String × α} {pairs : List (String × α)}
    (h : pair ∈ insert name value pairs) : pair = (name, value) ∨ pair ∈ pairs := by
  induction pairs with
  | nil => simpa [insert] using h
  | cons head rest ih =>
    obtain ⟨key, old⟩ := head
    rw [insert] at h
    split at h
    · simpa using h
    · split at h
      · simp only [List.mem_cons] at h ⊢
        exact h.imp id Or.inr
      · simp only [List.mem_cons] at h ⊢
        rcases h with h | h
        · exact Or.inr (Or.inl h)
        · exact (ih h).imp id Or.inr

theorem Ascending.insert {pairs : List (String × α)} (h : Ascending pairs) (name : String)
    (value : α) : Ascending (Assoc.insert name value pairs) := by
  induction pairs with
  | nil => simp [Assoc.insert, Ascending]
  | cons head rest ih =>
    obtain ⟨key, old⟩ := head
    have hrest : Ascending rest := (List.pairwise_cons.1 h).2
    have hkey := (List.pairwise_cons.1 h).1
    rw [Assoc.insert]
    split
    case isTrue hlt =>
      refine List.pairwise_cons.2 ⟨fun pair hpair => ?_, h⟩
      rcases List.mem_cons.1 hpair with rfl | hmem
      · exact hlt
      · exact String.lt_trans hlt (hkey pair hmem)
    case isFalse hlt =>
      split
      case isTrue heq =>
        subst heq
        exact List.pairwise_cons.2 ⟨hkey, hrest⟩
      case isFalse hne =>
        have hgt : key < name := by
          rcases Std.le_total (a := key) (b := name) with hle | hle
          · exact Decidable.byContradiction fun hn =>
              hne (String.le_antisymm (String.not_lt.1 hn) hle)
          · exact absurd (String.le_antisymm (String.not_lt.1 hlt) hle) (fun heq => hne heq.symm)
        refine List.pairwise_cons.2 ⟨fun pair hpair => ?_, ih hrest⟩
        rcases mem_insert hpair with rfl | hmem
        · exact hgt
        · exact hkey pair hmem

theorem Ascending.erase {pairs : List (String × α)} (h : Ascending pairs) (name : String) :
    Ascending (Assoc.erase name pairs) :=
  List.Pairwise.filter _ h

@[simp] theorem find?_insert (name key : String) (value : α) (pairs : List (String × α)) :
    find? key (insert name value pairs) = if name = key then some value else find? key pairs := by
  induction pairs with
  | nil => rfl
  | cons head rest ih =>
    obtain ⟨first, old⟩ := head
    rw [insert]
    split
    · rfl
    · split
      case isTrue heq =>
        subst heq
        simp only [find?]
        split <;> rfl
      case isFalse hne =>
        simp only [find?, ih]
        split
        case isTrue heq =>
          subst heq
          simp [hne]
        case isFalse => rfl

theorem insert_insert {name : String} {value value' : α} (pairs : List (String × α)) :
    insert name value (insert name value' pairs) = insert name value pairs := by
  induction pairs with
  | nil => simp [insert]
  | cons head rest ih =>
    obtain ⟨key, old⟩ := head
    rw [insert]
    split
    case isTrue hlt => simp [insert, hlt]
    case isFalse hlt =>
      split
      case isTrue heq => simp [insert, heq]
      case isFalse hne => simp [insert, hlt, hne, ih]

theorem insert_comm {name other : String} {value value' : α} (hne : name ≠ other)
    (pairs : List (String × α)) :
    insert name value (insert other value' pairs) =
      insert other value' (insert name value pairs) := by
  induction pairs with
  | nil => grind [insert]
  | cons head rest ih =>
    obtain ⟨key, old⟩ := head
    grind [insert]

@[simp] theorem find?_erase (name key : String) (pairs : List (String × α)) :
    find? key (erase name pairs) = if name = key then none else find? key pairs := by
  induction pairs with
  | nil => simp [erase, find?]
  | cons head rest ih =>
    obtain ⟨first, old⟩ := head
    unfold erase at ih
    by_cases hfirst : first = name
    · subst hfirst
      simp only [erase, List.filter_cons, ne_eq, not_true_eq_false, decide_false,
        Bool.false_eq_true, if_false, find?, ih]
      split <;> rfl
    · simp only [erase, List.filter_cons, ne_eq, hfirst, not_false_eq_true, decide_true, if_true,
        find?, ih]
      split
      case isTrue heq =>
        subst heq
        simp [Ne.symm hfirst]
      case isFalse => rfl

theorem find?_eq_none {name : String} {pairs : List (String × α)}
    (h : ∀ pair ∈ pairs, pair.1 ≠ name) : find? name pairs = none := by
  induction pairs with
  | nil => rfl
  | cons head rest ih =>
    obtain ⟨key, value⟩ := head
    simp only [find?]
    rw [if_neg (h (key, value) (by simp)), ih fun pair hpair => h pair (by simp [hpair])]

/-- A name that comes before all others is not among them. -/
theorem find?_eq_none_of_lt {name : String} {pairs : List (String × α)}
    (h : ∀ pair ∈ pairs, name < pair.1) : find? name pairs = none :=
  find?_eq_none fun pair hpair heq => String.lt_irrefl name (heq ▸ h pair hpair)

theorem find?_eq_some_of_mem {name : String} {value : α} {pairs : List (String × α)}
    (h : Ascending pairs) (hmem : (name, value) ∈ pairs) : find? name pairs = some value := by
  induction pairs with
  | nil => simp at hmem
  | cons head rest ih =>
    obtain ⟨key, old⟩ := head
    have hkey := (List.pairwise_cons.1 h).1
    rcases List.mem_cons.1 hmem with heq | hrest
    · simp only [Prod.mk.injEq] at heq
      simp [find?, heq.1, heq.2]
    · have hne : key ≠ name := fun heq => String.lt_irrefl name (heq ▸ hkey (name, value) hrest)
      simp [find?, hne, ih (List.pairwise_cons.1 h).2 hrest]

theorem mem_of_find?_eq_some {name : String} {value : α} {pairs : List (String × α)}
    (h : find? name pairs = some value) : (name, value) ∈ pairs := by
  induction pairs with
  | nil => simp [find?] at h
  | cons head rest ih =>
    obtain ⟨key, old⟩ := head
    simp only [find?] at h
    split at h
    case isTrue heq => simp_all
    case isFalse => exact List.mem_cons_of_mem _ (ih h)

theorem Ascending.ext {xs ys : List (String × α)} (hx : Ascending xs) (hy : Ascending ys)
    (h : ∀ name, find? name xs = find? name ys) : xs = ys := by
  induction xs generalizing ys with
  | nil =>
    cases ys with
    | nil => rfl
    | cons head rest => simpa [find?] using h head.1
  | cons x xs ih =>
    cases ys with
    | nil => simpa [find?] using h x.1
    | cons y ys =>
      have hxs := List.pairwise_cons.1 hx
      have hys := List.pairwise_cons.1 hy
      have hle : ∀ {a b : String × α} (as : List (String × α)) {bs : List (String × α)},
          (∀ pair ∈ bs, b.1 < pair.1) → find? a.1 (a :: as) = find? a.1 (b :: bs) →
          b.1 ≤ a.1 := by
        intro a b as bs hbs hfind
        refine String.not_lt.1 fun hlt => ?_
        have hnone : find? a.1 (b :: bs) = none := find?_eq_none_of_lt <|
          List.forall_mem_cons.2 ⟨hlt, fun pair hpair => String.lt_trans hlt (hbs pair hpair)⟩
        rw [hnone] at hfind
        simp [find?] at hfind
      -- Each first name is the least of its list, so neither comes before the other.
      have hname : x.1 = y.1 :=
        String.le_antisymm (hle ys hxs.1 (h y.1).symm) (hle xs hys.1 (h x.1))
      have hvalue : x.2 = y.2 := by simpa [find?, hname] using h x.1
      -- The rests agree at the first name, which neither has, and at all others.
      have hrest : xs = ys := ih hxs.2 hys.2 fun name => by
        by_cases heq : x.1 = name
        · rw [← heq, find?_eq_none_of_lt hxs.1, hname, find?_eq_none_of_lt hys.1]
        · have hn := h name
          obtain ⟨xk, xv⟩ := x
          obtain ⟨yk, yv⟩ := y
          simp only at heq hname
          subst hname
          simpa only [find?, if_neg heq] using hn
      rw [hrest, Prod.ext hname hvalue]

end Assoc

/-- Named values in ascending order of name, each name once. -/
structure Dict (α : Type) where
  /-- The pairs, in order of name. -/
  entries : List (String × α)
  /-- Every name is smaller than all later ones. -/
  ascending : Assoc.Ascending entries
deriving DecidableEq

namespace Dict

variable {α β : Type}

/-- The dictionary without entries. -/
def empty : Dict α := ⟨[], List.Pairwise.nil⟩

instance : EmptyCollection (Dict α) := ⟨empty⟩

instance : Inhabited (Dict α) := ⟨empty⟩

/-- The value stored under `name`. -/
def find? (dict : Dict α) (name : String) : Option α := Assoc.find? name dict.entries

/-- Whether something is stored under `name`. -/
def contains (dict : Dict α) (name : String) : Bool := (dict.find? name).isSome

/-- Stores a value under `name`, in place of what was there. -/
def insert (dict : Dict α) (name : String) (value : α) : Dict α :=
  ⟨Assoc.insert name value dict.entries, dict.ascending.insert name value⟩

/-- Removes the entry called `name`. -/
def erase (dict : Dict α) (name : String) : Dict α :=
  ⟨Assoc.erase name dict.entries, dict.ascending.erase name⟩

/-- The names, in order. -/
def keys (dict : Dict α) : List String := dict.entries.map Prod.fst

/-- The values, in order of their names. -/
def values (dict : Dict α) : List α := dict.entries.map Prod.snd

/-- Whether nothing is stored. -/
def isEmpty (dict : Dict α) : Bool := dict.entries.isEmpty

/-- The dictionary of a list of pairs; of two pairs with one name the later counts. -/
def ofList (pairs : List (String × α)) : Dict α :=
  pairs.foldl (fun dict pair => dict.insert pair.1 pair.2) empty

/-- Applies a function to every value. -/
def map (f : α → β) (dict : Dict α) : Dict β :=
  ⟨dict.entries.map fun pair => (pair.1, f pair.2), by
    simpa [Assoc.Ascending, List.pairwise_map] using dict.ascending⟩

/-- Changes the value under `name`, if there is one. -/
def modify (dict : Dict α) (name : String) (f : α → α) : Dict α :=
  match dict.find? name with
  | some value => dict.insert name (f value)
  | none => dict

@[ext] theorem ext {x y : Dict α} (h : x.entries = y.entries) : x = y := by
  cases x; cases y; simp_all

theorem ext_find? {x y : Dict α} (h : ∀ name, x.find? name = y.find? name) : x = y :=
  ext (x.ascending.ext y.ascending h)

@[simp] theorem find?_empty (name : String) : (empty : Dict α).find? name = none := rfl

@[simp] theorem find?_insert (dict : Dict α) (name key : String) (value : α) :
    (dict.insert name value).find? key = if name = key then some value else dict.find? key :=
  Assoc.find?_insert name key value dict.entries

theorem find?_insert_of_ne {dict : Dict α} {name other : String} {value : α} (hne : name ≠ other) :
    (dict.insert name value).find? other = dict.find? other := by
  rw [find?_insert, if_neg hne]

@[simp] theorem insert_insert (dict : Dict α) (name : String) (old new : α) :
    (dict.insert name old).insert name new = dict.insert name new :=
  ext (Assoc.insert_insert dict.entries)

theorem insert_comm {name other : String} (hne : name ≠ other) (dict : Dict α) (value value' : α) :
    (dict.insert other value').insert name value = (dict.insert name value).insert other value' :=
  ext (Assoc.insert_comm hne dict.entries)

theorem contains_insert (dict : Dict α) (name key : String) (value : α) :
    (dict.insert name value).contains key = (decide (name = key) || dict.contains key) := by
  rw [contains, find?_insert]
  by_cases heq : name = key <;> simp [heq, contains]

@[simp] theorem find?_erase (dict : Dict α) (name key : String) :
    (dict.erase name).find? key = if name = key then none else dict.find? key :=
  Assoc.find?_erase name key dict.entries

theorem mem_entries_iff {dict : Dict α} {name : String} {value : α} :
    (name, value) ∈ dict.entries ↔ dict.find? name = some value :=
  ⟨Assoc.find?_eq_some_of_mem dict.ascending, Assoc.mem_of_find?_eq_some⟩

end Dict

end NamespaceBackup
