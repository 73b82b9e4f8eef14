/-!
# Cutting texts apart

## Main definitions

* `Text.split`: the parts of a text between all occurrences of a character
* `Text.cut?`: the parts of a text in front of and behind the first occurrence of a character
-/

namespace NamespaceBackup.Text

/-- The parts between all occurrences of `sep`; `part` is the part read so far, reversed. -/
def splitList (sep : Char) (part : List Char) : List Char → List (List Char)
  | [] => [part.reverse]
  | c :: cs => if c = sep then part.reverse :: splitList sep [] cs else splitList sep (c :: part) cs

/-- The parts of a text between all occurrences of `sep`. -/
def split (sep : Char) (text : String) : List String :=
  (splitList sep [] text.toList).map String.ofList

/-- The parts in front of and behind the first occurrence of `sep`, if it occurs. -/
def cut? (sep : Char) (text : String) : Option (String × String) :=
  match text.toList.dropWhile (· ≠ sep) with
  | [] => none
  | _ :: rest => some (String.ofList (text.toList.takeWhile (· ≠ sep)), String.ofList rest)

theorem splitList_of_not_mem {sep : Char} {cs : List Char} (part : List Char) (h : sep ∉ cs) :
    splitList sep part cs = [part.reverse ++ cs] := by
  induction cs generalizing part with
  | nil => simp [splitList]
  | cons c cs ih =>
    simp only [List.mem_cons, not_or] at h
    rw [splitList, if_neg (Ne.symm h.1), ih _ h.2]
    simp

end NamespaceBackup.Text
