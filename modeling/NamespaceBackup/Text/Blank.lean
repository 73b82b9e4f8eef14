/-!
# Blanks

White space in the sense of the Unicode property `White_Space`, and the text functions
that depend on it.

## Main definitions

* `Text.isBlank`: the property
* `Text.trim`: a text without the blanks at its ends
* `Text.occursIn`: whether one text stands somewhere in another
-/

namespace NamespaceBackup.Text

/-- The ranges of the property `White_Space`. -/
def blankRanges : List (Nat × Nat) :=
  [(0x09, 0x0D), (0x20, 0x20), (0x85, 0x85), (0xA0, 0xA0), (0x1680, 0x1680), (0x2000, 0x200A),
   (0x2028, 0x2029), (0x202F, 0x202F), (0x205F, 0x205F), (0x3000, 0x3000)]

/-- Whether a code point lies in one of the ranges. -/
def inRanges (ranges : List (Nat × Nat)) (code : Nat) : Bool :=
  ranges.any fun range => range.1 ≤ code && code ≤ range.2

/-- Whether a character is white space. -/
def isBlank (c : Char) : Bool := inRanges blankRanges c.toNat

/-- Drops the blanks at the start. -/
def trimStart (cs : List Char) : List Char := cs.dropWhile isBlank

/-- Drops the blanks at the end. -/
def trimEnd (cs : List Char) : List Char := (cs.reverse.dropWhile isBlank).reverse

/-- The text without the blanks at its start and its end. -/
def trim (text : String) : String := String.ofList (trimEnd (trimStart text.toList))

/-- Whether the characters `part` stand somewhere in a list of characters, one after another. -/
def occursInList (part : List Char) : List Char → Bool
  | [] => part.isEmpty
  | c :: cs => part.isPrefixOf (c :: cs) || occursInList part cs

/-- Whether `part` stands somewhere in `text`. -/
def occursIn (part text : String) : Bool := occursInList part.toList text.toList

end NamespaceBackup.Text
