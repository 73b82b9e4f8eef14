import Mathlib.Data.String.Basic
import NamespaceBackup.Text.Utf8

/-!
# The order of bytes

Texts are compared character by character. UTF-8 gives characters of higher numbers more bytes and
higher first bytes, so to compare the bytes that write two texts comes to the same.

## Main results

* `Utf8.encode_eq`: a text is written character by character
* `Utf8.encodeChar_append_lt`: of two characters the one with the lower number has the lower bytes
* `Utf8.encode_lt_encode`: texts are in the order of their bytes
-/

namespace NamespaceBackup.Utf8

/-! ## The bytes of a text -/

theorem toList_loop (bytes : ByteArray) (index : Nat) (done : List UInt8) :
    ByteArray.toList.loop bytes index done = done.reverse ++ bytes.data.toList.drop index := by
  fun_induction ByteArray.toList.loop bytes index done with
  | case1 index done hindex ih =>
    have hget : bytes.get! index = bytes.data.toList[index] := getElem!_pos bytes.data index hindex
    rw [ih, hget, List.reverse_cons, List.append_assoc, List.singleton_append,
      List.getElem_cons_drop]
  | case2 index done hindex =>
    have hdone : bytes.data.toList.length ≤ index := Nat.not_lt.1 hindex
    rw [List.drop_eq_nil_of_le hdone, List.append_nil]

/-- A text is written character by character. -/
theorem encode_eq (text : String) :
    encode text = text.toList.flatMap String.utf8EncodeChar := by
  have hbytes : (text.toList.flatMap String.utf8EncodeChar).toByteArray = text.toUTF8 :=
    String.utf8Encode_toList
  rw [encode, ← hbytes, ByteArray.toList, toList_loop, List.reverse_nil, List.nil_append,
    List.drop_zero, List.toList_data_toByteArray]

/-! ## The order of characters -/

theorem ofNat_lt_ofNat {m n : Nat} (hm : m < 256) (hn : n < 256) :
    UInt8.ofNat m < UInt8.ofNat n ↔ m < n := by
  rw [UInt8.lt_iff_toNat_lt, UInt8.toNat_ofNat_of_lt' hm, UInt8.toNat_ofNat_of_lt' hn]

theorem ofNat_inj {m n : Nat} (hm : m < 256) (hn : n < 256) :
    UInt8.ofNat m = UInt8.ofNat n ↔ m = n := by
  rw [← UInt8.toNat_inj, UInt8.toNat_ofNat_of_lt' hm, UInt8.toNat_ofNat_of_lt' hn]

/-- Of two characters the one with the lower number has the lower bytes, whatever follows them. -/
theorem encodeChar_append_lt {c d : Char} (h : c < d) (xs ys : List UInt8) :
    String.utf8EncodeChar c ++ xs < String.utf8EncodeChar d ++ ys := by
  have hless : c.val.toNat < d.val.toNat := h
  have hbound : d.val.toNat < 0x110000 := by rcases d.valid with h | h <;> omega
  simp only [String.utf8EncodeChar]
  generalize c.val.toNat = m at *
  generalize d.val.toNat = n at *
  -- The bytes but the last two tell the numbers apart, or else they are the same.
  have hhigh : m / 4096 < n / 4096 ∨ m / 4096 = n / 4096 :=
    Nat.lt_or_eq_of_le (Nat.div_le_div_right hless.le)
  rcases hhigh with hhigh | hhigh <;> split_ifs <;>
    simp (disch := omega) only [List.cons_append, List.nil_append, List.cons_lt_cons_iff,
      ofNat_lt_ofNat, ofNat_inj] <;>
    omega

theorem flatMap_encodeChar_lt {cs ds : List Char} (h : cs < ds) :
    cs.flatMap String.utf8EncodeChar < ds.flatMap String.utf8EncodeChar := by
  induction cs generalizing ds with
  | nil =>
    cases ds with
    | nil => exact absurd h (List.lt_irrefl _)
    | cons d ds =>
      rw [List.flatMap_cons]
      cases hd : String.utf8EncodeChar d with
      | nil => exact absurd hd String.utf8EncodeChar_ne_nil
      | cons b bs => exact List.nil_lt_cons _ _
  | cons c cs ih =>
    cases ds with
    | nil => exact absurd h (List.not_lt_nil _)
    | cons d ds =>
      rw [List.flatMap_cons, List.flatMap_cons]
      rcases List.cons_lt_cons_iff.1 h with hlt | ⟨rfl, hlt⟩
      · exact encodeChar_append_lt hlt _ _
      · exact List.append_left_lt (ih hlt)

/-! ## The order of texts -/

/-- Texts are in the order of their bytes. -/
theorem encode_lt_encode {a b : String} : encode a < encode b ↔ a < b := by
  have hmono : ∀ {a b : String}, a < b → encode a < encode b := fun {a b} h => by
    rw [encode_eq, encode_eq]
    exact flatMap_encodeChar_lt (String.lt_iff.1 h)
  constructor
  · intro h
    by_contra hnot
    rcases (Std.le_iff_lt_or_eq (a := b) (b := a)).1 (String.not_lt.1 hnot) with hlt | rfl
    · exact List.lt_asymm h (hmono hlt)
    · exact List.lt_irrefl _ h
  · exact hmono

theorem encode_le_encode {a b : String} : encode a ≤ encode b ↔ a ≤ b := by
  rw [← List.not_lt, encode_lt_encode, String.not_lt]

end NamespaceBackup.Utf8
