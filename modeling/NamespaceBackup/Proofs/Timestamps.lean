import NamespaceBackup.Proofs.Calendar
import NamespaceBackup.Time.Timestamp

/-!
# Points in time that are read again

A second of universal time is written with fixed separators between numbers of fixed width, but for
years of more than four digits, which have a sign. What was read from text was a second of a year in
range, and stood at the end of a minute if it was a leap second. So it is read again from what is
written of it, whatever offset and fraction it was read with.

## Main definitions

* `Timestamp.IsWritable`: what can be read from text

## Main results

* `Timestamp.isWritable_of_parse`: what was read from text is what can be
* `Timestamp.parse_text`: it is read again from its own text
-/

namespace NamespaceBackup.Timestamp

open Text (trimStart isBlank)

variable {c : Char} {cs rest : List Char} {limit width n : Nat} {t : Timestamp}

/-! ## Numbers -/

theorem isDigit_of_mem_padded (h : c ∈ (padded width n).toList) : c.isDigit = true := by
  simp only [padded, String.toList_ofList, List.mem_append, List.mem_replicate] at h
  rcases h with ⟨-, rfl⟩ | h
  · rfl
  · exact Nat.isDigit_of_mem_toDigits (by decide) (by decide) h

theorem exists_padded (width n : Nat) :
    ∃ d ds, (padded width n).toList = d :: ds ∧ d.isDigit = true := by
  have hdigits : (padded width n).toList ≠ [] := by
    simp [padded, Nat.toDigits_ne_nil]
  obtain ⟨d, ds, hds⟩ := List.exists_cons_of_ne_nil hdigits
  exact ⟨d, ds, hds, isDigit_of_mem_padded (hds ▸ List.mem_cons_self)⟩

theorem length_padded_le (hwidth : 0 < width) (hn : n < Nat.pow 10 width) :
    (padded width n).toList.length ≤ width := by
  have hdigits := (Nat.length_toDigits_le_iff (by decide) hwidth).2 hn
  simp only [padded, String.toList_ofList, List.length_append, List.length_replicate]
  omega

/-- The zeros in front of a number count for nothing. -/
theorem foldl_padded (width n : Nat) :
    (padded width n).toList.foldl (fun n c => n * 10 + (c.toNat - 0x30)) 0 = n := by
  have hfold (cs : List Char) :
      cs.foldl (fun n c => n * 10 + (c.toNat - 0x30)) 0 = Nat.ofDigitChars 10 cs 0 := by
    rw [Nat.ofDigitChars_eq_foldl]
    simp only [Nat.mul_comm 10]
    rfl
  rw [hfold, padded, String.toList_ofList, Nat.ofDigitChars_append,
    Nat.ofDigitChars_replicate_zero, Nat.mul_zero, Nat.ofDigitChars_ten_toDigits]

/-- A number is read up to the first character that is no digit. -/
theorem number?_padded (hlimit : (padded width n).toList.length ≤ limit)
    (hrest : ∀ c ∈ rest.head?, c.isDigit = false) :
    number? limit ((padded width n).toList ++ rest) = some (n, rest) := by
  have hstop : rest.takeWhile Char.isDigit = [] := by
    cases rest with
    | nil => rfl
    | cons c rest => simp [hrest c rfl]
  have hdigits : (((padded width n).toList ++ rest).takeWhile Char.isDigit).take limit =
      (padded width n).toList := by
    rw [List.takeWhile_append_of_pos fun c hc => isDigit_of_mem_padded hc, hstop, List.append_nil,
      List.take_of_length_le hlimit]
  obtain ⟨d, ds, hds, -⟩ := exists_padded width n
  rw [number?, hdigits, foldl_padded, List.drop_left, if_neg (by simp [hds])]

/-! ## Between blanks -/

theorem isBlank_of_isDigit (h : c.isDigit = true) : isBlank c = false := by
  have hdigits : ∀ k < 10, Text.inRanges Text.blankRanges (48 + k) = false := by decide
  simp only [Char.isDigit, Bool.and_eq_true, decide_eq_true_eq] at h
  have hlow : 48 ≤ c.toNat := UInt32.le_iff_toNat_le.1 h.1
  have hhigh : c.toNat ≤ 57 := UInt32.le_iff_toNat_le.1 h.2
  have hblank := hdigits (c.toNat - 48) (by omega)
  rwa [Nat.add_sub_cancel' hlow] at hblank

theorem trimStart_cons (h : isBlank c = false) : trimStart (c :: rest) = c :: rest := by
  simp [trimStart, h]

theorem trimStart_padded : trimStart ((padded width n).toList ++ rest) =
    (padded width n).toList ++ rest := by
  obtain ⟨d, ds, hds, hd⟩ := exists_padded width n
  rw [hds, List.cons_append, trimStart_cons (isBlank_of_isDigit hd)]

theorem spacedNumber?_padded (hlimit : (padded width n).toList.length ≤ limit)
    (hrest : ∀ c ∈ rest.head?, c.isDigit = false) :
    spacedNumber? limit ((padded width n).toList ++ rest) = some (n, rest) := by
  rw [spacedNumber?, trimStart_padded, number?_padded hlimit hrest]

theorem spacedChar?_cons (h : isBlank c = false) : spacedChar? c (c :: rest) = some rest := by
  rw [spacedChar?, trimStart_cons h]
  exact if_pos rfl

/-! ## Dates and times of day -/

theorem year?_yearText {year : Int} (hrest : ∀ c ∈ rest.head?, c.isDigit = false) :
    year? ((yearText year).toList ++ rest) = some (year, rest) := by
  unfold yearText
  split
  case isTrue hyear =>
    have hsmall : year.toNat < 10000 := by omega
    have hlimit : (padded 4 year.toNat).toList.length ≤ 4 := length_padded_le (by decide) hsmall
    rw [year?, trimStart_padded]
    obtain ⟨d, ds, hds, hd⟩ := exists_padded 4 year.toNat
    have hnumber := number?_padded hlimit hrest
    rw [hds, List.cons_append] at hnumber ⊢
    -- A digit is no sign.
    split
    case h_1 heq | h_2 heq =>
      cases heq
      cases hd
    case h_3 =>
      rw [hnumber]
      simp [Int.toNat_of_nonneg hyear.1]
  case isFalse hyear =>
    have hnumber : number? ((padded 4 year.natAbs).toList ++ rest).length
        ((padded 4 year.natAbs).toList ++ rest) = some (year.natAbs, rest) :=
      number?_padded (by simp) hrest
    split
    case isTrue hneg =>
      have hsign : "-".toList = ['-'] := rfl
      rw [String.toList_append, List.append_assoc, hsign, List.singleton_append, year?,
        trimStart_cons (by decide)]
      have habs : -(year.natAbs : Int) = year := by omega
      simp only [hnumber, Option.map_some, habs]
    case isFalse hneg =>
      have hsign : "+".toList = ['+'] := rfl
      rw [String.toList_append, List.append_assoc, hsign, List.singleton_append, year?,
        trimStart_cons (by decide)]
      have habs : (year.natAbs : Int) = year := by omega
      simp only [hnumber, Option.map_some, habs]

/-- What can be read from text: a second in a year in range, at the end of a minute if it is a leap
second. -/
structure IsWritable (t : Timestamp) : Prop where
  inRange : inRange (Date.ofDay (t.seconds / 86400)) = true
  leap : t.leap = true → t.seconds % 60 = 59

theorem two_digits (n : Nat) (h : n < 100) : (padded 2 n).toList.length ≤ 2 :=
  length_padded_le (by decide) h

theorem date?_text (date : Date) (hmonth : date.month < 100) (hday : date.day < 100)
    (hrest : ∀ c ∈ rest.head?, c.isDigit = false) :
    date? ((yearText date.year).toList ++ '-' :: ((padded 2 date.month).toList ++ '-' ::
      ((padded 2 date.day).toList ++ rest))) = some (date, rest) := by
  rw [date?, year?_yearText (by simp)]
  simp only [Option.bind_eq_bind, Option.bind_some, Option.pure_def]
  rw [spacedChar?_cons (by decide), Option.bind_some,
    spacedNumber?_padded (two_digits _ hmonth) (by simp)]
  simp only [Option.bind_some]
  rw [spacedChar?_cons (by decide), Option.bind_some,
    spacedNumber?_padded (two_digits _ hday) hrest]
  rfl

theorem timeOfDay?_text {hour minute second : Nat} (hhour : hour < 24) (hminute : minute < 60)
    (hsecond : second ≤ 60) :
    timeOfDay? ((padded 2 hour).toList ++ ':' :: ((padded 2 minute).toList ++ ':' ::
      ((padded 2 second).toList ++ ['Z']))) =
      some (((hour : Int) * 3600 + minute * 60 + (min second 59 : Nat), decide (second = 60)),
        ['Z']) := by
  rw [timeOfDay?, spacedNumber?_padded (two_digits _ (by omega)) (by simp)]
  simp only [Option.bind_eq_bind, Option.bind_some, Option.pure_def]
  rw [spacedChar?_cons (by decide), Option.bind_some,
    spacedNumber?_padded (two_digits _ (by omega)) (by simp)]
  simp only [Option.bind_some]
  rw [spacedChar?_cons (by decide), Option.bind_some,
    spacedNumber?_padded (two_digits _ (by omega)) (by simp)]
  simp only [Option.bind_some]
  have hfraction : dropFraction ['Z'] = some ['Z'] := rfl
  rw [hfraction, Option.bind_some, if_pos ⟨hhour, hminute, hsecond⟩]

/-- The characters of a point in time. -/
theorem toList_text (t : Timestamp) : t.text.toList =
    (yearText (Date.ofDay (t.seconds / 86400)).year).toList ++ '-' ::
      ((padded 2 (Date.ofDay (t.seconds / 86400)).month).toList ++ '-' ::
        ((padded 2 (Date.ofDay (t.seconds / 86400)).day).toList ++ 'T' ::
          ((padded 2 ((t.seconds % 86400).toNat / 3600)).toList ++ ':' ::
            ((padded 2 ((t.seconds % 86400).toNat / 60 % 60)).toList ++ ':' ::
              ((padded 2 ((t.seconds % 86400).toNat % 60 + if t.leap then 1 else 0)).toList ++
                ['Z']))))) := by
  have hhyphen : "-".toList = ['-'] := rfl
  have hcolon : ":".toList = [':'] := rfl
  have htime : "T".toList = ['T'] := rfl
  have hzulu : "Z".toList = ['Z'] := rfl
  simp only [text, civilText, String.toList_append, List.append_assoc, hhyphen, hcolon, htime,
    hzulu, List.cons_append, List.nil_append]

/-- What can be read from text is read again from its own text. -/
theorem parse_text (h : t.IsWritable) : parse t.text = some t := by
  have hvalid := Date.isValid_ofDay (t.seconds / 86400)
  obtain ⟨second, hsecond⟩ : ∃ second, second = (t.seconds % 86400).toNat := ⟨_, rfl⟩
  obtain ⟨hmonth, hday⟩ := Date.lt_of_isValid hvalid
  have hoffset : offset? (trimStart ['Z']) = some (0, []) := by decide
  have hlast : second % 60 + (if t.leap then 1 else 0) ≤ 60 := by split <;> omega
  rw [parse, toList_text, ← hsecond, date?_text _ hmonth hday (by simp)]
  simp only [Option.bind_eq_bind, Option.bind_some, Option.pure_def]
  rw [if_pos (by simp), timeOfDay?_text (by omega) (by omega) hlast]
  simp only [Option.bind_some, hoffset, Date.toDay_ofDay]
  have hseconds : t.seconds / 86400 * 86400 + (((second / 3600 : Nat) : Int) * 3600 +
      ((second / 60 % 60 : Nat) : Int) * 60 +
      ((min (second % 60 + if t.leap then 1 else 0) 59 : Nat) : Int)) - 0 = t.seconds := by
    split
    case isTrue hleap =>
      have hend := h.leap hleap
      omega
    case isFalse => omega
  have hleap : decide ((second % 60 + if t.leap then 1 else 0) = 60) = t.leap := by
    cases hleap : t.leap with
    | true =>
      have hend := h.leap hleap
      simp
      omega
    | false =>
      simp
      omega
  rw [hseconds, hleap, if_pos ⟨rfl, hvalid, h.inRange, h.inRange⟩]

/-! ## What was read -/

/-- An offset is a number of minutes. -/
theorem offset_of_signedOffset? {offset : Int} (h : signedOffset? cs = some (offset, rest)) :
    offset % 60 = 0 := by
  unfold signedOffset? at h
  simp only [Option.bind_eq_bind, Option.pure_def] at h
  split at h
  case h_4 => cases h
  -- The sign makes no difference.
  all_goals
    rw [Option.bind_some] at h
    obtain ⟨⟨hours, _⟩, -, h⟩ := Option.bind_eq_some_iff.1 h
    obtain ⟨⟨minutes, _⟩, -, h⟩ := Option.bind_eq_some_iff.1 h
    split at h
    case isTrue =>
      cases h
      omega
    case isFalse => cases h

theorem offset_of_zulu? {offset : Int} (h : offset?.zulu? cs = some (offset, rest)) :
    offset % 60 = 0 := by
  unfold offset?.zulu? at h
  split at h
  case h_1 | h_2 =>
    cases h
    rfl
  case h_3 => exact offset_of_signedOffset? h

theorem offset_of_offset? {offset : Int} (h : offset? cs = some (offset, rest)) :
    offset % 60 = 0 := by
  unfold offset? at h
  split at h
  case h_1 =>
    split at h
    case isTrue =>
      cases h
      rfl
    case isFalse => exact offset_of_zulu? h
  case h_2 => exact offset_of_zulu? h

/-- A leap second stands at the end of a minute. -/
theorem leap_of_timeOfDay? {second : Int} (h : timeOfDay? cs = some ((second, true), rest)) :
    second % 60 = 59 := by
  unfold timeOfDay? at h
  simp only [Option.bind_eq_bind, Option.pure_def] at h
  obtain ⟨⟨hour, _⟩, -, h⟩ := Option.bind_eq_some_iff.1 h
  obtain ⟨_, -, h⟩ := Option.bind_eq_some_iff.1 h
  obtain ⟨⟨minute, _⟩, -, h⟩ := Option.bind_eq_some_iff.1 h
  obtain ⟨_, -, h⟩ := Option.bind_eq_some_iff.1 h
  obtain ⟨⟨last, _⟩, -, h⟩ := Option.bind_eq_some_iff.1 h
  obtain ⟨_, -, h⟩ := Option.bind_eq_some_iff.1 h
  split at h
  · simp only [Option.some.injEq, Prod.mk.injEq, decide_eq_true_eq] at h
    omega
  · cases h

/-- What was read from text can be read from text. -/
theorem isWritable_of_parse {text : String} (h : parse text = some t) : t.IsWritable := by
  unfold parse at h
  simp only [Option.bind_eq_bind, Option.pure_def] at h
  obtain ⟨⟨date, cs⟩, -, h⟩ := Option.bind_eq_some_iff.1 h
  cases cs with
  | nil => cases h
  | cons c cs =>
    dsimp only at h
    split at h
    case isFalse => cases h
    case isTrue =>
      rw [Option.bind_some] at h
      obtain ⟨⟨⟨second, leap⟩, _⟩, htime, h⟩ := Option.bind_eq_some_iff.1 h
      obtain ⟨⟨offset, _⟩, hoffset, h⟩ := Option.bind_eq_some_iff.1 h
      split at h
      case isFalse => cases h
      case isTrue hyears =>
        obtain ⟨-, -, -, hrange⟩ := hyears
        cases h
        refine ⟨hrange, fun hleap => ?_⟩
        cases hleap
        have hsecond := leap_of_timeOfDay? htime
        have hminutes := offset_of_offset? hoffset
        dsimp only
        omega

end NamespaceBackup.Timestamp
