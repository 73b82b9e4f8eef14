import Mathlib.Data.List.TakeWhile
import NamespaceBackup.Object.Selector
import NamespaceBackup.Request.Basic
import NamespaceBackup.Settings

/-!
# Labels and the marker of a request

A selector of one term asks for one label. The selector of a marker is of one term if neither the
label nor the marker has a comma, and its label ends where it should if it has no equals sign. Then
it selects exactly what carries the marker.

## Main results

* `Settings.selects_markerSelector`: what the selector of a marker selects
* `Request.comma_notMem_marker`: a marker has no comma if the name of its request has none
-/

namespace NamespaceBackup

namespace Text

theorem split_of_notMem {sep : Char} {text : String} (h : sep ∉ text.toList) :
    split sep text = [text] := by
  simp [split, splitList_of_not_mem [] h]

/-- A text is cut at the first separator. -/
theorem cut?_append {sep : Char} {front : String} (back : String) (h : sep ∉ front.toList) :
    cut? sep (front ++ String.singleton sep ++ back) = some (front, back) := by
  have hfront : ∀ c ∈ front.toList, decide (c ≠ sep) = true := by
    rintro c hc
    have hne : c ≠ sep := fun heq => h (heq ▸ hc)
    exact decide_eq_true hne
  have hlist : (front ++ String.singleton sep ++ back).toList =
      front.toList ++ sep :: back.toList := by simp
  have hdrop : (front ++ String.singleton sep ++ back).toList.dropWhile (· ≠ sep) =
      sep :: back.toList := by
    rw [hlist, List.dropWhile_append_of_pos hfront]
    simp
  have htake : (front ++ String.singleton sep ++ back).toList.takeWhile (· ≠ sep) =
      front.toList := by
    rw [hlist, List.takeWhile_append_of_pos hfront]
    simp
  rw [cut?, hdrop, htake]
  simp

end Text

theorem Settings.selects_markerSelector {settings : Settings} {marker : String}
    (hcomma : ',' ∉ settings.markerLabel.toList) (hequals : '=' ∉ settings.markerLabel.toList)
    (hmarker : ',' ∉ marker.toList) {metadata : Metadata} :
    Selector.selects (settings.markerSelector marker) metadata = true ↔
      metadata.label? settings.markerLabel = some marker := by
  have hsplit : Text.split ',' (settings.markerSelector marker) =
      [settings.markerSelector marker] :=
    Text.split_of_notMem (by simp [markerSelector, hcomma, hmarker])
  have hterm : Selector.Term.parse (settings.markerSelector marker) =
      ⟨settings.markerLabel, some marker⟩ := by
    have htext : settings.markerSelector marker =
        settings.markerLabel ++ String.singleton '=' ++ marker := rfl
    rw [htext, Selector.Term.parse, Text.cut?_append marker hequals]
  have hne : settings.markerSelector marker ≠ "" := by simp [markerSelector]
  simp [Selector.selects, Selector.parse, hsplit, hterm, hne, Selector.Term.holds]

namespace Request

/-- A number is written in digits. -/
theorem notMem_toString_nat {c : Char} (h : c.isDigit = false) (n : Nat) :
    c ∉ (toString n).toList := by
  intro hmem
  rw [Nat.toString_eq_repr, Nat.toList_repr] at hmem
  have hdigit := Nat.isDigit_of_mem_toDigits (by decide) (by decide) hmem
  rw [h] at hdigit
  cases hdigit

theorem comma_notMem_toString (seconds : Int) : ',' ∉ (toString seconds).toList := by
  have hdigits := notMem_toString_nat (c := ',') (by decide)
  cases seconds with
  | ofNat n => exact hdigits n
  | negSucc n =>
    change ',' ∉ ("-" ++ toString (n + 1)).toList
    rw [String.toList_append, List.mem_append]
    exact not_or.2 ⟨by decide, hdigits (n + 1)⟩

/-- A marker has no comma if the name of its request has none. -/
theorem comma_notMem_marker {request : Request} {marker : String}
    (hname : ∀ name ∈ request.metadata.name, ',' ∉ name.toList)
    (h : request.marker? = some marker) : ',' ∉ marker.toList := by
  simp only [marker?, Option.bind_eq_bind, Option.bind_eq_some_iff] at h
  obtain ⟨created, -, name, hrequest, hmarker⟩ := h
  obtain rfl : name ++ "-" ++ toString created.seconds = marker := Option.some.inj hmarker
  rw [String.toList_append, String.toList_append, List.mem_append, List.mem_append]
  exact not_or.2 ⟨not_or.2 ⟨hname name hrequest, by decide⟩, comma_notMem_toString _⟩

end Request

end NamespaceBackup
