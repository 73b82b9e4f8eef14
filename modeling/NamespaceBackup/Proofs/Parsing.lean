import Mathlib.Tactic.SplitIfs
import NamespaceBackup.Json.Reader
import NamespaceBackup.Proofs.Objects

/-!
# Values in order

The fields of an object stand in ascending order of name, at every depth. A value that was read from
text is in order, and so is every value in order after a merge patch that is in order.

## Main definitions

* `Json.Ordered`: a value in order
* `Json.Document.Proper`: a document whose scalars are scalars

## Main results

* `Json.ordered_of_parse`: what was read from text is in order
* `Json.Ordered.merge`: a merge patch keeps the order
-/

namespace NamespaceBackup.Json

/-- The fields of all objects in a value ascend. -/
inductive Ordered : Json → Prop
  | null : Ordered .null
  | bool (value : Bool) : Ordered (.bool value)
  | int (value : Int) : Ordered (.int value)
  | real (value : Decimal) : Ordered (.real value)
  | str (value : String) : Ordered (.str value)
  | arr {items : List Json} (h : ∀ item ∈ items, Ordered item) : Ordered (.arr items)
  | obj {fields : List (String × Json)} (hascending : Assoc.Ascending fields)
    (h : ∀ name value, (name, value) ∈ fields → Ordered value) : Ordered (.obj fields)

namespace Ordered

variable {json value : Json} {fields : List (String × Json)} {name : String}

theorem ascending (h : (Json.obj fields).Ordered) : Assoc.Ascending fields := by
  cases h with
  | obj hascending => exact hascending

theorem of_mem (h : (Json.obj fields).Ordered) (hmem : (name, value) ∈ fields) : value.Ordered := by
  cases h with
  | obj _ hfields => exact hfields name value hmem

theorem object (h : ∀ name value, (name, value) ∈ fields → value.Ordered) :
    (Json.object fields).Ordered :=
  .obj (Dict.ofList fields).ascending fun name value hmem =>
    h name value (Dict.mem_of_mem_ofList hmem)

end Ordered

/-! ## After a merge patch -/

section Merging

variable {fields : List (String × Json)}

/-- Fields in order, with values in order. -/
def FieldsOrdered (fields : List (String × Json)) : Prop :=
  Assoc.Ascending fields ∧ ∀ name value, (name, value) ∈ fields → Ordered value

theorem FieldsOrdered.insert {name : String} {value : Json} (h : FieldsOrdered fields)
    (hvalue : value.Ordered) : FieldsOrdered (Assoc.insert name value fields) := by
  refine ⟨h.1.insert name value, fun key other hmem => ?_⟩
  rcases Assoc.mem_insert hmem with heq | hmem
  · cases heq
    exact hvalue
  · exact h.2 key other hmem

theorem FieldsOrdered.erase (h : FieldsOrdered fields) (name : String) :
    FieldsOrdered (Assoc.erase name fields) :=
  ⟨h.1.erase name, fun key value hmem => h.2 key value (List.mem_filter.1 hmem).1⟩

theorem Ordered.fieldsOrdered {json : Json} (h : json.Ordered) : FieldsOrdered json.fields := by
  cases json with
  | obj => exact ⟨h.ascending, fun _ _ => h.of_mem⟩
  | _ => exact ⟨.nil, nofun⟩

mutual

/-- A merge patch keeps the order. -/
theorem Ordered.merge : ∀ {patch target : Json}, target.Ordered → patch.Ordered →
    (target.merge patch).Ordered
  | .obj changes, _, htarget, hpatch => by
    have hmerged := htarget.fieldsOrdered.mergeFields fun _ _ => hpatch.of_mem
    exact .obj hmerged.1 hmerged.2
  | .null, _, _, hpatch | .bool _, _, _, hpatch | .int _, _, _, hpatch | .real _, _, _, hpatch
  | .str _, _, _, hpatch | .arr _, _, _, hpatch => hpatch

theorem FieldsOrdered.mergeFields : ∀ {changes fields : List (String × Json)},
    FieldsOrdered fields → (∀ name value, (name, value) ∈ changes → value.Ordered) →
      FieldsOrdered (Json.mergeFields fields changes)
  | [], _, hfields, _ => hfields
  | (name, value) :: rest, fields, hfields, hchanges => by
    have hrest := fun key other (hmem : (key, other) ∈ rest) => hchanges key other (by simp [hmem])
    have hold : ((Assoc.find? name fields).getD .null).Ordered := by
      cases hfind : Assoc.find? name fields with
      | none => exact .null
      | some old => exact hfields.2 name old (Assoc.mem_of_find?_eq_some hfind)
    have hmerged := Ordered.merge hold (hchanges name value (by simp))
    rw [mergeFields_cons]
    -- A field that is named with `null` goes, and any other is merged into what is there.
    cases value with
    | null => exact FieldsOrdered.mergeFields (hfields.erase name) hrest
    | _ => exact FieldsOrdered.mergeFields (hfields.insert hmerged) hrest

end

end Merging

/-! ## Read from text -/

namespace Document

/-- A document whose scalars are values in order: none of them is a container that was not read as
one. -/
inductive Proper : Document → Prop
  | void : Proper .void
  | scalar {value : Json} (h : value.Ordered) : Proper (.scalar value)
  | arr {items : List Document} (h : ∀ item ∈ items, Proper item) : Proper (.arr items)
  | obj {fields : List (Option String × Document)}
    (h : ∀ name field, (name, field) ∈ fields → Proper field) : Proper (.obj fields)

mutual

theorem ordered_of_value? : ∀ {document : Document} {json : Json}, document.Proper →
    document.value? = some json → json.Ordered
  | .void, _, _, hvalue => by cases hvalue
  | .scalar _, _, .scalar h, hvalue => by
    cases hvalue
    exact h
  | .arr items, _, .arr h, hvalue => by
    obtain ⟨values, hvalues, rfl⟩ := Option.map_eq_some_iff.1 hvalue
    exact .arr (ordered_of_itemValues? h hvalues)
  | .obj fields, _, .obj h, hvalue => by
    obtain ⟨values, hvalues, rfl⟩ := Option.map_eq_some_iff.1 hvalue
    exact .object (ordered_of_fieldValues? h hvalues)

theorem ordered_of_itemValues? : ∀ {items : List Document} {values : List Json},
    (∀ item ∈ items, item.Proper) → itemValues? items = some values →
      ∀ value ∈ values, value.Ordered
  | [], _, _, hvalues => by
    cases hvalues
    nofun
  | item :: rest, _, h, hvalues => by
    simp only [itemValues?, Option.bind_eq_bind, Option.bind_eq_some_iff,
      Option.pure_def] at hvalues
    obtain ⟨value, hvalue, others, hothers, heq⟩ := hvalues
    cases heq
    exact List.forall_mem_cons.2 ⟨ordered_of_value? (h item (by simp)) hvalue,
      ordered_of_itemValues? (fun item hitem => h item (by simp [hitem])) hothers⟩

theorem ordered_of_fieldValues? : ∀ {fields : List (Option String × Document)}
    {values : List (String × Json)}, (∀ name field, (name, field) ∈ fields → field.Proper) →
      fieldValues? fields = some values → ∀ name value, (name, value) ∈ values → value.Ordered
  | [], _, _, hvalues => by
    cases hvalues
    nofun
  | (name, field) :: rest, _, h, hvalues => by
    simp only [fieldValues?, Option.bind_eq_bind, Option.bind_eq_some_iff,
      Option.pure_def] at hvalues
    obtain ⟨_, -, value, hvalue, others, hothers, heq⟩ := hvalues
    cases heq
    intro key other hmem
    rcases List.mem_cons.1 hmem with heq | hmem
    · cases heq
      exact ordered_of_value? (h name field (by simp)) hvalue
    · exact ordered_of_fieldValues? (fun name field hfield => h name field (by simp [hfield]))
        hothers key other hmem

end

end Document

/-- A token that is no container. -/
def Token.Proper : Token → Prop
  | .word document => document.Proper
  | _ => True

theorem Numeral.ordered_of_real? {numeral : Numeral} {json : Json} (h : numeral.real? = some json) :
    json.Ordered := by
  have hreal {found : Option Binary}
      (h : found.bind (fun b => some (.real (.ofBinary numeral.negative b))) = some json) :
      json.Ordered := by
    obtain ⟨b, -, heq⟩ := Option.bind_eq_some_iff.1 h
    cases heq
    exact .real _
  simp only [Numeral.real?, Option.bind_eq_bind, Option.pure_def] at h
  repeat' split at h
  all_goals exact hreal h

theorem Numeral.ordered_of_value? {numeral : Numeral} {json : Json}
    (h : numeral.value? = some json) : json.Ordered := by
  rw [Numeral.value?] at h
  split at h
  · split_ifs at h
    · cases h
      exact .int _
    · cases h
      exact .int _
    · exact ordered_of_real? h
  · exact ordered_of_real? h

theorem proper_of_word? {cs : List Char} {document : Document} (h : word? cs = some document) :
    document.Proper := by
  unfold word? at h
  split at h
  · cases h
    exact .scalar .null
  · cases h
    exact .scalar (.bool _)
  · cases h
    exact .scalar (.bool _)
  · obtain ⟨numeral, -, rfl⟩ := Option.map_eq_some_iff.1 h
    cases hvalue : numeral.value? with
    | none => exact .void
    | some value => exact .scalar (Numeral.ordered_of_value? hvalue)

namespace Lexer

variable {tokens : List Token} {lexer lexer' : Lexer} {c : Char}

theorem between_proper (htokens : ∀ token ∈ tokens, token.Proper)
    (h : between tokens c = some lexer) : ∀ token ∈ lexer.tokens, token.Proper := by
  unfold between at h
  split_ifs at h <;> cases h <;> simpa [Token.Proper] using htokens

theorem text_proper {read : Reading} (htokens : ∀ token ∈ tokens, token.Proper)
    (h : text tokens read c = some lexer) : ∀ token ∈ lexer.tokens, token.Proper := by
  unfold text at h
  split_ifs at h <;> cases h <;> simpa [Token.Proper] using htokens

theorem escape_proper {read : Reading} (htokens : ∀ token ∈ tokens, token.Proper)
    (h : escape tokens read c = some lexer) : ∀ token ∈ lexer.tokens, token.Proper := by
  unfold escape at h
  split_ifs at h
  · cases h
    exact htokens
  · obtain ⟨_, -, rfl⟩ := Option.map_eq_some_iff.1 h
    exact htokens

theorem character_proper (hlexer : ∀ token ∈ lexer.tokens, token.Proper)
    (h : lexer.character c = some lexer') : ∀ token ∈ lexer'.tokens, token.Proper := by
  unfold character at h
  split at h
  case h_1 => exact between_proper hlexer h
  case h_2 =>
    split_ifs at h
    · obtain ⟨document, hdocument, h⟩ := Option.bind_eq_some_iff.1 h
      have hword : (Token.word document).Proper := proper_of_word? hdocument
      exact between_proper (List.forall_mem_cons.2 ⟨hword, hlexer⟩) h
    · cases h
      exact hlexer
  case h_3 => exact text_proper hlexer h
  case h_4 => exact escape_proper hlexer h
  case h_5 =>
    obtain ⟨digit, -, rfl⟩ := Option.map_eq_some_iff.1 h
    dsimp only
    split_ifs <;> exact hlexer
  case h_6 =>
    split_ifs at h
    · cases h
      exact hlexer
    · exact text_proper hlexer h
  case h_7 =>
    split_ifs at h
    · cases h
      exact hlexer
    · exact escape_proper hlexer h

theorem step_proper {c : Option Char} (hlexer : ∀ token ∈ lexer.tokens, token.Proper)
    (h : lexer.step c = some lexer') : ∀ token ∈ lexer'.tokens, token.Proper := by
  cases c with
  | some c => exact character_proper hlexer h
  | none =>
    simp only [step, strayByte] at h
    split at h <;> cases h <;> exact hlexer

end Lexer

/-- What every step keeps is kept by all of them. -/
theorem foldlM_keeps {σ β : Type} {f : σ → β → Option σ} (inv : σ → Prop) {items : List β}
    {start last : σ} (hkeeps : ∀ item ∈ items, ∀ s s', inv s → f s item = some s' → inv s')
    (hstart : inv start) (h : items.foldlM f start = some last) : inv last := by
  induction items generalizing start with
  | nil =>
    cases h
    exact hstart
  | cons item rest ih =>
    obtain ⟨next, hnext, h⟩ := Option.bind_eq_some_iff.1 h
    exact ih (fun item hitem => hkeeps item (by simp [hitem]))
      (hkeeps item (by simp) start next hstart hnext) h

theorem proper_of_tokens? {cs : List (Option Char)} {tokens : List Token}
    (h : tokens? cs = some tokens) : ∀ token ∈ tokens, token.Proper := by
  obtain ⟨lexer, hlexer, hfinish⟩ := Option.bind_eq_some_iff.1 h
  have hproper : ∀ token ∈ lexer.tokens, token.Proper :=
    foldlM_keeps (fun lexer => ∀ token ∈ lexer.tokens, token.Proper)
      (fun _ _ _ _ => Lexer.step_proper) (by simp) hlexer
  unfold Lexer.finish? at hfinish
  split at hfinish
  · cases hfinish
    simpa using hproper
  · obtain ⟨document, hdocument, rfl⟩ := Option.map_eq_some_iff.1 hfinish
    have hword : (Token.word document).Proper := proper_of_word? hdocument
    exact fun token htoken =>
      List.forall_mem_cons.2 ⟨hword, hproper⟩ token (List.mem_reverse.1 htoken)
  · cases hfinish

/-- A container that is being read has proper parts. -/
def Frame.Proper : Frame → Prop
  | .array items => ∀ item ∈ items, item.Proper
  | .object fields | .member fields _ => ∀ name field, (name, field) ∈ fields → field.Proper

/-- All that was read so far is proper. -/
structure Builder.Proper (builder : Builder) : Prop where
  frames : ∀ frame ∈ builder.frames, frame.Proper
  complete : ∀ document, builder.expecting = .nothing document → document.Proper

namespace Builder

variable {frames : List Frame} {builder builder' : Builder} {document : Document} {token : Token}

theorem deliver_proper (hframes : ∀ frame ∈ frames, frame.Proper) (hdocument : document.Proper)
    (h : deliver frames document = some builder) : builder.Proper := by
  unfold deliver at h
  split at h
  · cases h
    exact ⟨nofun, fun _ heq => by cases heq; exact hdocument⟩
  · cases h
    obtain ⟨hitems, hrest⟩ := List.forall_mem_cons.1 hframes
    exact ⟨List.forall_mem_cons.2 ⟨List.forall_mem_cons.2 ⟨hdocument, hitems⟩, hrest⟩, nofun⟩
  · cases h
    obtain ⟨hfields, hrest⟩ := List.forall_mem_cons.1 hframes
    refine ⟨List.forall_mem_cons.2 ⟨fun name field hmem => ?_, hrest⟩, nofun⟩
    rcases List.mem_cons.1 hmem with heq | hmem
    · cases heq
      exact hdocument
    · exact hfields name field hmem
  · cases h

theorem deliverContainer_proper (hframes : ∀ frame ∈ frames, frame.Proper)
    (hdocument : document.Proper) (h : deliverContainer frames document = some builder) :
    builder.Proper := by
  refine deliver_proper hframes ?_ h
  split
  · exact hdocument
  · exact .void

theorem value_proper (hframes : ∀ frame ∈ frames, frame.Proper) (htoken : token.Proper)
    (h : value frames token = some builder) : builder.Proper := by
  unfold value at h
  split at h
  · cases h
    exact ⟨List.forall_mem_cons.2 ⟨nofun, hframes⟩, nofun⟩
  · cases h
    exact ⟨List.forall_mem_cons.2 ⟨nofun, hframes⟩, nofun⟩
  · refine deliver_proper hframes ?_ h
    rename_i text
    cases text with
    | none => exact .void
    | some text => exact .scalar (.str text)
  · exact deliver_proper hframes htoken h
  · cases h

theorem close_proper (hframes : ∀ frame ∈ frames, frame.Proper)
    (h : close frames token = some builder) : builder.Proper := by
  unfold close at h
  split at h
  · obtain ⟨hitems, hrest⟩ := List.forall_mem_cons.1 hframes
    exact deliverContainer_proper hrest
      (.arr fun item hitem => hitems item (List.mem_reverse.1 hitem)) h
  · obtain ⟨hfields, hrest⟩ := List.forall_mem_cons.1 hframes
    exact deliverContainer_proper hrest
      (.obj fun name field hfield => hfields name field (List.mem_reverse.1 hfield)) h
  · cases h

theorem step_proper (hbuilder : builder.Proper) (htoken : token.Proper)
    (h : builder.step token = some builder') : builder'.Proper := by
  have hframes := hbuilder.frames
  unfold step at h
  dsimp only at h
  split at h
  case h_1 => exact value_proper hframes htoken h
  case h_2 => exact close_proper hframes h
  case h_3 => exact value_proper hframes htoken h
  case h_4 => exact close_proper hframes h
  case h_5 | h_6 =>
    cases h
    exact ⟨hframes, nofun⟩
  case h_7 =>
    split at h <;> cases h
    rename_i hopen
    rw [hopen] at hframes
    obtain ⟨hfields, hrest⟩ := List.forall_mem_cons.1 hframes
    refine ⟨fun frame hframe => ?_, nofun⟩
    rcases List.mem_cons.1 hframe with rfl | hframe
    · exact hfields
    · exact hrest frame hframe
  case h_8 => split at h <;> cases h <;> exact ⟨hframes, nofun⟩
  case h_9 => exact close_proper hframes h
  case h_10 => cases h

end Builder

theorem Document.proper_of_parse {text : String} {document : Document}
    (h : Document.parse text = some document) : document.Proper := by
  obtain ⟨tokens, htokens, h⟩ := Option.bind_eq_some_iff.1 h
  obtain ⟨builder, hbuilder, hcomplete⟩ := Option.bind_eq_some_iff.1 h
  have hproper : builder.Proper := foldlM_keeps Builder.Proper
    (fun token htoken _ _ hinv => Builder.step_proper hinv (proper_of_tokens? htokens token htoken))
    ⟨by simp, by simp⟩ hbuilder
  split at hcomplete
  · cases hcomplete
    exact hproper.complete _ ‹_›
  · cases hcomplete

/-- What was read from text is in order. -/
theorem ordered_of_parse {text : String} {json : Json} (h : parse text = some json) :
    json.Ordered := by
  obtain ⟨document, hdocument, hvalue⟩ := Option.bind_eq_some_iff.1 h
  exact Document.ordered_of_value? (Document.proper_of_parse hdocument) hvalue

end NamespaceBackup.Json
