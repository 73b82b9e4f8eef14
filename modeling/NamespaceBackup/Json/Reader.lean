import NamespaceBackup.Json.Document
import NamespaceBackup.Json.Numeral
import NamespaceBackup.Text.Utf8

/-!
# Reading JSON text

Text is cut into tokens character by character, and documents are built from the tokens one by
one, so that both steps are recursions on their input. Bytes that are no UTF-8 may stand inside of
texts, which then stand for no value; so do containers that are nested too deep.

## Main definitions

* `Json.Token`, `Json.tokens?`: the tokens of a text
* `Json.Document.ofTokens?`: the document of a list of tokens
* `Json.Document.parse`, `Json.Document.ofBytes?`: the document of a text and of a list of bytes
* `Json.parse`: the value of a text
-/

namespace NamespaceBackup.Json

/-- What JSON text consists of. -/
inductive Token where
  | openArray
  | closeArray
  | openObject
  | closeObject
  | colon
  | comma
  /-- A text, if it is one. -/
  | text (value : Option String)
  /-- A number, a truth value or `null`. -/
  | word (document : Document)

/-- The document of a word, that is of a run of characters outside of texts. -/
def word? (cs : List Char) : Option Document :=
  match cs with
  | ['n', 'u', 'l', 'l'] => some (.scalar .null)
  | ['t', 'r', 'u', 'e'] => some (.scalar (.bool true))
  | ['f', 'a', 'l', 's', 'e'] => some (.scalar (.bool false))
  | cs => (Numeral.ofWord? cs).map fun numeral => (numeral.value?.map .scalar).getD .void

/-! ## Tokens -/

/-- The value of a hexadecimal digit. -/
def hexValue? (c : Char) : Option Nat :=
  if c.isDigit then some (c.toNat - 0x30)
  else if 'a' ≤ c ∧ c ≤ 'f' then some (c.toNat - 0x61 + 10)
  else if 'A' ≤ c ∧ c ≤ 'F' then some (c.toNat - 0x41 + 10)
  else none

/-- The characters of a text so far, in reverse, as long as they are text. -/
abbrev Reading : Type := Option (List Char)

/-- Where the lexer stands. -/
inductive Lexing where
  | between
  | word (read : List Char)
  | text (read : Reading)
  /-- After a backslash. -/
  | escape (read : Reading)
  /-- In the four hexadecimal digits of an escape, after a leading surrogate if one is given. -/
  | unicode (read : Reading) (lead : Option Nat) (seen value : Nat)
  /-- After a leading surrogate, whose partner must follow. -/
  | partner (read : Reading) (lead : Nat)
  /-- After the backslash of that partner. -/
  | partnerEscape (read : Reading) (lead : Nat)

/-- The lexer's tokens so far, in reverse, and where it stands. -/
structure Lexer where
  /-- The finished tokens. -/
  tokens : List Token
  /-- The unfinished one. -/
  lexing : Lexing

namespace Lexer

/-- The character of a two-letter escape. -/
def simpleEscape? (c : Char) : Option Char :=
  if c = '"' ∨ c = '\\' ∨ c = '/' then some c
  else if c = 'b' then some (Char.ofNat 0x08)
  else if c = 'f' then some (Char.ofNat 0x0C)
  else if c = 'n' then some '\n'
  else if c = 'r' then some '\r'
  else if c = 't' then some '\t'
  else none

/-- Reads a character between tokens. -/
def between (tokens : List Token) (c : Char) : Option Lexer :=
  let token (t : Token) : Option Lexer := some ⟨t :: tokens, .between⟩
  if c = ' ' ∨ c = '\n' ∨ c = '\t' ∨ c = '\r' then some ⟨tokens, .between⟩
  else if c = '[' then token .openArray
  else if c = ']' then token .closeArray
  else if c = '\x7b' then token .openObject
  else if c = '\x7d' then token .closeObject
  else if c = ':' then token .colon
  else if c = ',' then token .comma
  else if c = '"' then some ⟨tokens, .text (some [])⟩
  else some ⟨tokens, .word [c]⟩

/-- Whether a character ends a word. -/
def endsWord (c : Char) : Bool := " \n\t\r[]\x7b\x7d:,\"".toList.contains c

/-- Appends a character to a text. -/
def push (c : Char) (read : Reading) : Reading := read.map (c :: ·)

/-- Reads a character of a text. -/
def text (tokens : List Token) (read : Reading) (c : Char) : Option Lexer :=
  if c = '"' then
    some ⟨.text (read.map fun cs => String.ofList cs.reverse) :: tokens, .between⟩
  else if c = '\\' then some ⟨tokens, .escape read⟩
  else if c.toNat < 0x20 then none
  else some ⟨tokens, .text (push c read)⟩

/-- Reads the character behind a backslash. -/
def escape (tokens : List Token) (read : Reading) (c : Char) : Option Lexer :=
  if c = 'u' then some ⟨tokens, .unicode read none 0 0⟩
  else (simpleEscape? c).map fun e => ⟨tokens, .text (push e read)⟩

/-- Where the lexer stands after the four digits of an escape. -/
def afterUnicode (read : Reading) (lead : Option Nat) (value : Nat) : Lexing :=
  match lead with
  | none =>
    if 0xD800 ≤ value ∧ value < 0xDC00 then .partner read value
    else if 0xDC00 ≤ value ∧ value < 0xE000 then .text none
    else .text (push (Char.ofNat value) read)
  | some lead =>
    if 0xDC00 ≤ value ∧ value < 0xE000 then
      .text (push (Char.ofNat (0x10000 + (lead - 0xD800) * 0x400 + (value - 0xDC00))) read)
    else .text none

/-- Reads a character. A surrogate without its partner spoils a text but does not end it. -/
def character (lexer : Lexer) (c : Char) : Option Lexer :=
  let tokens := lexer.tokens
  match lexer.lexing with
  | .between => between tokens c
  | .word read =>
    if endsWord c then (word? read.reverse).bind fun value => between (.word value :: tokens) c
    else some ⟨tokens, .word (c :: read)⟩
  | .text read => text tokens read c
  | .escape read => escape tokens read c
  | .unicode read lead seen value =>
    (hexValue? c).map fun h =>
      let value := value * 16 + h
      if seen = 3 then ⟨tokens, afterUnicode read lead value⟩
      else ⟨tokens, .unicode read lead (seen + 1) value⟩
  | .partner read lead =>
    if c = '\\' then some ⟨tokens, .partnerEscape read lead⟩ else text tokens none c
  | .partnerEscape read lead =>
    if c = 'u' then some ⟨tokens, .unicode read (some lead) 0 0⟩ else escape tokens none c

/-- Reads a byte that belongs to no character: it may only stand inside of a text. -/
def strayByte (lexer : Lexer) : Option Lexer :=
  match lexer.lexing with
  | .text _ => some ⟨lexer.tokens, .text none⟩
  | .partner _ _ => some ⟨lexer.tokens, .text none⟩
  | _ => none

/-- Reads a character, or a byte that belongs to none. -/
def step (lexer : Lexer) : Option Char → Option Lexer
  | some c => lexer.character c
  | none => lexer.strayByte

/-- The tokens at the end of the text. -/
def finish? (lexer : Lexer) : Option (List Token) :=
  match lexer.lexing with
  | .between => some lexer.tokens.reverse
  | .word read => (word? read.reverse).map fun value => (.word value :: lexer.tokens).reverse
  | _ => none

end Lexer

/-- The tokens of a list of characters and stray bytes. -/
def tokens? (cs : List (Option Char)) : Option (List Token) :=
  (cs.foldlM Lexer.step ⟨[], .between⟩).bind Lexer.finish?

/-! ## Documents -/

/-- A container that is being read. -/
inductive Frame where
  /-- An array with the items so far, in reverse. -/
  | array (items : List Document)
  /-- An object with the fields so far, in reverse. -/
  | object (fields : List (Option String × Document))
  /-- An object in which the value of a field comes next. -/
  | member (fields : List (Option String × Document)) (name : Option String)

/-- What may come next. -/
inductive Expecting where
  | value
  | valueOrClose
  | name
  | nameOrClose
  | colon (name : Option String)
  | separator
  /-- The document is complete. -/
  | nothing (document : Document)

/-- The open containers, innermost first, and what may come next. -/
structure Builder where
  /-- The open containers. -/
  frames : List Frame
  /-- What may come next. -/
  expecting : Expecting

namespace Builder

/-- The greatest number of containers around a value, its own included. -/
def maxDepth : Nat := 127

/-- Hands a complete document to the innermost container. -/
def deliver (frames : List Frame) (document : Document) : Option Builder :=
  match frames with
  | [] => some ⟨[], .nothing document⟩
  | .array items :: rest => some ⟨.array (document :: items) :: rest, .separator⟩
  | .member fields name :: rest => some ⟨.object ((name, document) :: fields) :: rest, .separator⟩
  | .object _ :: _ => none

/-- Hands a complete container to the one around it. -/
def deliverContainer (frames : List Frame) (document : Document) : Option Builder :=
  deliver frames (if frames.length < maxDepth then document else .void)

/-- Reads a token where a value may start. -/
def value (frames : List Frame) : Token → Option Builder
  | .openArray => some ⟨.array [] :: frames, .valueOrClose⟩
  | .openObject => some ⟨.object [] :: frames, .nameOrClose⟩
  | .text value => deliver frames ((value.map fun text => .scalar (.str text)).getD .void)
  | .word document => deliver frames document
  | _ => none

/-- Reads a closing bracket. -/
def close (frames : List Frame) (token : Token) : Option Builder :=
  match frames, token with
  | .array items :: rest, .closeArray => deliverContainer rest (.arr items.reverse)
  | .object fields :: rest, .closeObject => deliverContainer rest (.obj fields.reverse)
  | _, _ => none

/-- Reads one token. -/
def step (builder : Builder) (token : Token) : Option Builder :=
  let frames := builder.frames
  match builder.expecting, token with
  | .value, token => value frames token
  | .valueOrClose, .closeArray => close frames token
  | .valueOrClose, token => value frames token
  | .nameOrClose, .closeObject => close frames token
  | .nameOrClose, .text name => some ⟨frames, .colon name⟩
  | .name, .text name => some ⟨frames, .colon name⟩
  | .colon name, .colon =>
    match frames with
    | .object fields :: rest => some ⟨.member fields name :: rest, .value⟩
    | _ => none
  | .separator, .comma =>
    match frames with
    | .array _ :: _ => some ⟨frames, .value⟩
    | .object _ :: _ => some ⟨frames, .name⟩
    | _ => none
  | .separator, token => close frames token
  | _, _ => none

end Builder

namespace Document

/-- The document of a list of tokens. -/
def ofTokens? (tokens : List Token) : Option Document :=
  (tokens.foldlM Builder.step ⟨[], .value⟩).bind fun builder =>
    match builder.expecting with
    | .nothing document => some document
    | _ => none

/-- The document that a text writes; none if the text is no JSON. -/
def parse (text : String) : Option Document := (tokens? (text.toList.map some)).bind ofTokens?

/-- The document that bytes write. -/
def ofBytes? (bytes : List UInt8) : Option Document :=
  (tokens? (Utf8.characters bytes)).bind ofTokens?

end Document

/-- The value that a text writes, all of whose parts count; none if the text is no JSON. -/
def parse (text : String) : Option Json := (Document.parse text).bind Document.value?

end NamespaceBackup.Json
