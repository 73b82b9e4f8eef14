/-!
# Text on a terminal

What is left of a text when the control sequences of a terminal and all other invisible controls
are taken out of it. A sequence starts with an escape character; which character ends it depends on
how it goes on.

## Main definitions

* `Terminal.Mode`: where a text stands in a control sequence
* `Terminal.visible`: a text without control sequences
-/

namespace NamespaceBackup.Terminal

/-- Where a text stands in a control sequence. -/
inductive Mode where
  /-- Outside of control sequences. -/
  | ground
  /-- Behind the escape character. -/
  | escape
  /-- Behind an escape character and marks that go with it. -/
  | marked
  /-- In a sequence that the next letter ends. -/
  | control
  /-- In front of the parameters of a device string. -/
  | deviceStart
  /-- In the parameters of a device string. -/
  | deviceParameters
  /-- In the marks behind them. -/
  | deviceMarks
  /-- In a device string. -/
  | device
  /-- In a string that means nothing. -/
  | idle
  /-- In a command to the system, which the bell ends. -/
  | system
deriving DecidableEq, Repr

namespace Mode

/-- Whether blanks among controls are shown in this mode. -/
def showsBlanks : Mode → Bool
  | ground | escape | marked | control => true
  | _ => false

/-- The mode behind an escape character and the character with the given code. -/
def afterEscape (code : Nat) : Mode :=
  if code < 0x20 ∨ code = 0x7F then escape
  else if code < 0x30 then marked
  else if code = 0x5B then control
  else if code = 0x5D then system
  else if code = 0x50 then deviceStart
  else if code = 0x58 ∨ code = 0x5E ∨ code = 0x5F then idle
  else ground

/-- The mode behind an ASCII character that is allowed in every mode but starts no sequence. -/
def afterAscii (mode : Mode) (code : Nat) : Mode :=
  let final : Bool := 0x40 ≤ code && code ≤ 0x7E
  match mode with
  | ground => ground
  | escape => afterEscape code
  | marked => if 0x30 ≤ code ∧ code ≤ 0x7E then ground else marked
  | control => if final then ground else control
  | deviceStart =>
    if final then device
    else if 0x20 ≤ code ∧ code < 0x30 then deviceMarks
    else if 0x30 ≤ code ∧ code < 0x40 then deviceParameters
    else deviceStart
  | deviceParameters =>
    if final ∨ (0x3C ≤ code ∧ code < 0x40) then device
    else if 0x20 ≤ code ∧ code < 0x30 then deviceMarks
    else deviceParameters
  | deviceMarks => if 0x30 ≤ code ∧ code ≤ 0x7E then device else deviceMarks
  | device => device
  | idle => idle
  | system => if code = 0x07 then ground else system

/-- The mode behind a character beyond ASCII: one whose bytes hold the string terminator ends a
device string and a string that means nothing. -/
def afterWide (mode : Mode) (c : Char) : Mode :=
  if (mode = device ∨ mode = idle) ∧ c.toString.toUTF8.toList.contains 0x9C then ground else mode

/-- The mode behind a character. -/
def after (mode : Mode) (c : Char) : Mode :=
  if c.toNat = 0x18 ∨ c.toNat = 0x1A then ground
  else if c.toNat = 0x1B then escape
  else if c.toNat < 0x80 then mode.afterAscii c.toNat
  else mode.afterWide c

end Mode

/-- Whether a character is a blank among the controls, or the space. -/
def isBlank (c : Char) : Bool := " \t\n\r\x0C".toList.contains c

/-- Whether a character outside of control sequences is shown. -/
def isShown (c : Char) : Bool := isBlank c || (0x20 < c.toNat && c.toNat ≠ 0x7F)

/-- Whether a character is shown in a mode. -/
def isShownIn (mode : Mode) (c : Char) : Bool :=
  if mode = .ground then isShown c else mode.showsBlanks && isBlank c && c ≠ ' '

/-- A text so far. -/
structure Screen where
  /-- The characters that are shown, in reverse. -/
  shown : List Char
  /-- Where the text stands. -/
  mode : Mode
  /-- Whether the last character was shown. What follows it is taken for plain text then, also
  inside of a control sequence. -/
  showing : Bool

namespace Screen

/-- The mode behind a character that follows a shown one. -/
def plainMode (mode : Mode) (c : Char) : Mode :=
  if c.toNat = 0x18 ∨ c.toNat = 0x1A ∨ 0x80 ≤ c.toNat then .ground
  else if c.toNat = 0x1B then .escape
  else mode

/-- Reads a character that is shown. -/
def put (screen : Screen) (c : Char) : Screen :=
  ⟨c :: screen.shown, plainMode screen.mode c, true⟩

/-- Reads a character behind one that was not shown. -/
def skip (screen : Screen) (c : Char) : Screen :=
  if isShownIn screen.mode c then
    { screen with mode := screen.mode.after c }.put c
  else ⟨screen.shown, screen.mode.after c, false⟩

/-- Reads a character. -/
def step (screen : Screen) (c : Char) : Screen :=
  if screen.showing then
    if isShown c then screen.put c
    else { screen with mode := plainMode screen.mode c }.skip c
  else screen.skip c

end Screen

/-- A text without control sequences. -/
def visible (text : String) : String :=
  String.ofList (text.toList.foldl Screen.step ⟨[], .ground, false⟩).shown.reverse

end NamespaceBackup.Terminal
