/-!
# Text for a terminal

A terminal takes some characters for commands: single control characters, and sequences and strings
that begin with the escape character. What is left of a text without them is its plain text, in
which the only control characters are those that move the place where text is shown.
-/

namespace MeterPoll.Text

/-- What a terminal that reads a text is in the middle of. -/
inductive TerminalMode where
  /-- Nothing but text. -/
  | text
  /-- The escape character has been read. -/
  | escape
  /-- An escape sequence with more than one character behind the escape character. -/
  | sequence
  /-- A control sequence, which a letter ends. -/
  | control
  /-- The beginning of a device control string. -/
  | device
  /-- The parameters of a device control string. -/
  | deviceParameters
  /-- The characters behind the parameters of a device control string. -/
  | deviceCommand
  /-- A string that the string terminator ends. -/
  | string
  /-- An operating system command, which a bell ends. -/
  | system
  deriving DecidableEq, Repr

/-- A control character that moves the place where text is shown. -/
def isMotion (c : Char) : Bool :=
  c == '\t' || c == '\n' || c == '\x0c' || c == '\r'

/-- A character that belongs to the plain text where it is not part of a command. -/
def isShown (c : Char) : Bool :=
  isMotion c || (' ' ≤ c && c != '\x7f')

namespace TerminalMode

/-- Whether a character is shown in the middle of something. Sequences let motions through. -/
def shows (mode : TerminalMode) (c : Char) : Bool :=
  match mode with
  | text => isShown c
  | escape | sequence | control => isMotion c
  | _ => false

/-- The mode that a character begins behind the escape character. -/
def afterEscape (c : Char) : TerminalMode :=
  if c == '[' then control
  else if c == ']' then system
  else if c == 'P' then device
  else if c == 'X' || c == '^' || c == '_' then string
  else if ' ' ≤ c && c ≤ '/' then sequence
  else if '0' ≤ c && c ≤ '~' then text
  else escape

/-- The mode after a character that is not shown. The escape character and the two cancelling
characters break off whatever there is. A string terminator counts as the byte that it is, even
inside a longer character. -/
def after (mode : TerminalMode) (c : Char) : TerminalMode :=
  if c == '\x1b' then escape
  else if c == '\x18' || c == '\x1a' then text
  else
    match mode with
    | text => text
    | escape => afterEscape c
    | sequence => if '0' ≤ c && c ≤ '~' then text else sequence
    | control => if '@' ≤ c && c ≤ '~' then text else control
    | device =>
      if ' ' ≤ c && c ≤ '/' then deviceCommand
      else if '0' ≤ c && c ≤ '?' then deviceParameters
      else if '@' ≤ c && c ≤ '~' then string
      else device
    | deviceParameters =>
      if ' ' ≤ c && c ≤ '/' then deviceCommand
      else if '<' ≤ c && c ≤ '~' then string
      else deviceParameters
    | deviceCommand => if '0' ≤ c && c ≤ '~' then string else deviceCommand
    | string => if (String.utf8EncodeChar c).contains 0x9C then text else string
    | system => if c == '\x07' then text else system

end TerminalMode

/-- The plain text of characters that are read in a mode. While `showing`, what is no control
character is shown even in the middle of a sequence, which a motion has broken open. -/
def plainChars (showing : Bool) (mode : TerminalMode) : List Char → List Char
  | [] => []
  | c :: rest =>
    if (showing && isShown c) || mode.shows c then
      c :: plainChars true (if c.toNat < 0x80 then mode else .text) rest
    else plainChars false (mode.after c) rest

end MeterPoll.Text
