import MeterPoll.Text.Terminal

/-!
# Coloured messages

A message is made of pieces, some of which a terminal shows in a colour of their own. Without
colours only the plain text of each piece is left.
-/

namespace MeterPoll.CommandLine

/-- What a piece of a message is, and so how it is coloured. -/
inductive Tone where
  | neutral
  /-- The word that begins a complaint. -/
  | alarm
  /-- Something that was not understood. -/
  | wrong
  /-- Something that would have been understood. -/
  | right
  /-- Something to be typed as it is. -/
  | literal
  | heading
  deriving DecidableEq, Repr

/-- The terminal commands in front of a piece. -/
def Tone.commands : Tone → String
  | neutral => ""
  | alarm => "\x1b[1m\x1b[31m"
  | wrong => "\x1b[33m"
  | right => "\x1b[32m"
  | literal => "\x1b[1m"
  | heading => "\x1b[1m\x1b[4m"

/-- A piece of a message. -/
structure Piece where
  tone : Tone
  text : String

/-- A piece without a colour. -/
def Piece.neutral (text : String) : Piece :=
  ⟨.neutral, text⟩

/-- A piece with its colour. -/
def Piece.coloured (piece : Piece) : String :=
  if piece.tone = .neutral then piece.text
  else piece.tone.commands ++ piece.text ++ "\x1b[0m"

/-- A message in colours. -/
def coloured (pieces : List Piece) : String :=
  String.join (pieces.map Piece.coloured)

/-- A message without colours. A terminal command that a piece leaves open takes the rest of the
piece with it. -/
def uncoloured (pieces : List Piece) : String :=
  String.ofList (pieces.flatMap fun piece => Text.plainChars false .text piece.text.toList)

/-- Whether variables ask for colours where messages do not go to a terminal. -/
def wantsColour (environment : List (String × String)) : Bool :=
  (environment.lookup "NO_COLOR").all String.isEmpty &&
    (environment.lookup "CLICOLOR_FORCE").any (· != "0")

end MeterPoll.CommandLine
