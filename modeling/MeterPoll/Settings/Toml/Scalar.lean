import MeterPoll.Decimal.Reading
import MeterPoll.Settings.Basic
import MeterPoll.Text.Number
import MeterPoll.Text.Quoted

/-!
# TOML scalars

Quoted strings, numbers, dates and truth values of TOML 1.0. A reader takes a scalar from the front
of the text and answers with the rest, or fails if the text has no scalar of its kind there.
-/

namespace MeterPoll.Toml

/-- A blank inside a line. -/
def isSpace (c : Char) : Bool :=
  c == ' ' || c == '\t'

/-- Takes the line end at the front of a text. -/
def lineEnd? : List Char → Option (List Char)
  | '\n' :: rest => some rest
  | '\r' :: '\n' :: rest => some rest
  | _ => none

/-- Reads the inside of a string in quotes up to the closing one. -/
def readBasic : Nat → List Char → List Char → Option (String × List Char)
  | 0, _, _ => none
  | _ + 1, _, [] => none
  | _ + 1, done, '"' :: rest => some (String.ofList done.reverse, rest)
  | fuel + 1, done, '\\' :: rest => do
    let (c, rest) ← Text.readEscape rest
    readBasic fuel (c :: done) rest
  | fuel + 1, done, c :: rest => if Text.isPlain c then readBasic fuel (c :: done) rest else none

/-- Reads the inside of a string in apostrophes up to the closing one. -/
def readLiteral : List Char → List Char → Option (String × List Char)
  | _, [] => none
  | done, '\'' :: rest => some (String.ofList done.reverse, rest)
  | done, c :: rest => if Text.isPlain c then readLiteral (c :: done) rest else none

/-- Drops blanks and line ends. -/
def skipBlankLines : List Char → List Char
  | '\r' :: '\n' :: rest => skipBlankLines rest
  | c :: rest => if isSpace c || c == '\n' then skipBlankLines rest else c :: rest
  | [] => []

/-- Drops the blanks and line ends that a backslash at the end of a line joins, if it is one. -/
def joinLines? (cs : List Char) : Option (List Char) :=
  (lineEnd? (cs.dropWhile isSpace)).map skipBlankLines

/-- Ends a string over several lines at a run of three to five marks; up to two marks at the front
of the run belong to the string. -/
def closeLong (mark : Char) (done rest : List Char) : Option (String × List Char) :=
  let count := min ((rest.takeWhile (· == mark)).length - 3) 2
  some (String.ofList (done.reverse ++ List.replicate count mark), rest.drop (3 + count))

/-- Reads the inside of a string over several lines; `escapes` says whether a backslash begins an
escape. A line end is always read as a line feed. -/
def readLong (mark : Char) (escapes : Bool) :
    Nat → List Char → List Char → Option (String × List Char)
  | 0, _, _ => none
  | fuel + 1, done, cs =>
    if (cs.takeWhile (· == mark)).length ≥ 3 then closeLong mark done cs
    else
      match cs with
      | [] => none
      | c :: rest =>
        if c == '\\' && escapes then
          match joinLines? rest with
          | some next => readLong mark escapes fuel done next
          | none => do
            let (c, next) ← Text.readEscape rest
            readLong mark escapes fuel (c :: done) next
        else if Text.isPlain c then readLong mark escapes fuel (c :: done) rest
        else do
          let next ← lineEnd? (c :: rest)
          readLong mark escapes fuel ('\n' :: done) next

/-- Reads the inside of a string over several lines after its opening marks, of which a line end is
not part of the string. -/
def openLong (mark : Char) (escapes : Bool) (cs : List Char) : Option (String × List Char) :=
  readLong mark escapes (cs.length + 1) [] ((lineEnd? cs).getD cs)

/-- Reads a string of any of the four kinds. -/
def readString : List Char → Option (String × List Char)
  | '"' :: '"' :: '"' :: rest => openLong '"' true rest
  | '\'' :: '\'' :: '\'' :: rest => openLong '\'' false rest
  | '"' :: rest => readBasic (rest.length + 1) [] rest
  | '\'' :: rest => readLiteral [] rest
  | _ => none

/-- Reads digits with single underscores between them. -/
def readDigits (isDigit : Char → Bool) : List Char → List Char → Option (List Char × List Char)
  | done, '_' :: c :: rest =>
    if !done.isEmpty && isDigit c then readDigits isDigit (c :: done) rest else none
  | done, c :: rest =>
    if isDigit c then readDigits isDigit (c :: done) rest
    else if done.isEmpty || c == '_' then none
    else some (done.reverse, c :: rest)
  | done, [] => if done.isEmpty then none else some (done.reverse, [])

/-- Reads decimal digits that begin with a zero only if they are a single one. -/
def readWhole : List Char → Option (List Char × List Char)
  | '0' :: rest => some (['0'], rest)
  | cs => readDigits Char.isDigit [] cs

/-- Reads an optional exponent as the text that writes it. -/
def readExponent : List Char → Option (List Char × List Char)
  | c :: rest =>
    if c == 'e' || c == 'E' then do
      let (sign, rest) : List Char × List Char := match rest with
        | '+' :: more => ([], more)
        | '-' :: more => (['-'], more)
        | more => ([], more)
      let (digits, rest) ← readDigits Char.isDigit [] rest
      some ('e' :: sign ++ digits, rest)
    else some ([], c :: rest)
  | [] => some ([], [])

/-- Reads an optional point with decimal places as the text that writes it. -/
def readPlaces : List Char → Option (List Char × List Char)
  | '.' :: rest => do
    let (digits, rest) ← readDigits Char.isDigit [] rest
    some ('.' :: digits, rest)
  | cs => some ([], cs)

/-- The float of a literal. One that is too large is refused, while one that is too small is
minus infinity. -/
def realOf? (literal : List Char) : Option Setting :=
  match Decimal.readFloat (String.ofList literal) with
  | .ok x => if x == 1.0 / 0.0 then none else some (.real x)
  | .error _ => none

/-- The integer of a text, if it fits 64 bits with a sign. -/
def integerOf? (n : Int) : Option Setting :=
  if -(Text.maxWord 63 : Int) - 1 ≤ n ∧ n ≤ Text.maxWord 63 then some (.integer n) else none

/-- Reads a decimal number after its sign: an integer, or a float if places or an exponent
follow. -/
def readDecimal (sign : List Char) (cs : List Char) : Option (Setting × List Char) := do
  let (whole, rest) ← readWhole cs
  let (places, rest) ← readPlaces rest
  let (exponent, rest) ← readExponent rest
  if places.isEmpty && exponent.isEmpty then
    let magnitude := (Decimal.ofDigits whole : Int)
    (integerOf? (if sign = ['-'] then -magnitude else magnitude)).map (·, rest)
  else (realOf? (sign ++ whole ++ places ++ exponent)).map (·, rest)

/-- Reads the digits of an integer in a radix. -/
def readRadix (radix : Nat) (cs : List Char) : Option (Setting × List Char) := do
  let (digits, rest) ← readDigits (fun c => (Text.digitValue? radix c).isSome) [] cs
  let values ← digits.mapM (Text.digitValue? radix)
  (integerOf? (values.foldl (fun value digit => value * radix + digit) 0 : Nat)).map (·, rest)

/-- Reads a number after its sign. -/
def readSigned (sign : List Char) : List Char → Option (Setting × List Char)
  | 'i' :: 'n' :: 'f' :: rest =>
    some (.real (if sign = ['-'] then -(1.0 / 0.0) else 1.0 / 0.0), rest)
  | 'n' :: 'a' :: 'n' :: rest => some (.real (0.0 / 0.0), rest)
  | cs => readDecimal sign cs

/-- Reads a number. -/
def readNumber : List Char → Option (Setting × List Char)
  | '+' :: rest => readSigned [] rest
  | '-' :: rest => readSigned ['-'] rest
  | '0' :: 'x' :: rest => readRadix 16 rest
  | '0' :: 'o' :: rest => readRadix 8 rest
  | '0' :: 'b' :: rest => readRadix 2 rest
  | cs => readSigned [] cs

/-- Reads a number of exactly `count` digits between two bounds. -/
def readFixed (count low high : Nat) (cs : List Char) : Option (Nat × List Char) :=
  let digits := cs.take count
  let value := Decimal.ofDigits digits
  if digits.length = count ∧ digits.all Char.isDigit ∧ low ≤ value ∧ value ≤ high then
    some (value, cs.drop count)
  else none

/-- Takes one character from the front of a text. -/
def expect (c : Char) : List Char → Option (List Char)
  | first :: rest => if first = c then some rest else none
  | [] => none

/-- The days of a month. -/
def daysIn (year month : Nat) : Nat :=
  if month = 2 then
    if year % 4 = 0 ∧ (year % 100 ≠ 0 ∨ year % 400 = 0) then 29 else 28
  else if month = 4 ∨ month = 6 ∨ month = 9 ∨ month = 11 then 30
  else 31

/-- Takes a time of day with optional places of a second. -/
def skipTime (cs : List Char) : Option (List Char) := do
  let (_, rest) ← readFixed 2 0 23 cs
  let (_, rest) ← readFixed 2 0 59 (← expect ':' rest)
  let (_, rest) ← readFixed 2 0 60 (← expect ':' rest)
  match rest with
  | '.' :: more =>
    let places := more.takeWhile Char.isDigit
    if places.isEmpty then none else some (more.dropWhile Char.isDigit)
  | _ => some rest

/-- Takes an optional offset from universal time. -/
def skipOffset (cs : List Char) : Option (List Char) :=
  match cs with
  | 'Z' :: rest | 'z' :: rest => some rest
  | '+' :: rest | '-' :: rest => do
    let (_, rest) ← readFixed 2 0 23 rest
    let (_, rest) ← readFixed 2 0 59 (← expect ':' rest)
    some rest
  | _ => some cs

/-- Whether a text begins with two digits and a colon. -/
def startsTime (cs : List Char) : Bool :=
  (readFixed 2 0 99 cs).any fun (_, rest) => rest.head? == some ':'

/-- Whether a text begins with four digits and a hyphen. -/
def startsDate (cs : List Char) : Bool :=
  (readFixed 4 0 9999 cs).any fun (_, rest) => rest.head? == some '-'

/-- Takes a date with an optional time of day. -/
def skipDate (cs : List Char) : Option (List Char) := do
  let (year, rest) ← readFixed 4 0 9999 cs
  let (month, rest) ← readFixed 2 1 12 (← expect '-' rest)
  let (_, rest) ← readFixed 2 1 (daysIn year month) (← expect '-' rest)
  match rest with
  | c :: more =>
    if (c == 'T' || c == 't' || c == ' ') && startsTime more then
      skipOffset (← skipTime more)
    else some rest
  | [] => some []

/-- A date or time is a group with one text. -/
def dateKey : String := "$__toml_private_datetime"

/-- Reads a date or a time. -/
def readDateTime (cs : List Char) : Option (Setting × List Char) := do
  let rest ← if startsDate cs then skipDate cs else skipTime cs
  let written := String.ofList (cs.take (cs.length - rest.length))
  some (.group [(dateKey, .text written)], rest)

/-- Reads a scalar. -/
def readScalar (cs : List Char) : Option (Setting × List Char) :=
  match cs with
  | 't' :: 'r' :: 'u' :: 'e' :: rest => some (.flag true, rest)
  | 'f' :: 'a' :: 'l' :: 's' :: 'e' :: rest => some (.flag false, rest)
  | '"' :: _ | '\'' :: _ => (readString cs).map fun (s, rest) => (.text s, rest)
  | _ => if startsDate cs || startsTime cs then readDateTime cs else readNumber cs

end MeterPoll.Toml
