import MeterPoll.Decimal.Reading
import MeterPoll.Settings.Basic
import MeterPoll.Text.Number
import MeterPoll.Text.Quoted
import MeterPoll.Text.Unicode

/-!
# Settings from the environment

Environment variables whose names begin with `HT7017_`, in any case, override settings. The rest of
the name is the path of the setting, with two underscores between its steps. A value is a truth
value, a character in apostrophes, a text in quotes, an array in brackets, a table in braces, a
number, or else the text itself.
-/

namespace MeterPoll.Environment

/-- The beginning of the names of variables that override settings. -/
def marker : String := "HT7017_"

/-- A blank of the ASCII characters. -/
def isBlank (c : Char) : Bool :=
  c == ' ' || c == '\t' || c == '\n' || c == '\r' || c == '\x0c'

/-- The text after a beginning, if it has that beginning. -/
def after? : List Char → List Char → Option (List Char)
  | [], rest => some rest
  | c :: start, d :: rest => if c = d then after? start rest else none
  | _ :: _, [] => none

/-- As many characters from the front as fit into a number of bytes. -/
def takeBytes : Nat → List Char → List Char
  | _, [] => []
  | bytes, c :: rest =>
    if c.utf8Size ≤ bytes then c :: takeBytes (bytes - c.utf8Size) rest else []

/-- The text that the inside of a quoted text stands for. What stands before the first escape loses
its end unless all of it is ASCII: as many bytes are kept of it as it has characters. -/
def unquote? (inside : List Char) : Option (List Char) := do
  let lead := inside.takeWhile (· != '\\')
  let whole ← Text.unescape? (inside.length + 1) inside
  if lead.length = inside.length then some whole
  else some (takeBytes lead.length lead ++ whole.drop lead.length)

/-- Splits the inside of a quoted text from what follows the closing quote. -/
def splitQuoted : List Char → List Char → Option (List Char × List Char)
  | done, '\\' :: c :: rest => splitQuoted (c :: '\\' :: done) rest
  | done, '"' :: rest => some (done.reverse, rest)
  | done, c :: rest => splitQuoted (c :: done) rest
  | _, [] => none

/-- Reads a quoted text after its opening quote. -/
def readQuoted (cs : List Char) : Option (String × List Char) := do
  let (inside, rest) ← splitQuoted [] cs
  some (String.ofList (← unquote? inside), rest)

/-- A character that ends a value without quotes. -/
def isSeparator (c : Char) : Bool :=
  c == ',' || c == '\x7b' || c == '\x7d' || c == '[' || c == ']'

/-- A character of a key without quotes. -/
def isKeyChar (c : Char) : Bool :=
  c.isAlphanum || c == '_' || c == '-'

/-- The value of a word: a number if it has a point or is an integer of 64 bits, else a text. -/
def ofWord (word : List Char) : Setting :=
  let real? := if word.contains '.' then
    (Decimal.readFloat (String.ofList word)).toOption else none
  match real? with
  | some x => .real x
  | none =>
    match Text.readNat 10 (Text.maxWord 64) word with
    | .ok n => .integer n
    | .error _ =>
      match Text.readInt 64 word with
      | .ok n => .integer n
      | .error _ => .text (String.ofList word)

/-- Reads a key of a table, with blanks around it and an equals sign after it. -/
def readKey (cs : List Char) : Option (String × List Char) := do
  let (key, rest) ← match cs.dropWhile isBlank with
    | '"' :: rest => readQuoted rest
    | cs =>
      let name := cs.takeWhile isKeyChar
      if name.isEmpty then none else some (String.ofList name, cs.dropWhile isKeyChar)
  match rest.dropWhile isBlank with
  | '=' :: rest => some (key, rest)
  | _ => none

/-- Reads parts with commas between them up to a closing character. A comma may stand before
it. -/
def readParts {α : Type} (closing : Char) (readPart : List Char → Option (α × List Char)) :
    Nat → List α → List Char → Option (List α × List Char)
  | 0, _, _ => none
  | fuel + 1, done, cs => do
    match after? [closing] cs with
    | some rest => some (done.reverse, rest)
    | none =>
      let (part, rest) ← readPart cs
      match rest with
      | ',' :: rest => readParts closing readPart fuel (part :: done) rest
      | _ => (after? [closing] rest).map fun rest => ((part :: done).reverse, rest)

/-- Reads a value with the blanks around it; arrays and tables are nested up to a depth. -/
def readValue : Nat → List Char → Option (Setting × List Char)
  | 0, _ => none
  | depth + 1, cs => do
    let (value, rest) ← match cs.dropWhile isBlank with
      | 't' :: 'r' :: 'u' :: 'e' :: rest => some (Setting.flag true, rest)
      | 'f' :: 'a' :: 'l' :: 's' :: 'e' :: rest => some (.flag false, rest)
      | '\x7b' :: rest => do
        let (pairs, rest) ← readParts '\x7d' (fun cs => do
          let (key, rest) ← readKey cs
          let (value, rest) ← readValue depth rest
          some ((key, value), rest)) (rest.length + 1) [] rest
        some (.ofEntries pairs, rest)
      | '[' :: rest => do
        let (items, rest) ← readParts ']' (readValue depth) (rest.length + 1) [] rest
        some (.list items, rest)
      | '"' :: rest => (readQuoted rest).map fun (s, rest) => (.text s, rest)
      | '\'' :: rest =>
        match rest with
        | c :: '\'' :: rest => some (.text c.toString, rest)
        | _ => none
      | cs =>
        some (ofWord (Text.trimChars (cs.takeWhile fun c => !isSeparator c)),
          cs.dropWhile fun c => !isSeparator c)
    some (value, rest.dropWhile isBlank)

/-- The value of a variable. A text that is not a value as a whole stands for itself. -/
def valueOf (s : String) : Setting :=
  match readValue (s.length + 1) s.toList with
  | some (value, []) => value
  | _ => .text s

/-- Puts a point in place of every two underscores. -/
def pointed : List Char → List Char
  | '_' :: '_' :: rest => '.' :: pointed rest
  | c :: rest => c :: pointed rest
  | [] => []

/-- The path of the setting a variable overrides, if its name begins with the marker and no step of
the path is empty. -/
def path? (name : String) : Option (List String) := do
  let lower := (Text.trimChars name.toList).map Char.toLower
  let rest ← after? (marker.toList.map Char.toLower) lower
  let steps := (String.ofList (Text.trimChars (pointed rest))).splitOn "."
  if steps.contains "" then none else some steps

/-- Lays the settings of the variables over one another, the later ones over the earlier. -/
def settings (environment : List (String × String)) : Setting :=
  environment.foldl (fun base (name, value) =>
    match path? name with
    | none => base
    | some path => base.overlay (.nested path (valueOf value))) (.group [])

end MeterPoll.Environment
