import MeterPoll.Settings.StandIn
import MeterPoll.Settings.Toml.Scalar

/-!
# TOML documents

Keys, arrays, inline tables, table headers and key–value lines of TOML 1.0, and the table a
document spells. A table can be written once only: by a header, by dotted keys inside one other
table, or in line; headers of inner tables may come before or after the header of the outer one.
-/

namespace MeterPoll.Toml

/-- How a table came to be. -/
inductive Origin where
  /-- By a header of its own. -/
  | header
  /-- As a step on the path of another header. -/
  | path
  /-- As a step of a dotted key. -/
  | dotted
  deriving DecidableEq

/-- What a key of a document stands for. -/
inductive Node where
  | value (setting : Setting)
  | table (origin : Origin) (entries : List (String × Node))
  /-- An array of tables, each written by a header; the last one first. -/
  | tables (latest : List (String × Node)) (earlier : List (List (String × Node)))

/-- The entries of a table in the order in which they were written. -/
abbrev Entries := List (String × Node)

mutual

/-- The setting that a node stands for. -/
def Node.toSetting : Node → Setting
  | value setting => setting
  | table _ entries => .ofEntries (toSettings entries)
  | tables latest earlier =>
    .list (toGroups earlier ++ [.ofEntries (toSettings latest)])

/-- The settings of the entries of a table. -/
def Node.toSettings : List (String × Node) → List (String × Setting)
  | [] => []
  | (key, node) :: rest => (key, node.toSetting) :: toSettings rest

/-- The settings of tables that are given last first, in the order of the document. -/
def Node.toGroups : List (List (String × Node)) → List Setting
  | [] => []
  | entries :: rest => toGroups rest ++ [.ofEntries (toSettings entries)]

end

namespace Entries

/-- The node of a key. -/
def get? (entries : Entries) (key : String) : Option Node :=
  (entries.find? (·.1 = key)).map (·.2)

/-- Replaces the node of a key or adds the key at the end. -/
def set (entries : Entries) (key : String) (node : Node) : Entries :=
  if (get? entries key).isSome then
    entries.map fun entry => if entry.1 = key then (key, node) else entry
  else entries ++ [(key, node)]

/-- Changes the table at the end of a path. Steps that are missing are made with `origin`; a value
on the way is a failure, and so is, for a dotted key, a table with a header. The change is told
how its table came to be. -/
def descend (origin : Origin) (change : Origin → Entries → Option Entries) :
    List String → Origin → Entries → Option Entries
  | [], own, entries => change own entries
  | key :: path, _, entries =>
    match get? entries key with
    | none => do
      let inner ← descend origin change path origin []
      some (set entries key (.table origin inner))
    | some (.value _) => none
    | some (.table own inner) =>
      if origin = .dotted ∧ own = .header then none
      else do
        let inner ← descend origin change path own inner
        some (set entries key (.table own inner))
    | some (.tables latest earlier) => do
      let latest ← descend origin change path .header latest
      some (set entries key (.tables latest earlier))

/-- Adds a value under a key that the table must not have yet. -/
def add (entries : Entries) (key : String) (setting : Setting) : Option Entries :=
  if (get? entries key).isSome then none else some (set entries key (.value setting))

/-- Adds a value under a dotted key. The steps before the last key must be tables made by dotted
keys alone. -/
def insert (entries : Entries) (path : List String) (key : String) (setting : Setting) :
    Option Entries :=
  descend .dotted (fun own inner =>
    if path.isEmpty ∨ own = .dotted then add inner key setting else none) path .header entries

/-- Begins the table of a header. A table that was only a step of other headers becomes its own. -/
def openTable (entries : Entries) (path : List String) (key : String) : Option Entries :=
  descend .path (fun _ inner =>
    match get? inner key with
    | none => some (set inner key (.table .header []))
    | some (.table .path own) => some (set inner key (.table .header own))
    | _ => none) path .header entries

/-- Begins the next table of an array of tables. -/
def openItem (entries : Entries) (path : List String) (key : String) : Option Entries :=
  descend .path (fun _ inner =>
    match get? inner key with
    | none => some (set inner key (.tables [] []))
    | some (.tables latest earlier) => some (set inner key (.tables [] (latest :: earlier)))
    | _ => none) path .header entries

/-- Adds a value inside the table of the last header, which `current` leads to. -/
def insertAt (entries : Entries) (current path : List String) (key : String)
    (setting : Setting) : Option Entries :=
  descend .path (fun _ inner => insert inner path key setting) current .header entries

end Entries

/-- A character of a key without quotes. -/
def isKeyChar (c : Char) : Bool :=
  c.isAlphanum || c == '_' || c == '-'

/-- Reads one step of a key. -/
def readKeyStep (cs : List Char) : Option (String × List Char) :=
  match cs with
  | '"' :: rest => readBasic (rest.length + 1) [] rest
  | '\'' :: rest => readLiteral [] rest
  | _ =>
    let name := cs.takeWhile isKeyChar
    if name.isEmpty then none else some (String.ofList name, cs.dropWhile isKeyChar)

/-- How deep arrays and inline tables may be nested, and how many steps a key may have. -/
def maxDepth : Nat := 79

/-- Reads a key of a number of steps at most, with blanks around them, as the steps before the last
and the last. -/
def readSteps : Nat → List Char → Option ((List String × String) × List Char)
  | 0, _ => none
  | count + 1, cs => do
    let (step, rest) ← readKeyStep (cs.dropWhile isSpace)
    match rest.dropWhile isSpace with
    | '.' :: more =>
      let ((path, last), rest) ← readSteps count more
      some ((step :: path, last), rest)
    | rest => some (([], step), rest)

/-- Takes blanks, line ends and comments; `comment` says whether the text begins inside one. -/
def skipFiller : Bool → List Char → Option (List Char)
  | _, '\n' :: rest => skipFiller false rest
  | _, '\r' :: '\n' :: rest => skipFiller false rest
  | true, c :: rest => if Text.isPlain c then skipFiller true rest else none
  | false, '#' :: rest => skipFiller true rest
  | false, c :: rest => if isSpace c then skipFiller false rest else some (c :: rest)
  | _, [] => some []

/-- Reads the items of an array after its opening bracket. -/
def readItems (readValue : List Char → Option (Setting × List Char)) :
    Nat → List Setting → List Char → Option (List Setting × List Char)
  | 0, _, _ => none
  | fuel + 1, done, cs => do
    match ← skipFiller false cs with
    | ']' :: rest => some (done.reverse, rest)
    | cs =>
      let (item, rest) ← readValue cs
      match ← skipFiller false rest with
      | ',' :: rest => readItems readValue fuel (item :: done) rest
      | ']' :: rest => some ((item :: done).reverse, rest)
      | _ => none

/-- Reads a key, an equals sign and a value. -/
def readPair (readValue : List Char → Option (Setting × List Char)) (cs : List Char) :
    Option ((List String × String × Setting) × List Char) := do
  let ((path, key), rest) ← readSteps maxDepth cs
  let rest ← expect '=' rest
  let (value, rest) ← readValue (rest.dropWhile isSpace)
  some ((path, key, value), rest.dropWhile isSpace)

/-- Reads the pairs of an inline table after its opening brace. -/
def readPairs (readValue : List Char → Option (Setting × List Char)) :
    Nat → Entries → List Char → Option (Entries × List Char)
  | 0, _, _ => none
  | fuel + 1, entries, cs => do
    let ((path, key, value), rest) ← readPair readValue cs
    let entries ← entries.insert path key value
    match rest with
    | ',' :: rest => readPairs readValue fuel entries rest
    | '}' :: rest => some (entries, rest)
    | _ => none

/-- Reads a value in which arrays and inline tables are nested up to a depth. -/
def readValue : Nat → List Char → Option (Setting × List Char)
  | depth + 1, '[' :: rest =>
    (readItems (readValue depth) (rest.length + 1) [] rest).map fun (items, rest) =>
      (.list items, rest)
  | depth + 1, '\x7b' :: rest =>
    match rest.dropWhile isSpace with
    | '\x7d' :: rest => some (.group [], rest)
    | pairs =>
      (readPairs (readValue depth) (pairs.length + 1) [] pairs).map fun (entries, rest) =>
        ((Node.table .header entries).toSetting, rest)
  | _, cs => readScalar cs

/-- A document that is being read: its tables, and the path of the last header. -/
structure Draft where
  entries : Entries
  current : List String

/-- Takes the end of a line: blanks, a comment and the line end or the end of the text. -/
def skipLineEnd (cs : List Char) : Option (List Char) :=
  match cs.dropWhile isSpace with
  | [] => some []
  | '#' :: rest =>
    match rest.dropWhile Text.isPlain with
    | [] => some []
    | rest => lineEnd? rest
  | rest => lineEnd? rest

/-- Reads one line that is not empty. -/
def readLine (draft : Draft) (cs : List Char) : Option (Draft × List Char) :=
  match cs with
  | '[' :: '[' :: rest => do
    let ((path, key), rest) ← readSteps maxDepth rest
    let rest ← expect ']' (← expect ']' rest)
    some (⟨← draft.entries.openItem path key, path ++ [key]⟩, ← skipLineEnd rest)
  | '[' :: rest => do
    let ((path, key), rest) ← readSteps maxDepth rest
    let rest ← expect ']' rest
    some (⟨← draft.entries.openTable path key, path ++ [key]⟩, ← skipLineEnd rest)
  | _ => do
    let ((path, key, value), rest) ← readPair (readValue maxDepth) cs
    let entries ← draft.entries.insertAt draft.current path key value
    some ({ draft with entries }, ← skipLineEnd rest)

/-- Reads the lines of a document. -/
def readLines : Nat → Draft → List Char → Option Draft
  | 0, _, _ => none
  | fuel + 1, draft, cs => do
    match ← skipFiller false cs with
    | [] => some draft
    | cs =>
      let (draft, rest) ← readLine draft cs
      readLines fuel draft rest

/-- The group of settings a document spells, unless it is malformed. A byte order mark at its start
is not part of it. Tables inside it may stand for other values, but not the document itself. -/
def parse (document : String) : Option Setting := do
  let cs := match document.toList with
    | '\uFEFF' :: rest => rest
    | cs => cs
  let draft ← readLines (cs.length + 1) ⟨[], []⟩ cs
  let entries := (Node.table .header draft.entries).toSetting.entries
  return .group (← Setting.resolveEntries entries)

end MeterPoll.Toml
