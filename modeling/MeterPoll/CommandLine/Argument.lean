/-!
# Arguments

How the words of a command line are taken for the values of a form. A form has options, which are
named by words that begin with two dashes, places, which are filled by the other words in order,
and commands, of which the first one found takes the rest of the words. After the word `--` every
word fills a place. The value of an option is attached to its name with an equals sign or is the
next word, unless that word begins with a dash.

Values that stand apart from their option, and the values of a place, are checked when the next
option or place begins. A word that means nothing is therefore complained of before the value in
front of it.
-/

namespace MeterPoll.CommandLine

/-- Why words are not understood. -/
inductive ArgumentFault where
  /-- No argument is given. -/
  | noArguments
  | noCommand
  | unknownCommand (word : String)
  | unexpected (word : String)
  | missingValue (title : String)
  | repeated (title : String)
  | tooManyValues (value title : String)
  | missingPlace (title : String)
  | invalidValue (value title reason : String)
  deriving DecidableEq, Repr

/-- An argument of a form that collects values of type `α`. -/
structure Argument (α : Type) where
  /-- What messages call the argument. -/
  title : String
  /-- How many values it takes at a time. -/
  limit : Nat
  /-- Whether it may be given more than once. -/
  repeatable : Bool
  /-- Whether an empty value is none. -/
  filled : Bool
  /-- Stores a value or says what is wrong with it. -/
  store : α → String → Except String α

/-- What a list of words can hold. -/
structure Form (α : Type) where
  /-- The options with their names. -/
  options : List (String × Argument α)
  places : List (Argument α)
  commands : List String

/-- An argument whose values are still being collected. -/
structure Pending (α : Type) where
  argument : Argument α
  values : List String

/-- What the words read so far have come to. -/
structure Scan (α : Type) where
  /-- What is stored. -/
  stored : α
  /-- The titles of the arguments that were given. -/
  given : List String
  pending : Option (Pending α)
  /-- Whether the pending argument is an option without its value. -/
  awaiting : Bool
  /-- The places that are not filled. -/
  places : List (Argument α)

/-- What a list of words as a whole comes to. -/
inductive Scanned (α : Type) where
  /-- Help is asked for. -/
  | help
  /-- A command takes the rest of the words. -/
  | command (name : String) (rest : List String) (scan : Scan α)
  | complete (scan : Scan α)

/-- What messages call the option that asks for help. -/
def helpTitle : String := "--help"

namespace Argument

variable {α β : Type}

/-- The argument of a part of what is collected. -/
def focus (argument : Argument α) (part : β → α) (replace : β → α → β) : Argument β where
  title := argument.title
  limit := argument.limit
  repeatable := argument.repeatable
  filled := argument.filled
  store stored value := (argument.store (part stored) value).map (replace stored)

/-- Stores values in order. -/
def storeAll (argument : Argument α) (stored : α) : List String → Except ArgumentFault α
  | [] => .ok stored
  | value :: rest =>
    if argument.filled && value.isEmpty then .error (.missingValue argument.title)
    else
      match argument.store stored value with
      | .ok stored => argument.storeAll stored rest
      | .error reason => .error (.invalidValue value argument.title reason)

end Argument

namespace Scan

variable {α : Type}

/-- Nothing is read. -/
def start (form : Form α) (stored : α) : Scan α :=
  ⟨stored, [], none, false, form.places⟩

/-- Checks and stores the values of the pending argument. -/
def settle (scan : Scan α) : Except ArgumentFault (Scan α) :=
  match scan.pending with
  | none => .ok scan
  | some ⟨argument, values⟩ =>
    match values.getLast? with
    | none => .error (.missingValue argument.title)
    | some last =>
      if argument.limit < values.length then .error (.tooManyValues last argument.title)
      else if !argument.repeatable && scan.given.contains argument.title then
        .error (.repeated argument.title)
      else do
        let stored ← argument.storeAll scan.stored values
        return { scan with
          stored
          given := argument.title :: scan.given
          pending := none
          awaiting := false }

/-- Begins an argument. -/
def begin (scan : Scan α) (argument : Argument α) (values : List String) :
    Except ArgumentFault (Scan α) := do
  return { ← scan.settle with pending := some ⟨argument, values⟩, awaiting := values.isEmpty }

/-- Begins an option. A value that is attached to it is checked at once. -/
def option (scan : Scan α) (argument : Argument α) : Option String → Except ArgumentFault (Scan α)
  | none => scan.begin argument []
  | some value => do (← scan.begin argument [value]).settle

/-- Takes a word for the value of the option that awaits one. -/
def supply (scan : Scan α) (word : String) : Scan α :=
  { scan with
    pending := scan.pending.map fun pending => { pending with values := [word] }
    awaiting := false }

/-- Takes a word for a value of the next place. A place of several values stays the next one. -/
def place (scan : Scan α) (word : String) (unplaced : ArgumentFault) :
    Except ArgumentFault (Scan α) :=
  match scan.places with
  | [] => .error unplaced
  | argument :: others =>
    if argument.limit ≤ 1 then do
      return { ← scan.begin argument [word] with places := others }
    else
      match scan.pending with
      | some ⟨current, values⟩ =>
        if current.title = argument.title then
          .ok { scan with pending := some ⟨current, values ++ [word]⟩ }
        else scan.begin argument [word]
      | none => scan.begin argument [word]

end Scan

namespace Form

variable {α : Type}

/-- The fault of a word for which there is no place. Behind `--` the name of a command is such a
word. -/
def unplaced (form : Form α) (word : String) (trailing : Bool) : ArgumentFault :=
  if form.commands.isEmpty || (trailing && form.commands.contains word) then .unexpected word
  else .unknownCommand word

/-- Scans the words behind `--`. -/
def scanTrailing (form : Form α) : Scan α → List String → Except ArgumentFault (Scanned α)
  | scan, [] => return .complete (← scan.settle)
  | scan, word :: rest => do
    form.scanTrailing (← scan.place word (form.unplaced word true)) rest

/-- The name and the attached value of a word that begins with two dashes. -/
def splitOption (word : List Char) : String × Option String :=
  match word.dropWhile (· != '=') with
  | _ :: value => (String.ofList (word.takeWhile (· != '=')), some (String.ofList value))
  | [] => (String.ofList word, none)

/-- Scans words up to a command or to their end. -/
def scan (form : Form α) : Scan α → List String → Except ArgumentFault (Scanned α)
  | state, [] => return .complete (← state.settle)
  | state, word :: rest =>
    if !state.awaiting && form.commands.contains word then .ok (.command word rest state)
    else
      match word.toList with
      | ['-', '-'] => form.scanTrailing state rest
      | '-' :: '-' :: option => do
        let (name, value?) := splitOption option
        if name = "help" then
          match value? with
          | none => let _ ← state.settle; return .help
          | some value => throw (.tooManyValues value helpTitle)
        else
          match form.options.lookup name with
          | none => throw (.unexpected ("--" ++ name))
          | some argument => form.scan (← state.option argument value?) rest
      | '-' :: 'h' :: _ => do let _ ← state.settle; return .help
      | '-' :: letter :: _ => .error (.unexpected (String.ofList ['-', letter]))
      | _ => do
        if state.awaiting then form.scan (state.supply word) rest
        else form.scan (← state.place word (form.unplaced word false)) rest

end Form

end MeterPoll.CommandLine
