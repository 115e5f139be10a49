import MeterPoll.Settings.Basic

/-!
# Reading settings as typed values

A reader turns a setting into a value of a type or answers with the path from the setting to the
offending key. A section is read from a group by the names of its fields, or from a list by their
order; keys that no field has are passed over.
-/

namespace MeterPoll.Setting

/-- The value read, or the path to what could not be read. -/
abbrev Outcome (α : Type) := Except (List String) α

/-- Puts a key in front of the path of a failure. -/
def under {α : Type} (key : String) (outcome : Outcome α) : Outcome α :=
  outcome.mapError (key :: ·)

/-- Reads an integer from zero to `limit`. -/
def readNat (limit : Nat) : Setting → Outcome Nat
  | integer n => if 0 ≤ n ∧ n ≤ limit then .ok n.toNat else .error []
  | _ => .error []

/-- Reads a byte. -/
def readByte (setting : Setting) : Outcome UInt8 :=
  (setting.readNat 255).map UInt8.ofNat

/-- Reads a number as a float. -/
def readReal : Setting → Outcome Float
  | integer n => .ok (Float.ofInt n)
  | real x => .ok x
  | _ => .error []

/-- Reads a truth value. -/
def readFlag : Setting → Outcome Bool
  | flag b => .ok b
  | _ => .error []

/-- Reads a text. -/
def readText : Setting → Outcome String
  | text s => .ok s
  | _ => .error []

/-- Reads a text that stands for a value. -/
def readName {α : Type} (value? : String → Option α) : Setting → Outcome α
  | text s => (value? s).elim (.error []) .ok
  | _ => .error []

/-- Reads the name of a variant without content. In a group the first key is taken for the name,
and its content is always one too many. -/
def readVariant {α : Type} (value? : String → Option α) : Setting → Outcome α
  | group ((key, _) :: _) => .error [key]
  | setting => setting.readName value?

/-- A field of a section: its key and how a value of it is stored. -/
structure Field (α : Type) where
  key : String
  store : α → Setting → Outcome α

/-- Stores the entries of a group in the fields with their keys. -/
def readEntries {α : Type} (fields : List (Field α)) : α → List (String × Setting) → Outcome α
  | stored, [] => .ok stored
  | stored, (key, value) :: rest =>
    match fields.find? (·.key = key) with
    | none => readEntries fields stored rest
    | some field => do readEntries fields (← under key (field.store stored value)) rest

/-- Stores the items of a list in the fields in order, counting them from `index`. -/
def readItems {α : Type} : List (Field α) → Nat → α → List Setting → Outcome α
  | field :: fields, index, stored, item :: rest => do
    readItems fields (index + 1) (← under (toString index) (field.store stored item)) rest
  | _, _, stored, _ => .ok stored

/-- Reads a section onto the values its fields have so far. -/
def readSection {α : Type} (fields : List (Field α)) (stored : α) : Setting → Outcome α
  | group entries => readEntries fields stored entries
  | list items => readItems fields 0 stored items
  | _ => .error []

end MeterPoll.Setting
