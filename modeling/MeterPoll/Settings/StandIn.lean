import MeterPoll.Settings.Basic

/-!
# Stand-ins

A group in a file stands for another value if it holds that value under one certain key, whatever
else it holds. A second key, for the origin of a value, must not be given. A group with neither key
stands for itself.
-/

namespace MeterPoll.Setting

/-- The key of the value that a group stands for. -/
def valueKey : String := "___figment_value_value"

/-- The key of the origin of a value. -/
def originKey : String := "___figment_value_id"

/-- The value that a group with some entries stands for, unless it gives an origin. -/
def ofGroup (entries : List (String × Setting)) : Option Setting :=
  if (entries.lookup originKey).isSome then none
  else some ((entries.lookup valueKey).getD (group entries))

mutual

/-- The value that a value stands for, inside and out. -/
def resolve : Setting → Option Setting
  | list items => (resolveItems items).map list
  | group entries => do ofGroup (← resolveEntries entries)
  | setting => some setting

/-- The values that the items of a list stand for. -/
def resolveItems : List Setting → Option (List Setting)
  | [] => some []
  | item :: rest => do return (← resolve item) :: (← resolveItems rest)

/-- Entries with the values that theirs stand for. -/
def resolveEntries : List (String × Setting) → Option (List (String × Setting))
  | [] => some []
  | (key, value) :: rest => do return (key, ← resolve value) :: (← resolveEntries rest)

end

end MeterPoll.Setting
