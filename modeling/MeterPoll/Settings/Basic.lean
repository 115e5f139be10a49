/-!
# Settings

Values of settings as they come from files and from the environment, before their types are
checked, and how a later layer is laid over an earlier one: groups are merged key by key, anything
else is replaced. The entries of a group are in the order of their keys.
-/

namespace MeterPoll

/-- The value of a setting. -/
inductive Setting where
  | flag (b : Bool)
  | integer (n : Int)
  | real (x : Float)
  | text (s : String)
  | list (items : List Setting)
  | group (entries : List (String × Setting))

namespace Setting

/-- Changes the value of a key, or adds the key at its place in the order. -/
def upsert (key : String) (change : Option Setting → Setting) :
    List (String × Setting) → List (String × Setting)
  | [] => [(key, change none)]
  | (other, value) :: rest =>
    if key < other then (key, change none) :: (other, value) :: rest
    else if key = other then (key, change (some value)) :: rest
    else (other, value) :: upsert key change rest

/-- A group of entries, which may be given in any order; the last value of a key counts. -/
def ofEntries (entries : List (String × Setting)) : Setting :=
  .group (entries.foldl (fun sorted (key, value) => upsert key (fun _ => value) sorted) [])

/-- The entries of a group; none for any other value. -/
def entries : Setting → List (String × Setting)
  | group entries => entries
  | _ => []

mutual

/-- Lays a value over an earlier one. -/
def overlay (base : Setting) : Setting → Setting
  | group entries => group (overlayEntries base.entries entries)
  | value => value

/-- Lays entries over earlier ones. -/
def overlayEntries (base : List (String × Setting)) :
    List (String × Setting) → List (String × Setting)
  | [] => base
  | (key, value) :: rest =>
    overlayEntries (upsert key (fun old? => (old?.map (overlay · value)).getD value) base) rest

end

/-- A value under a path of keys. -/
def nested : List String → Setting → Setting
  | [], value => value
  | key :: path, value => .group [(key, nested path value)]

end Setting

end MeterPoll
