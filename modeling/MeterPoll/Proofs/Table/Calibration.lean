import Mathlib.Tactic.Common
import MeterPoll.Table

/-!
# Calibrated tables

Calibrating a table leaves the addresses at all positions as they are (`Table.addresses_setScale`,
`Table.addresses_setConversion`), so the rotation is the same before and after. A quantity has one
register at most (`Table.byQuantity?_get`), of which a calibration keeps the address, and so has an
address (`Table.byAddress?_get`).
-/

namespace MeterPoll

namespace Table

/-- The addresses in the order of the rotation. -/
def addresses (table : Table) : List UInt8 :=
  table.entries.map (·.address)

/-- An adjustment keeps the addresses in their order. -/
theorem addresses_adjust (table : Table) (quantity : Quantity) (change : Register → Register)
    (keeps) : (table.adjust quantity change keeps).addresses = table.addresses := by
  unfold addresses
  rw [entries_adjust, List.map_map]
  apply List.map_congr_left
  intro register _
  simp only [Function.comp_apply]
  split
  · exact (keeps register).1
  · rfl

/-- A new scale keeps the addresses. -/
theorem addresses_setScale {table calibrated : Table} {quantity : Quantity} {scale : Float}
    (calibrates : table.setScale quantity scale = .ok calibrated) :
    calibrated.addresses = table.addresses := by
  unfold setScale at calibrates
  split at calibrates
  · split at calibrates
    · cases calibrates
      exact table.addresses_adjust ..
    · cases calibrates
  · cases calibrates

theorem addresses_setConversion {table calibrated : Table} {quantity : Quantity}
    {conversion : Conversion}
    (calibrates : table.setConversion quantity conversion = .ok calibrated) :
    calibrated.addresses = table.addresses := by
  unfold setConversion at calibrates
  split at calibrates
  · cases calibrates
    exact table.addresses_adjust ..
  · cases calibrates

/-- A search for the key of a member finds the member if no two members have the same key. -/
theorem find?_key {α : Type} [DecidableEq α] (key : Register → α) {entries : List Register}
    {register : Register} (member : register ∈ entries)
    (distinct : entries.Pairwise fun first second => key first ≠ key second) :
    entries.find? (fun other => key other = key register) = some register := by
  induction entries with
  | nil => cases member
  | cons first rest ih =>
      obtain ⟨others, distinct⟩ := List.pairwise_cons.mp distinct
      rcases List.mem_cons.mp member with rfl | later
      · exact List.find?_cons_of_pos (decide_eq_true rfl)
      · have different : key first ≠ key register := others register later
        rw [List.find?_cons_of_neg (by simpa using different)]
        exact ih later distinct

/-- Where keys are distinct, entries with the same key are the same. -/
theorem eq_of_key {α : Type} [DecidableEq α] {key : Register → α} {entries : List Register}
    (distinct : entries.Pairwise fun first second => key first ≠ key second)
    {first second : Register} (firstAmong : first ∈ entries) (secondAmong : second ∈ entries)
    (same : key first = key second) : first = second := by
  have found := find?_key key firstAmong distinct
  rw [same, find?_key key secondAmong distinct] at found
  exact (Option.some.inj found).symm

/-- Positions that agree modulo the length are the same. -/
theorem get_mod (table : Table) (index : Nat) :
    table.get (index % table.length) = table.get index := by
  simp only [get, Nat.mod_mod]

/-- No other register of a table has the quantity of a register that it polls. -/
theorem byQuantity?_get (table : Table) (index : Nat) :
    table.byQuantity? (table.get index).quantity = some (table.get index) :=
  find?_key (·.quantity) (List.get_mem ..) (table.apart.imp And.right)

/-- No other register of a table has the address of a register that it polls. -/
theorem byAddress?_get (table : Table) (index : Nat) :
    table.byAddress? (table.get index).address = some (table.get index) :=
  find?_key (·.address) (List.get_mem ..) (table.apart.imp And.left)

/-- After an adjustment a lookup finds the adjusted entry. -/
theorem byQuantity?_adjust (table : Table) (quantity other : Quantity)
    (change : Register → Register) (keeps) :
    (table.adjust quantity change keeps).byQuantity? other =
      (table.byQuantity? other).map fun register =>
        if register.quantity = quantity then change register else register := by
  unfold byQuantity?
  rw [entries_adjust, List.find?_map]
  congr 2
  funext register
  simp only [Function.comp_apply]
  split_ifs
  · rw [(keeps register).2.1]
  · rfl

/-- The address at which a table finds a quantity. -/
def address? (table : Table) (quantity : Quantity) : Option UInt8 :=
  (table.byQuantity? quantity).map (·.address)

/-- An adjustment keeps the address of every quantity. -/
theorem address?_adjust (table : Table) (quantity other : Quantity)
    (change : Register → Register) (keeps) :
    (table.adjust quantity change keeps).address? other = table.address? other := by
  unfold address?
  rw [byQuantity?_adjust, Option.map_map]
  congr 1
  funext register
  simp only [Function.comp_apply]
  split_ifs
  · exact (keeps register).1
  · rfl

/-- A new scale keeps the address of every quantity. -/
theorem address?_setScale {table calibrated : Table} {quantity : Quantity} {scale : Float}
    (calibrates : table.setScale quantity scale = .ok calibrated) (other : Quantity) :
    calibrated.address? other = table.address? other := by
  unfold setScale at calibrates
  split_ifs at calibrates
  cases calibrates
  exact table.address?_adjust ..

theorem address?_setConversion {table calibrated : Table} {quantity : Quantity}
    {conversion : Conversion}
    (calibrates : table.setConversion quantity conversion = .ok calibrated) (other : Quantity) :
    calibrated.address? other = table.address? other := by
  unfold setConversion at calibrates
  split_ifs at calibrates
  cases calibrates
  exact table.address?_adjust ..

theorem length_addresses (table : Table) : table.addresses.length = table.length :=
  List.length_map ..

/-- The address at a place of the rotation. -/
theorem getElem?_addresses (table : Table) (index : Nat) :
    table.addresses[index % table.length]? = some (table.get index).address := by
  have inside : index % table.length < table.entries.length := Nat.mod_lt _ table.length_pos
  rw [addresses, List.getElem?_map, List.getElem?_eq_getElem inside]
  rfl

variable {first second : Table}

/-- Tables with the same addresses are equally long. -/
theorem length_eq_of_addresses (same : first.addresses = second.addresses) :
    first.length = second.length := by
  rw [← length_addresses, ← length_addresses, same]

/-- Tables with the same addresses go on to the same position. -/
theorem next_eq_of_addresses (same : first.addresses = second.addresses) (index : Nat) :
    first.next index = second.next index := by
  rw [next, next, length_eq_of_addresses same]

/-- Tables with the same addresses ask for the same one in a position. -/
theorem address_get_eq_of_addresses (same : first.addresses = second.addresses) (index : Nat) :
    (first.get index).address = (second.get index).address := by
  apply Option.some.inj
  rw [← getElem?_addresses, ← getElem?_addresses, same, length_eq_of_addresses same]

end Table

end MeterPoll
