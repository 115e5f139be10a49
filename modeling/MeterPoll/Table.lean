import MeterPoll.Fault
import MeterPoll.Register

/-!
# Register tables

The ordered set of registers that is polled in rotation. A table is never empty, its addresses can
be read, its scales are usable, and no address and no quantity occurs twice; calibration keeps all
of this. Main facts: a list of registers has no fault exactly when these conditions hold
(`firstFault?_eq_none_iff`), and calibrating changes the entry of one quantity only
(`entries_adjust`).
-/

namespace MeterPoll

namespace Register

/-- What is wrong with a register alone. The write bit comes before the scale, and its fault gives
the name of the register where that of the scale gives the quantity. -/
def ownFault? (register : Register) : Option Fault :=
  if register.hasWriteBit then some (.table (.writeBit register.name register.address))
  else if usableScale register.scale then none
  else some (.scale register.quantity.name register.scale)

/-- How a register clashes with an earlier one. The address comes before the quantity. -/
def clash? (register earlier : Register) : Option Fault :=
  if earlier.address = register.address then
    some (.table (.duplicateAddress register.address))
  else if earlier.quantity = register.quantity then
    some (.table (.duplicateQuantity register.quantity))
  else none

/-- What is wrong with a register after the earlier ones, which are compared in order. -/
def fault? (earlier : List Register) (register : Register) : Option Fault :=
  register.ownFault? <|> earlier.findSome? register.clash?

/-- The fault of the first register of a list that has one, given the registers before it. -/
def firstFault? : List Register → List Register → Option Fault
  | _, [] => none
  | earlier, register :: rest =>
    register.fault? earlier <|> firstFault? (earlier ++ [register]) rest

/-- A register that can be polled: its address reads and its scale is usable. -/
def Sound (register : Register) : Prop :=
  register.hasWriteBit = false ∧ usableScale register.scale = true

instance (register : Register) : Decidable register.Sound :=
  inferInstanceAs (Decidable (_ ∧ _))

/-- Two registers that can be in one table. -/
def Apart (first second : Register) : Prop :=
  first.address ≠ second.address ∧ first.quantity ≠ second.quantity

/-- Nothing is wrong with a register alone exactly if it can be polled. -/
theorem ownFault?_eq_none_iff {register : Register} :
    register.ownFault? = none ↔ register.Sound := by
  unfold ownFault? Sound
  cases register.hasWriteBit <;> cases usableScale register.scale <;> simp

/-- Registers do not clash exactly if they can be in one table. -/
theorem clash?_eq_none_iff {register earlier : Register} :
    register.clash? earlier = none ↔ earlier.Apart register := by
  unfold clash? Apart
  split <;> simp_all

/-- A register can follow others exactly if it can be polled and clashes with none of them. -/
theorem fault?_eq_none_iff {earlier : List Register} {register : Register} :
    register.fault? earlier = none ↔
      register.Sound ∧ ∀ other ∈ earlier, other.Apart register := by
  unfold fault?
  rw [← ownFault?_eq_none_iff]
  cases register.ownFault? with
  | none => simp [List.findSome?_eq_none_iff, clash?_eq_none_iff]
  | some fault => simp

/-- A list of registers has no fault exactly when its registers are sound, apart from one another
and apart from the earlier ones. -/
theorem firstFault?_eq_none_iff {earlier registers : List Register} :
    firstFault? earlier registers = none ↔
      (∀ register ∈ registers, register.Sound) ∧ registers.Pairwise Apart ∧
        ∀ other ∈ earlier, ∀ register ∈ registers, other.Apart register := by
  induction registers generalizing earlier with
  | nil => simp [firstFault?]
  | cons register rest ih =>
    have split : firstFault? earlier (register :: rest) = none ↔
        register.fault? earlier = none ∧ firstFault? (earlier ++ [register]) rest = none := by
      rw [firstFault?]
      cases register.fault? earlier <;> simp
    rw [split, fault?_eq_none_iff, ih]
    simp only [List.mem_cons, List.mem_append, List.pairwise_cons, List.not_mem_nil, or_false]
    constructor
    · rintro ⟨⟨sound, before⟩, restSound, restApart, apart⟩
      exact ⟨fun r member => member.elim (fun same => same ▸ sound) (restSound r),
        ⟨fun r member => apart register (.inr rfl) r member, restApart⟩,
        fun other member r among => among.elim (fun same => same ▸ before other member)
          (apart other (.inl member) r)⟩
    · rintro ⟨sound, ⟨first, restApart⟩, before⟩
      exact ⟨⟨sound register (.inl rfl), fun other member => before other member _ (.inl rfl)⟩,
        fun r member => sound r (.inr member), restApart,
        fun other among r member => among.elim (fun earlierMember =>
          before other earlierMember r (.inr member)) fun same => same ▸ first r member⟩

end Register

/-- The registers polled in rotation. -/
structure Table where
  entries : List Register
  nonempty : entries ≠ []
  sound : ∀ register ∈ entries, register.Sound
  apart : entries.Pairwise Register.Apart

namespace Table

/-- The table of a list of registers. The fault is that of the first offending register. -/
def ofEntries (entries : List Register) : Except Fault Table :=
  if nonempty : entries = [] then .error (.table .noEntries)
  else
    match faultless : Register.firstFault? [] entries with
    | some fault => .error fault
    | none =>
      have holds := Register.firstFault?_eq_none_iff.1 faultless
      .ok ⟨entries, nonempty, holds.1, holds.2.1⟩

/-- The registers of the reference device: voltage, current, frequency and active power. -/
def reference : Table where
  entries := [
    .unsigned 0x08 .voltage 11015.3,
    .unsigned 0x06 .current 10000.0,
    .unsigned 0x09 .frequency 100.0,
    { Register.unsigned 0x0A .power 0.005 with signed := true, conversion := .multiply }]
  nonempty := by simp
  sound := by
    simp only [List.mem_cons, List.not_mem_nil, or_false, forall_eq_or_imp, forall_eq]
    decide +kernel
  apart := by
    simp only [List.pairwise_cons, List.mem_cons, List.not_mem_nil, or_false, forall_eq_or_imp,
      forall_eq, false_imp_iff, implies_true, List.Pairwise.nil, and_true]
    unfold Register.Apart Register.unsigned
    decide

/-- The number of registers in the rotation. -/
def length (table : Table) : Nat :=
  table.entries.length

/-- A table is not empty. -/
theorem length_pos (table : Table) : 0 < table.length :=
  List.length_pos_iff.2 table.nonempty

/-- The register at a position of the rotation, which starts over at the end of the table. -/
def get (table : Table) (index : Nat) : Register :=
  table.entries.get ⟨index % table.length, Nat.mod_lt _ table.length_pos⟩

/-- The position after `index` in the rotation. -/
def next (table : Table) (index : Nat) : Nat :=
  (index + 1) % table.length

/-- The register of a quantity, if the table polls it. -/
def byQuantity? (table : Table) (quantity : Quantity) : Option Register :=
  table.entries.find? (·.quantity = quantity)

/-- The register at an address, if the table polls it. -/
def byAddress? (table : Table) (address : UInt8) : Option Register :=
  table.entries.find? (·.address = address)

/-- Changes the entry of one quantity in a way that keeps its address and quantity and a usable
scale. -/
def adjust (table : Table) (quantity : Quantity) (change : Register → Register)
    (keeps : ∀ register, (change register).address = register.address ∧
      (change register).quantity = register.quantity ∧
      (usableScale register.scale = true → usableScale (change register).scale = true)) :
    Table where
  entries := table.entries.map fun register =>
    if register.quantity = quantity then change register else register
  nonempty := by simpa using table.nonempty
  sound := by
    intro changed member
    obtain ⟨register, among, rfl⟩ := List.mem_map.1 member
    have sound := table.sound register among
    split
    · refine ⟨?_, (keeps register).2.2 sound.2⟩
      rw [Register.hasWriteBit, (keeps register).1]
      exact sound.1
    · exact sound
  apart := by
    refine table.apart.map _ ?_
    have kept (register : Register) :
        (if register.quantity = quantity then change register else register).address =
            register.address ∧
          (if register.quantity = quantity then change register else register).quantity =
            register.quantity := by
      split
      · exact ⟨(keeps register).1, (keeps register).2.1⟩
      · exact ⟨rfl, rfl⟩
    intro first second apart
    unfold Register.Apart
    rw [(kept first).1, (kept first).2, (kept second).1, (kept second).2]
    exact apart

/-- Calibrates a quantity with a new scale. The scale is looked at before the quantity. -/
def setScale (table : Table) (quantity : Quantity) (scale : Float) : Except Fault Table :=
  if usable : usableScale scale = true then
    if (table.byQuantity? quantity).isSome then
      .ok (table.adjust quantity (fun register => { register with scale }) (by simp [usable]))
    else .error (.unknownQuantity quantity.name)
  else .error (.scale quantity.name scale)

/-- Calibrates a quantity with a new conversion. -/
def setConversion (table : Table) (quantity : Quantity) (conversion : Conversion) :
    Except Fault Table :=
  if (table.byQuantity? quantity).isSome then
    .ok (table.adjust quantity (fun register => { register with conversion }) (by simp))
  else .error (.unknownQuantity quantity.name)

/-- Only the entries of the adjusted quantity change. -/
theorem entries_adjust (table : Table) (quantity : Quantity) (change keeps) :
    (table.adjust quantity change keeps).entries = table.entries.map fun register =>
      if register.quantity = quantity then change register else register := rfl

/-- The entries of a table make the table. -/
theorem ofEntries_entries (table : Table) : ofEntries table.entries = .ok table := by
  have faultless : Register.firstFault? [] table.entries = none :=
    Register.firstFault?_eq_none_iff.2 ⟨table.sound, table.apart, by simp⟩
  unfold ofEntries
  rw [dif_neg table.nonempty]
  split
  case h_1 fault found => rw [faultless] at found; cases found
  case h_2 => rfl

end Table

end MeterPoll
