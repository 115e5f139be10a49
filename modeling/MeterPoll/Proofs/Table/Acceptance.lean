import Mathlib.Data.List.Perm.Subperm
import Mathlib.Data.Nat.Bitwise
import Mathlib.Tactic.Common
import MeterPoll.Proofs.Decimal.Unpacked
import MeterPoll.Table

/-!
# Lists that make a table

A list of registers makes a table exactly if it is well-formed: there are registers, each of them
can be read and has a usable scale, and no address and no quantity comes twice. Any other list is
refused for the first register that offends, and for the first of the reasons to refuse it
(`Table.ofEntries_accepts_iff_wellFormed`).
-/

namespace MeterPoll

namespace Register

/-- A register that a table may hold if nothing clashes with it. -/
structure Fit (register : Register) : Prop where
  reads : register.address < 0x80
  finite : register.scale.isFinite = true
  positive : 0 < register.scale

/-- Two registers that cannot be in one table. -/
def Clashes (register other : Register) : Prop :=
  other.address = register.address ∨ other.quantity = register.quantity

/-- The first of the earlier registers that a register clashes with. -/
def FirstClash (earlier : List Register) (register other : Register) : Prop :=
  ∃ before after, earlier = before ++ other :: after ∧ register.Clashes other ∧
    ∀ apart ∈ before, ¬ register.Clashes apart

/-- Why a register is refused that comes after some others. -/
inductive Offence (earlier : List Register) (register : Register) : Fault → Prop
  | writeBit (writes : 0x80 ≤ register.address) :
      Offence earlier register (.table (.writeBit register.name register.address))
  | scale (reads : register.address < 0x80)
      (useless : ¬ (register.scale.isFinite = true ∧ 0 < register.scale)) :
      Offence earlier register (.scale register.quantity.name register.scale)
  | address (other : Register) (fit : register.Fit) (clash : FirstClash earlier register other)
      (same : other.address = register.address) :
      Offence earlier register (.table (.duplicateAddress register.address))
  | quantity (other : Register) (fit : register.Fit) (clash : FirstClash earlier register other)
      (different : other.address ≠ register.address) :
      Offence earlier register (.table (.duplicateQuantity register.quantity))

/-- The fault is that of the first register of a list that offends after those before it. -/
def FirstOffence (registers : List Register) (fault : Fault) : Prop :=
  ∃ before register after, registers = before ++ register :: after ∧
    Offence before register fault ∧
    ∀ first other last, before = first ++ other :: last → ∀ milder, ¬ Offence first other milder

/-- A list of registers that make a table. -/
structure WellFormed (registers : List Register) : Prop where
  nonempty : registers ≠ []
  reads : ∀ register ∈ registers, register.address < 0x80
  usable : ∀ register ∈ registers, register.scale.isFinite = true ∧ 0 < register.scale
  addresses : (registers.map (·.address)).Nodup
  quantities : (registers.map (·.quantity)).Nodup

variable {earlier registers : List Register} {register other : Register} {fault : Fault}

/-! ### One register after others -/

/-- The write bit is set exactly in the upper half of the addresses. -/
theorem hasWriteBit_eq_true_iff : register.hasWriteBit = true ↔ 0x80 ≤ register.address := by
  have small := register.address.toNat_lt
  have top : register.address.toNat.testBit 7 = decide (128 ≤ register.address.toNat) := by
    rw [Nat.testBit_eq_decide_div_mod_eq]
    apply decide_eq_decide.mpr
    omega
  have bit : (register.address &&& 0x80).toNat =
      (decide (128 ≤ register.address.toNat)).toNat * 128 := by
    rw [UInt8.toNat_and, ← top]
    exact Nat.and_two_pow register.address.toNat 7
  rw [hasWriteBit, bne_iff_ne, ne_eq, ← UInt8.toNat_inj, bit, UInt8.le_iff_toNat_le]
  change _ ↔ 128 ≤ _
  by_cases high : 128 ≤ register.address.toNat
  · simp [high]
  · simp [high]

/-- A register can be polled exactly if its address reads and its scale is finite and positive. -/
theorem sound_iff_fit : register.Sound ↔ register.Fit := by
  rw [Sound, usableScale_eq_true_iff, ← Bool.not_eq_true, hasWriteBit_eq_true_iff,
    UInt8.not_le]
  constructor
  · rintro ⟨reads, finite, positive⟩
    exact ⟨reads, finite, positive⟩
  · rintro ⟨reads, finite, positive⟩
    exact ⟨reads, finite, positive⟩

/-- Registers that do not clash can be in one table. -/
theorem not_clashes_iff : ¬ register.Clashes other ↔ other.Apart register :=
  not_or

/-- What is wrong with a register alone, the write bit first. -/
theorem ownFault?_eq_some_iff : register.ownFault? = some fault ↔
    (0x80 ≤ register.address ∧ fault = .table (.writeBit register.name register.address)) ∨
      (register.address < 0x80 ∧ ¬ (register.scale.isFinite = true ∧ 0 < register.scale) ∧
        fault = .scale register.quantity.name register.scale) := by
  rw [← UInt8.not_le, ← hasWriteBit_eq_true_iff, ← usableScale_eq_true_iff]
  unfold ownFault?
  by_cases writes : register.hasWriteBit = true
  · simp [writes, eq_comm (b := fault)]
  · by_cases usable : usableScale register.scale = true
    · simp [writes, usable]
    · simp [writes, usable, eq_comm (b := fault)]

/-- What is wrong between two registers, the address first. -/
theorem clash?_eq_some_iff : register.clash? other = some fault ↔ register.Clashes other ∧
    fault = if other.address = register.address then .table (.duplicateAddress register.address)
      else .table (.duplicateQuantity register.quantity) := by
  unfold clash? Clashes
  by_cases address : other.address = register.address
  · simp [address, eq_comm (b := fault)]
  · by_cases quantity : other.quantity = register.quantity
    · simp [address, quantity, eq_comm (b := fault)]
    · simp [address, quantity]

/-- The first clash with the registers before decides. -/
theorem findSome?_clash?_eq_some_iff : earlier.findSome? register.clash? = some fault ↔
    ∃ other, FirstClash earlier register other ∧
      fault = if other.address = register.address then .table (.duplicateAddress register.address)
        else .table (.duplicateQuantity register.quantity) := by
  rw [List.findSome?_eq_some_iff]
  simp only [clash?_eq_some_iff, clash?_eq_none_iff, ← not_clashes_iff]
  constructor
  · rintro ⟨before, other, after, split, ⟨clashes, rfl⟩, first⟩
    exact ⟨other, ⟨before, after, split, clashes, first⟩, rfl⟩
  · rintro ⟨other, ⟨before, after, split, clashes, first⟩, rfl⟩
    exact ⟨before, other, after, split, ⟨clashes, rfl⟩, first⟩

/-- A register is refused exactly for its offence. -/
theorem fault?_eq_some_iff :
    register.fault? earlier = some fault ↔ Offence earlier register fault := by
  unfold fault?
  constructor
  · intro found
    cases own : register.ownFault? with
    | some reason =>
        rw [own] at found
        cases found
        rcases ownFault?_eq_some_iff.mp own with ⟨writes, rfl⟩ | ⟨reads, useless, rfl⟩
        · exact .writeBit writes
        · exact .scale reads useless
    | none =>
        rw [own] at found
        have fit := sound_iff_fit.mp (ownFault?_eq_none_iff.mp own)
        obtain ⟨other, clash, rfl⟩ := findSome?_clash?_eq_some_iff.mp found
        by_cases same : other.address = register.address
        · rw [if_pos same]
          exact .address other fit clash same
        · rw [if_neg same]
          exact .quantity other fit clash same
  · intro offence
    cases offence with
    | writeBit writes =>
        rw [ownFault?_eq_some_iff.mpr (.inl ⟨writes, rfl⟩)]
        rfl
    | scale reads useless =>
        rw [ownFault?_eq_some_iff.mpr (.inr ⟨reads, useless, rfl⟩)]
        rfl
    | address other fit clash same =>
        rw [ownFault?_eq_none_iff.mpr (sound_iff_fit.mpr fit)]
        exact findSome?_clash?_eq_some_iff.mpr ⟨other, clash, (if_pos same).symm⟩
    | quantity other fit clash different =>
        rw [ownFault?_eq_none_iff.mpr (sound_iff_fit.mpr fit)]
        exact findSome?_clash?_eq_some_iff.mpr ⟨other, clash, (if_neg different).symm⟩

/-! ### The first fault of a list -/

/-- The second part of a list is looked at only if the first has no fault. -/
theorem firstFault?_append (earlier first second : List Register) :
    firstFault? earlier (first ++ second) =
      (firstFault? earlier first).or (firstFault? (earlier ++ first) second) := by
  induction first generalizing earlier with
  | nil => rw [List.append_nil]; rfl
  | cons register rest ih =>
      have through : earlier ++ register :: rest = earlier ++ [register] ++ rest :=
        List.append_cons ..
      rw [List.cons_append, firstFault?, firstFault?, ih, through]
      cases register.fault? earlier with
      | some reason => rfl
      | none => rfl

/-- In a list without a fault no register has one after those before it. -/
theorem fault?_eq_none_of_split {before after : List Register}
    (faultless : firstFault? [] (before ++ register :: after) = none) :
    register.fault? before = none := by
  rw [firstFault?_append, Option.or_eq_none_iff, List.nil_append, firstFault?] at faultless
  cases own : register.fault? before with
  | none => rfl
  | some reason =>
      rw [own] at faultless
      cases faultless.2

/-- The first fault is that of a register before which there is none. -/
theorem firstFault?_eq_some_iff : firstFault? earlier registers = some fault ↔
    ∃ before register after, registers = before ++ register :: after ∧
      firstFault? earlier before = none ∧
      register.fault? (earlier ++ before) = some fault := by
  constructor
  · intro found
    induction registers generalizing earlier with
    | nil => cases found
    | cons head rest ih =>
        rw [firstFault?] at found
        cases own : head.fault? earlier with
        | some reason =>
            rw [own] at found
            refine ⟨[], head, rest, rfl, rfl, ?_⟩
            rw [List.append_nil, own]
            exact found
        | none =>
            rw [own] at found
            obtain ⟨before, register, after, rfl, none, found⟩ := ih found
            refine ⟨head :: before, register, after, rfl, ?_, ?_⟩
            · rw [firstFault?, own]
              exact none
            · rwa [List.append_cons]
  · rintro ⟨before, register, after, rfl, none, found⟩
    rw [firstFault?_append, none, firstFault?, found]
    rfl

/-- A list has no fault exactly if no register of it offends. -/
theorem firstFault?_eq_none_iff_offence : firstFault? [] registers = none ↔
    ∀ first other last, registers = first ++ other :: last →
      ∀ fault, ¬ Offence first other fault := by
  constructor
  · rintro faultless first other last rfl fault offence
    rw [← fault?_eq_some_iff, fault?_eq_none_of_split faultless] at offence
    cases offence
  · intro none
    cases found : firstFault? [] registers with
    | none => rfl
    | some fault =>
        obtain ⟨before, register, after, split, _, offence⟩ := firstFault?_eq_some_iff.mp found
        exact absurd (fault?_eq_some_iff.mp offence) (none before register after split fault)

/-- The first fault of a list is its first offence. -/
theorem firstFault?_eq_some_iff_firstOffence :
    firstFault? [] registers = some fault ↔ FirstOffence registers fault := by
  rw [firstFault?_eq_some_iff]
  unfold FirstOffence
  simp only [List.nil_append, fault?_eq_some_iff, firstFault?_eq_none_iff_offence]
  constructor
  · rintro ⟨before, register, after, split, none, offence⟩
    exact ⟨before, register, after, split, offence, none⟩
  · rintro ⟨before, register, after, split, offence, none⟩
    exact ⟨before, register, after, split, none, offence⟩

/-! ### Well-formed lists -/

/-- Registers are apart exactly if neither addresses nor quantities repeat. -/
theorem pairwise_apart_iff : registers.Pairwise Apart ↔
    (registers.map (·.address)).Nodup ∧ (registers.map (·.quantity)).Nodup := by
  unfold List.Nodup
  rw [List.pairwise_map, List.pairwise_map, ← List.pairwise_and_iff]
  rfl

/-- The well-formed lists are those with registers and without a fault. -/
theorem wellFormed_iff : WellFormed registers ↔
    registers ≠ [] ∧ firstFault? [] registers = none := by
  rw [firstFault?_eq_none_iff, pairwise_apart_iff]
  constructor
  · rintro ⟨some, reads, usable, addresses, quantities⟩
    have sound (register : Register) (member : register ∈ registers) : register.Sound :=
      sound_iff_fit.mpr ⟨reads register member, (usable register member).1,
        (usable register member).2⟩
    exact ⟨some, sound, ⟨addresses, quantities⟩, fun _ none => absurd none List.not_mem_nil⟩
  · rintro ⟨some, sound, ⟨addresses, quantities⟩, _⟩
    have fit (register : Register) (member : register ∈ registers) : register.Fit :=
      sound_iff_fit.mp (sound register member)
    exact ⟨some, fun register member => (fit register member).reads,
      fun register member => ⟨(fit register member).finite, (fit register member).positive⟩,
      addresses, quantities⟩

/-- There are no more registers than quantities. -/
theorem WellFormed.length_le (wellFormed : WellFormed registers) : registers.length ≤ 4 := by
  have all : registers.map (·.quantity) ⊆ Quantity.all := fun quantity _ => quantity.mem_all
  have length := (wellFormed.quantities.subperm all).length_le
  rwa [List.length_map] at length

end Register

namespace Table

open Register (WellFormed FirstOffence)

variable {entries : List Register}

/-- The entries of a table are well-formed. -/
theorem wellFormed_entries (table : Table) : WellFormed table.entries :=
  Register.wellFormed_iff.mpr ⟨table.nonempty, Register.firstFault?_eq_none_iff.mpr
    ⟨table.sound, table.apart, fun _ none => absurd none List.not_mem_nil⟩⟩

/-- A table that is accepted has the entries it was made of. -/
theorem entries_of_ofEntries {table : Table} (accepted : ofEntries entries = .ok table) :
    table.entries = entries := by
  unfold ofEntries at accepted
  split at accepted
  · cases accepted
  · split at accepted
    · cases accepted
    · cases accepted
      rfl

/-- A well-formed list is accepted. -/
theorem ofEntries_of_wellFormed (wellFormed : WellFormed entries) :
    ∃ table, ofEntries entries = .ok table := by
  obtain ⟨some, faultless⟩ := Register.wellFormed_iff.mp wellFormed
  obtain ⟨sound, apart, _⟩ := Register.firstFault?_eq_none_iff.mp faultless
  exact ⟨_, ofEntries_entries ⟨entries, some, sound, apart⟩⟩

/-- A list that offends is refused for its first offence. -/
theorem ofEntries_of_firstOffence {fault : Fault} (first : FirstOffence entries fault) :
    ofEntries entries = .error fault := by
  have found := Register.firstFault?_eq_some_iff_firstOffence.mpr first
  have some : entries ≠ [] := by
    rintro rfl
    cases found
  unfold ofEntries
  rw [dif_neg some]
  split
  case h_1 other firstFault => rw [Option.some.inj (firstFault.symm.trans found)]
  case h_2 none => rw [none] at found; cases found

/-- Every list is empty, offends or is well-formed. -/
theorem empty_or_offends_or_wellFormed (entries : List Register) :
    entries = [] ∨ (∃ fault, FirstOffence entries fault) ∨ WellFormed entries := by
  by_cases empty : entries = []
  · exact .inl empty
  · refine .inr ?_
    cases found : Register.firstFault? [] entries with
    | some fault => exact .inl ⟨fault, Register.firstFault?_eq_some_iff_firstOffence.mp found⟩
    | none => exact .inr (Register.wellFormed_iff.mpr ⟨empty, found⟩)

/-- **A table is made of exactly the well-formed lists.** A list of registers is accepted, and kept
as it is, exactly if it is well-formed, in which case it has no more than four registers. A list
without registers is refused as such, and any other for the first register that offends. -/
theorem ofEntries_accepts_iff_wellFormed (entries : List Register) :
    ((∃ table, ofEntries entries = .ok table) ↔ WellFormed entries) ∧
      (∀ table, ofEntries entries = .ok table → table.entries = entries) ∧
      (WellFormed entries → entries.length ≤ 4) ∧
      ∀ fault, ofEntries entries = .error fault ↔
        (entries = [] ∧ fault = .table .noEntries) ∨ FirstOffence entries fault := by
  refine ⟨⟨?_, ofEntries_of_wellFormed⟩, fun _ accepted => entries_of_ofEntries accepted,
    WellFormed.length_le, fun fault => ⟨?_, ?_⟩⟩
  · rintro ⟨table, accepted⟩
    rw [← entries_of_ofEntries accepted]
    exact table.wellFormed_entries
  · intro refused
    rcases empty_or_offends_or_wellFormed entries with rfl | ⟨other, offence⟩ | wellFormed
    · cases refused
      exact .inl ⟨rfl, rfl⟩
    · rw [ofEntries_of_firstOffence offence] at refused
      cases refused
      exact .inr offence
    · obtain ⟨table, accepted⟩ := ofEntries_of_wellFormed wellFormed
      rw [accepted] at refused
      cases refused
  · rintro (⟨rfl, rfl⟩ | offence)
    · rfl
    · exact ofEntries_of_firstOffence offence

/-- The write bit is told with the name of the register, which need not be that of the quantity. -/
example : (Register.firstFault? [] [{ Register.unsigned 0x88 .voltage 1 with name := "mains" }]).map
    Fault.message =
      some "Invalid register table: mains register address 0x88 has the write bit set" := by
  decide +kernel

/-- The third register has the quantity of the first and the address of the second. -/
example : (Register.firstFault? [] [.unsigned 8 .voltage 1, .unsigned 6 .current 1,
    .unsigned 6 .voltage 1, .unsigned 0x88 .power 1]).map Fault.message =
      some "Invalid register table: quantity voltage appears twice" := by
  decide +kernel

end Table

end MeterPoll
