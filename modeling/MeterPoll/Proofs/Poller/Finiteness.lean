import MeterPoll.Proofs.Meter.Handling
import MeterPoll.Proofs.Register.Magnitude
import MeterPoll.Proofs.Table.Upkeep

/-!
# Finite readings

No reply makes a reading infinite unless the calibration in effect when it is accepted overflows
with some content of the register (`Poller.finite_run`). A table with such a calibration is accepted
all the same (`Poller.infinite_reading`). The calibration of the reference device does not overflow,
nor does it after changes that keep the scales well inside the range of floats
(`Poller.isFinite_reading_reference`).
-/

namespace MeterPoll

open Binary64 (overflowBound)

variable {σ ε : Type}

namespace Table

variable {table : Table} {quantity : Quantity} {register : Register}

/-- A register that a table finds is sound. -/
theorem sound_of_byQuantity? (found : table.byQuantity? quantity = some register) :
    register.Sound :=
  table.sound register (List.mem_of_find?_eq_some found)

/-- The scales of all registers are well inside the range of floats. -/
def Mild (table : Table) : Prop :=
  ∀ register ∈ table.entries, (Binary64.ofFloat register.scale).Mild

/-- The scales of the reference table are moderate. -/
theorem reference_mild : reference.Mild := by
  unfold Mild
  decide +kernel

/-- Calibrating with moderate scales keeps a table moderate. -/
theorem mild_recalibrate (mild : table.Mild) {call : Adjustment}
    (given : ∀ quantity scale, call = .scale quantity scale → (Binary64.ofFloat scale).Mild) :
    (table.recalibrate call).Mild := by
  have effect := table.calibrateEffect call
  cases outcome : table.calibrate call with
  | error fault =>
      rw [recalibrate_of_error outcome]
      exact mild
  | ok calibrated =>
      rw [recalibrate_of_ok outcome]
      rw [outcome] at effect
      cases effect with
      | done _ _ _ entries =>
          intro register among
          rw [entries] at among
          obtain ⟨before, inside, rfl⟩ := List.mem_map.mp among
          split_ifs
          · cases call with
            | scale quantity scale => exact given quantity scale rfl
            | conversion quantity conversion => exact mild before inside
          · exact mild before inside

/-- New conversions and mild new scales keep a table mild. -/
theorem mild_recalibrateAll (mild : table.Mild) {calls : List Adjustment}
    (given : ∀ quantity scale, .scale quantity scale ∈ calls → (Binary64.ofFloat scale).Mild) :
    (table.recalibrateAll calls).Mild := by
  induction calls generalizing table with
  | nil => exact mild
  | cons call rest ih =>
      refine ih (mild_recalibrate mild ?_) fun quantity scale among =>
        given quantity scale (List.mem_cons_of_mem _ among)
      rintro quantity scale rfl
      exact given quantity scale List.mem_cons_self

end Table

namespace Poller

variable [Line σ] (handle : ε → σ → Served σ Unit)

/-- A reading is finite, or the reply it comes from overflowed with the calibration at that
moment. -/
theorem isFinite_or_overflow (line : σ) (table : Table) (options : Options)
    (moves : List (Move ε)) (quantity : Quantity) :
    let start := new line table options
    let reading := (start.run handle moves).readings.get quantity
    reading.isFinite = true ∨
      ∃ before move after register reply raw, moves = before ++ move :: after ∧
        start.Origin handle before move quantity register reply raw reading ∧
        ¬ register.Moderate ∧
        overflowBound ≤ |register.exactValue raw start.options.noise| := by
  intro start reading
  by_cases finite : reading.isFinite = true
  · exact .inl finite
  · refine .inr ?_
    rcases zero_or_origin handle line table options moves quantity with ⟨zero, -⟩ | origin
    · have here : reading = 0.0 := zero
      exact absurd (by rw [here]; decide) finite
    · obtain ⟨before, move, after, register, reply, raw, split, origin, -⟩ := origin
      have sound := Table.sound_of_byQuantity? origin.entry
      have overflow : ¬ |register.exactValue raw start.options.noise| < overflowBound := by
        rw [← Register.isFinite_value_iff sound, ← origin.read]
        exact finite
      refine ⟨before, move, after, register, reply, raw, split, origin, ?_, not_lt.mp overflow⟩
      rw [Register.moderate_iff sound]
      exact fun below => overflow (below raw _)

/-- **Finite readings.** For every register of a table, as accepted and as calibrated since, the
physical value of a content is finite exactly if the exact value is below the bound, and all exact
values of the register are exactly if its calibration is moderate. So on every run a reading is
finite, or it comes from a reply that was accepted while the calibration was not moderate. -/
theorem finite_run (line : σ) (table : Table) (options : Options) (moves : List (Move ε)) :
    let start := new line table options
    let poller := start.run handle moves
    (∀ register ∈ poller.table.entries,
      (register.Moderate ↔ ∀ raw noise, |register.exactValue raw noise| < overflowBound) ∧
      ∀ raw noise, (register.value raw noise).isFinite = true ↔
        |register.exactValue raw noise| < overflowBound) ∧
    ∀ quantity, (poller.readings.get quantity).isFinite = true ∨
      ∃ before move after register reply raw, moves = before ++ move :: after ∧
        start.Origin handle before move quantity register reply raw
          (poller.readings.get quantity) ∧
        ¬ register.Moderate ∧
        overflowBound ≤ |register.exactValue raw start.options.noise| := by
  intro start poller
  refine ⟨?_, isFinite_or_overflow handle line table options moves⟩
  intro register among
  have sound := poller.table.sound register among
  exact ⟨Register.moderate_iff sound, Register.isFinite_value_iff sound⟩

/-- As long as all scales are well inside the range of floats, so are the readings. -/
theorem isFinite_reading_of_mild (line : σ) {table : Table} (options : Options) (mild : table.Mild)
    {moves : List (Move ε)}
    (given : ∀ quantity scale, .scale quantity scale ∈ moves.filterMap Move.adjustment? →
      (Binary64.ofFloat scale).Mild) (quantity : Quantity) :
    (((new line table options).run handle moves).readings.get quantity).isFinite = true := by
  rcases isFinite_or_overflow handle line table options moves quantity with finite | overflow
  · exact finite
  · obtain ⟨before, move, after, register, reply, raw, rfl, origin, immoderate, -⟩ := overflow
    have among := List.mem_of_find?_eq_some origin.entry
    have kept : (table.afterAll before).Mild := by
      rw [Table.afterAll_eq_recalibrateAll]
      refine Table.mild_recalibrateAll mild fun quantity scale member => given quantity scale ?_
      rw [List.filterMap_append]
      exact List.mem_append_left _ member
    exact absurd (Register.moderate_of_mild ((table.afterAll before).sound register among)
      (kept register among)) immoderate

/-- A poller on the reference table has finite readings as long as it is given moderate scales. -/
theorem isFinite_reading_reference (line : σ) (options : Options) {moves : List (Move ε)}
    (given : ∀ quantity scale, .scale quantity scale ∈ moves.filterMap Move.adjustment? →
      (Binary64.ofFloat scale).Mild) (quantity : Quantity) :
    (((new line .reference options).run handle moves).readings.get quantity).isFinite = true :=
  isFinite_reading_of_mild handle line options Table.reference_mild given quantity

end Poller

/-- A voltage register with a scale of about 10 ^ 308, which is usable but not moderate. -/
def Register.overflowing : Register :=
  { Register.unsigned 0x08 .voltage (Float.ofBits 0x7fe1ccf385ebc8a0) with
    conversion := .multiply }

/-- A table may hold it. -/
theorem Register.sound_overflowing : Register.overflowing.Sound := by
  decide +kernel

/-- The table of the one register. -/
def Table.overflowing : Table where
  entries := [.overflowing]
  nonempty := List.cons_ne_nil _ _
  sound := List.forall_mem_singleton.mpr Register.sound_overflowing
  apart := List.pairwise_singleton _ _

namespace Poller

/-- The table is accepted, and the first reply of the reference device is stored as an infinite
voltage. -/
theorem infinite_reading :
    let poller :=
      (new Meter.reference .overflowing .standard).run Handling.apply [.slowTick, .fastTick]
    Table.ofEntries [.overflowing] = .ok .overflowing ∧
      overflowBound ≤ |Register.overflowing.exactValue 2691072 0| ∧
      poller.readings.get .voltage = Register.overflowing.value 2691072 0 ∧
      (poller.readings.get .voltage).isFinite = false := by
  refine ⟨Table.overflowing.ofEntries_entries, ?_, by decide +kernel, by decide +kernel⟩
  rw [← not_lt, ← Register.isFinite_value_iff Register.sound_overflowing]
  decide +kernel

end Poller

end MeterPoll
