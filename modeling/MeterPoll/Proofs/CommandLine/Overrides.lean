import MeterPoll.CommandLine.Plan
import MeterPoll.Proofs.Table.Upkeep

/-!
# Scales on the command line

Scales that are given on the command line are taken if every one of them can be used for a quantity
that is polled, and then each quantity has the last scale that was given for it
(`CommandLine.entries_applyScales`). A configuration calibrates the table of the reference device
by the same calls (`Config.table_eq_recalibrateAll`). So no way of calibrating a table spoils it
(`CommandLine.calibration_upkeep`).
-/

namespace MeterPoll

namespace Config

/-- The calls by which a configuration calibrates a table. -/
def adjustments (channels : Channels) (quantities : List Quantity) : List Adjustment :=
  quantities.flatMap fun quantity =>
    [.conversion quantity (channels.get quantity).conversion,
      .scale quantity (channels.get quantity).scale]

/-- A configured calibration is a sequence of calls on the table. -/
theorem calibrate_eq_recalibrateAll {channels : Channels} {quantities : List Quantity}
    {table calibrated : Table} (done : calibrate channels quantities table = .ok calibrated) :
    calibrated = table.recalibrateAll (adjustments channels quantities) := by
  induction quantities generalizing table with
  | nil =>
      cases done
      rfl
  | cons quantity rest ih =>
      rw [calibrate] at done
      cases converted : table.setConversion quantity (channels.get quantity).conversion with
      | error fault => rw [converted] at done; cases done
      | ok middle =>
          rw [converted] at done
          cases scaled : middle.setScale quantity (channels.get quantity).scale with
          | error fault =>
              simp only [bind, Except.bind, scaled] at done
              cases done
          | ok onward =>
              simp only [bind, Except.bind, scaled] at done
              have first : table.recalibrate
                  (.conversion quantity (channels.get quantity).conversion) = middle :=
                Table.recalibrate_of_ok converted
              have second : middle.recalibrate
                  (.scale quantity (channels.get quantity).scale) = onward :=
                Table.recalibrate_of_ok scaled
              rw [ih done, ← second, ← first]
              rfl

/-- The table of a configuration comes of the table of the reference device by calibrations. -/
theorem table_eq_recalibrateAll {config : Config} {table : Table}
    (built : config.table = .ok table) :
    table = Table.reference.recalibrateAll (adjustments config.channels Quantity.all) :=
  calibrate_eq_recalibrateAll built

end Config

namespace CommandLine

variable {σ : Type} {poller onward : Poller σ}

def ScaleOverride.adjustment (override : ScaleOverride) : Adjustment :=
  .scale override.quantity override.scale

/-- The last scale that is given for a quantity, if there is one. -/
def lastScale? (overrides : List ScaleOverride) (quantity : Quantity) : Option Float :=
  (overrides.reverse.find? (·.quantity = quantity)).map (·.scale)

/-- The register with the last scale that is given for its quantity. -/
def rescaled (overrides : List ScaleOverride) (register : Register) : Register :=
  { register with scale := (lastScale? overrides register.quantity).getD register.scale }

/-- A later override of the same quantity counts before an earlier one. -/
theorem lastScale?_cons (override : ScaleOverride) (rest : List ScaleOverride)
    (quantity : Quantity) :
    lastScale? (override :: rest) quantity = (lastScale? rest quantity).or
      (if override.quantity = quantity then some override.scale else none) := by
  unfold lastScale?
  rw [List.reverse_cons, List.find?_append, List.find?_singleton]
  by_cases same : override.quantity = quantity
  · cases rest.reverse.find? (·.quantity = quantity) <;> simp [same]
  · cases rest.reverse.find? (·.quantity = quantity) <;> simp [same]

/-- The first scale counts as long as none of the others is for its quantity. -/
theorem rescaled_cons (override : ScaleOverride) (rest : List ScaleOverride)
    (register : Register) :
    rescaled (override :: rest) register = rescaled rest
      (if register.quantity = override.quantity then override.adjustment.edit register
        else register) := by
  unfold rescaled
  rw [lastScale?_cons]
  split_ifs with same other other
  · cases later : lastScale? rest register.quantity with
    | none => simp only [ScaleOverride.adjustment, Adjustment.edit, later]; rfl
    | some scale => simp only [ScaleOverride.adjustment, Adjustment.edit, later]; rfl
  · exact absurd same.symm other
  · exact absurd other.symm same
  · rw [Option.or_none]

/-- The first scale is applied, and the others to what it leaves. -/
theorem applyScales_cons (poller : Poller σ) (override : ScaleOverride)
    (rest : List ScaleOverride) :
    (∃ fault failure, poller.table.calibrate override.adjustment = .error fault ∧
      applyScales poller (override :: rest) = .error failure) ∨
    ∃ calibrated : Poller σ,
      poller.table.calibrate override.adjustment = .ok calibrated.table ∧
        applyScales poller (override :: rest) = applyScales calibrated rest := by
  obtain ⟨quantity, scale⟩ := override
  simp only [applyScales, Poller.setScale, ScaleOverride.adjustment, Table.calibrate]
  cases poller.table.setScale quantity scale with
  | error fault => exact .inl ⟨fault, _, rfl, rfl⟩
  | ok table => exact .inr ⟨_, rfl, rfl⟩

/-- Overrides that are accepted are calls on the table of the poller. -/
theorem table_applyScales {overrides : List ScaleOverride}
    (applied : applyScales poller overrides = .ok onward) :
    onward.table =
      poller.table.recalibrateAll (overrides.map ScaleOverride.adjustment) := by
  induction overrides generalizing poller with
  | nil =>
      cases applied
      rfl
  | cons override rest ih =>
      rcases applyScales_cons poller override rest with
        ⟨_, failure, _, failed⟩ | ⟨calibrated, done, goesOn⟩
      · rw [failed] at applied
        cases applied
      · rw [goesOn] at applied
        rw [ih applied, ← Table.recalibrate_of_ok done]
        rfl

/-- The scales are applied exactly if every one is usable and for a quantity that is polled. -/
theorem exists_applyScales_iff {overrides : List ScaleOverride} :
    (∃ onward, applyScales poller overrides = .ok onward) ↔ ∀ override ∈ overrides,
      override.adjustment.Usable ∧ poller.table.Polls override.quantity := by
  induction overrides generalizing poller with
  | nil => exact iff_of_true ⟨poller, rfl⟩ nofun
  | cons override rest ih =>
      have answers := poller.table.answers override.adjustment
      rw [List.forall_mem_cons]
      rcases applyScales_cons poller override rest with
        ⟨fault, failure, refused, failed⟩ | ⟨calibrated, done, goesOn⟩
      · rw [failed]
        refine iff_of_false (by rintro ⟨_, applied⟩; cases applied) fun fit => ?_
        obtain ⟨_, done⟩ := answers.succeeds_iff.mpr fit.1
        rw [refused] at done
        cases done
      · have fit := answers.succeeds_iff.mp ⟨_, done⟩
        have layout := poller.table.layout_recalibrate override.adjustment
        rw [Table.recalibrate_of_ok done] at layout
        rw [goesOn, ih]
        simp only [Table.polls_iff_of_layout layout]
        exact ⟨fun rest => ⟨fit, rest⟩, And.right⟩

/-- Each quantity has the last scale that was given for it, and nothing else is changed. -/
theorem entries_applyScales {overrides : List ScaleOverride}
    (applied : applyScales poller overrides = .ok onward) :
    onward.table.entries = poller.table.entries.map (rescaled overrides) := by
  induction overrides generalizing poller with
  | nil =>
      cases applied
      exact (List.map_id _).symm
  | cons override rest ih =>
      rcases applyScales_cons poller override rest with
        ⟨_, failure, _, failed⟩ | ⟨calibrated, done, goesOn⟩
      · rw [failed] at applied
        cases applied
      · rw [goesOn] at applied
        rw [ih applied, ((poller.table.answers override.adjustment).done _ done).2, List.map_map]
        exact List.map_congr_left fun register _ => (rescaled_cons override rest register).symm

/-- **No calibration spoils a table.** Whatever is tried to calibrate a table by, each call does
what it is for or nothing, the entries stay in their layout and are accepted again, and the lookups
go on to find each entry. The moves of a poller, the scales of a command line and a configuration
calibrate by such calls. The scales of a command line are taken if each of them can be, and then the
last one given for a quantity counts. -/
theorem calibration_upkeep :
    (∀ (original : Table) calls call, original.Upkeep (original.recalibrateAll calls) ∧
      (original.recalibrateAll calls).Answers call) ∧
    (∀ {σ ε : Type} [Line σ] (handle : ε → σ → Served σ Unit) (poller : Poller σ)
      (moves : List (Move ε)), (poller.run handle moves).table =
        poller.table.recalibrateAll (moves.filterMap Move.adjustment?)) ∧
    (∀ {σ : Type} (poller : Poller σ) fault,
      (∀ quantity scale, (poller.setScale quantity scale).1 = .error fault →
        (poller.setScale quantity scale).2 = poller) ∧
      ∀ quantity conversion, (poller.setConversion quantity conversion).1 = .error fault →
        (poller.setConversion quantity conversion).2 = poller) ∧
    (∀ {σ : Type} (poller : Poller σ) (overrides : List ScaleOverride),
      ((∃ onward, applyScales poller overrides = .ok onward) ↔ ∀ override ∈ overrides,
        (override.scale.isFinite = true ∧ 0 < override.scale) ∧
          poller.table.Polls override.quantity) ∧
      ∀ onward, applyScales poller overrides = .ok onward →
        onward.table = poller.table.recalibrateAll (overrides.map ScaleOverride.adjustment) ∧
          onward.table.entries = poller.table.entries.map (rescaled overrides)) ∧
    ∀ (config : Config) table, config.table = .ok table →
      table = Table.reference.recalibrateAll
        (Config.adjustments config.channels Quantity.all) := by
  refine ⟨fun original calls call => ⟨original.upkeep_recalibrateAll calls, Table.answers _ call⟩,
    fun handle poller moves => poller.table_run_eq_recalibrateAll handle moves, ?_, ?_,
    fun config table built => Config.table_eq_recalibrateAll built⟩
  · intro σ poller fault
    exact ⟨fun _ _ => Poller.setScale_of_error, fun _ _ => Poller.setConversion_of_error⟩
  · intro σ poller overrides
    exact ⟨exists_applyScales_iff, fun onward applied =>
      ⟨table_applyScales applied, entries_applyScales applied⟩⟩

end CommandLine

end MeterPoll
