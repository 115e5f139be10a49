import MeterPoll.Proofs.CommandLine.Overrides
import MeterPoll.Proofs.Poller.Dialogue

/-!
# Simulations

A simulation polls the simulated meter for a number of rounds. No configuration that can work and no
scale that can be used makes it fail, and what it counts is a function of the number of rounds
(`CommandLine.runSimulation_totals`).
-/

namespace MeterPoll

namespace Config

/-- A configuration without a fault asks at some tick. -/
theorem requestEvery_pos_of_fault? {config : Config} (sound : config.fault? = none) :
    0 < config.scheduler.requestEvery := by
  refine Nat.pos_of_ne_zero fun zero => ?_
  simp only [fault?, zero, if_true] at sound
  split_ifs at sound

/-- A configuration that can work has a table, and its scheduler acts on some ticks. -/
theorem exists_table_of_validate {config : Config} (valid : config.validate = .ok ()) :
    (∃ table, config.table = .ok table) ∧ 0 < config.scheduler.requestEvery := by
  unfold validate at valid
  cases level : LogLevel.ofText config.application.logLevel with
  | error fault => rw [level] at valid; cases valid
  | ok level' =>
      cases sound : config.fault? with
      | some fault => rw [level, sound] at valid; cases valid
      | none =>
          refine ⟨?_, requestEvery_pos_of_fault? sound⟩
          cases built : config.table with
          | error fault => rw [level, sound, built] at valid; cases valid
          | ok table => exact ⟨table, rfl⟩

end Config

namespace CommandLine

variable {table : Table}

/-- The meter with the register of one quantity in another mode. -/
def inMode (table : Table) (meter : Meter) (quantity? : Option Quantity) (mode : ReplyMode) :
    Meter :=
  match quantity?.bind table.byQuantity? with
  | some register => meter.setMode register.address mode
  | none => meter

/-- Setting a mode changes nothing else of the meter. -/
theorem inMode_eq (meter : Meter) (quantity? : Option Quantity) (mode : ReplyMode) :
    inMode table meter quantity? mode =
      { meter with modes := (inMode table meter quantity? mode).modes } := by
  unfold inMode
  cases quantity?.bind table.byQuantity? with
  | none => rfl
  | some register => rfl

/-- Only the register of the given quantity gets the mode. -/
theorem modes_inMode (meter : Meter) (quantity? : Option Quantity) (mode : ReplyMode)
    {register : Register} (member : register ∈ table.entries) :
    (inMode table meter quantity? mode).modes register.address =
      if quantity? = some register.quantity then mode else meter.modes register.address := by
  unfold inMode
  cases quantity? with
  | none => rfl
  | some quantity =>
      by_cases same : register.quantity = quantity
      · have found : table.byQuantity? quantity = some register := by
          rw [← same]
          exact Table.find?_key (·.quantity) member (table.apart.imp And.right)
        simp only [Option.bind_some, found, same, if_true]
        exact if_pos rfl
      · have different : some quantity ≠ some register.quantity := fun equal =>
          same (Option.some.inj equal).symm
        rw [if_neg different]
        cases found : table.byQuantity? quantity with
        | none => simp only [Option.bind_some, found]
        | some other =>
            have named := List.find?_some found
            simp only [Option.bind_some, found]
            refine if_neg fun equal => same ?_
            rw [Table.eq_of_key (table.apart.imp And.left) member (List.mem_of_find?_eq_some found)
              equal]
            exact of_decide_eq_true named

namespace SimulationJob

variable {job : SimulationJob}

/-- How the simulated meter answers for a quantity. -/
def modeOf (job : SimulationJob) (quantity : Quantity) : ReplyMode :=
  if job.corrupt = some quantity then .corrupt
  else if job.silent = some quantity then .silent
  else .respond

/-- The simulated meter of a job. -/
def meter (job : SimulationJob) (table : Table) : Meter :=
  simulatedMeter table [(job.silent, .silent), (job.corrupt, .corrupt)]

/-- The simulated meter is the reference device with at most two modes set. -/
theorem meter_eq_inMode : job.meter table =
    inMode table (inMode table .reference job.silent .silent) job.corrupt .corrupt := rfl

/-- The simulated meter is the reference device but for its modes. -/
theorem meter_eq : job.meter table =
    { Meter.reference with modes := (job.meter table).modes } := by
  rw [meter_eq_inMode, inMode_eq, inMode_eq]

/-- Each register of the table answers as the job says for its quantity. -/
theorem modes_meter {register : Register} (member : register ∈ table.entries) :
    (job.meter table).modes register.address = job.modeOf register.quantity := by
  rw [meter_eq_inMode, modes_inMode _ _ _ member, modes_inMode _ _ _ member]
  rfl

end SimulationJob

/-- Overrides change nothing but the table and the log. -/
theorem exists_log_applyScales {σ : Type} {poller onward : Poller σ}
    {overrides : List ScaleOverride} (applied : applyScales poller overrides = .ok onward) :
    ∃ log, onward = { poller with table := onward.table, log } := by
  induction overrides generalizing poller with
  | nil =>
      cases applied
      exact ⟨onward.log, rfl⟩
  | cons override rest ih =>
      rw [applyScales] at applied
      cases calibrates : poller.table.setScale override.quantity override.scale with
      | error fault =>
          simp only [Poller.setScale, calibrates] at applied
          cases applied
      | ok table =>
          simp only [Poller.setScale, calibrates] at applied
          obtain ⟨log, same⟩ := ih applied
          exact ⟨log, same⟩

/-! ### The calibrated table -/

/-- A table with the layout of the reference device. -/
def Usual (table : Table) : Prop :=
  table.entries.map Register.layout = Table.reference.entries.map Register.layout

namespace Usual

variable {calibrated : Table} {job : SimulationJob}

/-- A configured table has the registers of the reference table. -/
theorem of_config {config : Config} (built : config.table = .ok table) : Usual table := by
  rw [Config.table_eq_recalibrateAll built]
  exact Table.layout_recalibrateAll ..

/-- Overrides keep the registers of the table. -/
theorem of_applyScales {σ : Type} {poller onward : Poller σ} (usual : Usual poller.table)
    {overrides : List ScaleOverride} (applied : applyScales poller overrides = .ok onward) :
    Usual onward.table := by
  rw [table_applyScales applied]
  exact (Table.layout_recalibrateAll ..).trans usual

/-- Two usual tables agree in everything that no calibration touches. -/
theorem map_eq (usual : Usual table) (other : Usual calibrated) {α : Type}
    (part : UInt8 × Quantity × String × Bool → α) :
    table.entries.map (fun register => part register.layout) =
      calibrated.entries.map fun register => part register.layout := by
  have parts := congrArg (List.map part) (usual.trans other.symm)
  rw [List.map_map, List.map_map] at parts
  exact parts

/-- Every register of one usual table has its counterpart in another. -/
theorem exists_same (usual : Usual table) (other : Usual calibrated) {register : Register}
    (member : register ∈ table.entries) :
    ∃ same ∈ calibrated.entries, same.layout = register.layout := by
  have listed := List.mem_map_of_mem (f := Register.layout) member
  rw [usual, ← other] at listed
  exact List.mem_map.mp listed

theorem reference : Usual .reference := rfl

/-- The addresses of a usual table, in the order of polling. -/
theorem addresses_eq (usual : Usual table) : table.addresses = [0x08, 0x06, 0x09, 0x0A] :=
  usual.map_eq reference Prod.fst

theorem length_eq (usual : Usual table) : table.length = 4 :=
  (table.length_addresses.symm.trans (congrArg List.length usual.addresses_eq))

/-- The quantities of a usual table, in the order of polling. -/
theorem quantities_eq (usual : Usual table) :
    table.entries.map (·.quantity) = [.voltage, .current, .frequency, .power] :=
  usual.map_eq reference (·.2.1)

/-- The quantity at a place of the rotation, which has four places. -/
theorem quantity_get (usual : Usual table) (number : Nat) :
    some (table.get number).quantity =
      [Quantity.voltage, .current, .frequency, .power][number % 4]? := by
  have inside : number % table.length < table.entries.length := Nat.mod_lt _ table.length_pos
  rw [← usual.quantities_eq, List.getElem?_map, ← usual.length_eq, List.getElem?_eq_getElem inside]
  rfl

/-- A usual table polls every quantity. -/
theorem polls (usual : Usual table) (quantity : Quantity) : table.Polls quantity := by
  unfold Table.Polls
  rw [usual.quantities_eq]
  cases quantity <;> decide

theorem modes_meter (usual : Usual table) (other : Usual calibrated) {register : Register}
    (member : register ∈ calibrated.entries) :
    (job.meter table).modes register.address = job.modeOf register.quantity := by
  obtain ⟨same, among, layout⟩ := other.exists_same usual member
  have address : same.address = register.address := congrArg Prod.fst layout
  have quantity : same.quantity = register.quantity := congrArg (·.2.1) layout
  rw [← address, ← quantity]
  exact job.modes_meter among

/-- The simulated meter answers each register in one mode for all time. -/
theorem plain_meter (usual : Usual table) (other : Usual calibrated) :
    (job.meter table).Plain calibrated where
  contents register member := by
    have address := List.mem_map_of_mem (f := Register.address) member
    change register.address ∈ calibrated.addresses at address
    rw [other.addresses_eq] at address
    have full : ∀ address ∈ [0x08, 0x06, 0x09, 0x0A],
        (Meter.reference.registers address).isSome = true := by decide +kernel
    rw [job.meter_eq]
    exact Option.isSome_iff_exists.mp (full _ address)
  modes register member := by
    rw [usual.modes_meter other member, SimulationJob.modeOf]
    split_ifs
    · exact .inr (.inl rfl)
    · exact .inr (.inr rfl)
    · exact .inl rfl

/-- Without a silent quantity every register answers. -/
theorem modes_meter_ne_silent (usual : Usual table) (other : Usual calibrated)
    (quiet : job.silent = none) :
    ∀ register ∈ calibrated.entries, (job.meter table).modes register.address ≠ .silent := by
  intro register member
  rw [usual.modes_meter other member, SimulationJob.modeOf, quiet]
  split_ifs with wrong never
  · decide
  · cases never
  · decide

end Usual

/-! ### The run -/

/-- Scales that can be used leave a poller that has done nothing yet over a calibrated table. -/
theorem exists_applyScales_new {σ : Type} (usual : Usual table) (line : σ) (options : Options)
    {overrides : List ScaleOverride}
    (usable : ∀ override ∈ overrides, override.scale.isFinite = true ∧ 0 < override.scale) :
    ∃ calibrated log, Usual calibrated ∧
      applyScales (.new line table options) overrides =
        .ok { Poller.new line calibrated options with log } := by
  obtain ⟨onward, applied⟩ :
      ∃ onward, applyScales (.new line table options) overrides = .ok onward :=
    exists_applyScales_iff.mpr fun override member =>
      ⟨usable override member, usual.polls override.quantity⟩
  have other : Usual onward.table := Usual.of_applyScales usual applied
  obtain ⟨log, same⟩ := exists_log_applyScales applied
  have last : Progress.start table = Progress.start onward.table := by
    unfold Progress.start
    rw [usual.length_eq, other.length_eq]
  refine ⟨onward.table, log, other, ?_⟩
  rw [applied]
  refine congrArg Except.ok (same.trans ?_)
  simp only [Poller.new, last]

/-- A poller over the simulated meter that has done nothing yet. -/
structure Ready (model : Meter) (options : Options) (poller : Poller Meter) : Prop where
  usual : Usual poller.table
  heard : poller.Heard poller.table model
  inStep : poller.InStep model
  cadence : poller.Cadence options.unlock.interval 0 0
  settings : poller.options = options.atLeastOne
  calm : poller.progress.awaiting = false
  unticked : poller.ticks = 0
  locked : poller.progress.counters.unlocks = 0

/-- A simulation begins with a meter and a poller at rest. -/
theorem ready_new (table : Table) {calibrated : Table} (other : Usual calibrated)
    (job : SimulationJob) {options : Options}
    (unlocks : options.unlock.register = Frame.unlockRegister) (log : List Event) :
    Ready (job.meter table) options
      { Poller.new (job.meter table) calibrated options with log } := by
  have model : job.meter table = _ := job.meter_eq
  have reads : Frame.unlockRegister ∉ calibrated.addresses := by
    rw [other.addresses_eq]
    decide
  have between : (job.meter table).inbox = [] := by rw [model]; rfl
  have prompt : (job.meter table).Prompt := by
    refine ⟨by rw [model]; rfl, ?_⟩
    rw [model]
    change Frame.replyLength ≤ Meter.reference.queue.capacity
    decide
  have unscripted : (job.meter table).script = [] := by rw [model]; rfl
  have empty : (job.meter table).queue.bytes = [] := by rw [model]; rfl
  have unasked : (job.meter table).requests = [] := by rw [model]; rfl
  exact {
    usual := other
    heard := (Poller.heard_new between prompt unscripted empty unlocks reads).logged log
    inStep := { (Poller.inStep_new unasked :
      (Poller.new (job.meter table) calibrated options).InStep _) with }
    cadence := { Poller.Cadence.new (job.meter table) calibrated options with }
    settings := rfl
    calm := rfl
    unticked := rfl
    locked := rfl }

/-- Polling starts without a fault, with an unlock frame if the policy says so. -/
theorem Ready.start {model : Meter} {options : Options} {poller : Poller Meter}
    (ready : Ready model options poller) :
    ∃ started, poller.start = (.ok (), started) ∧ started.table = poller.table ∧
      started.options = options.atLeastOne ∧ started.ticks = 0 ∧
      started.Heard poller.table model ∧ started.InStep model ∧
      started.Cadence options.unlock.interval (if options.unlock.onStartup then 1 else 0) 0 := by
  obtain ⟨log, sent, begun⟩ := ready.heard.legible.exists_start_eq
  have paced := ready.cadence.start
  have frames : (poller.started log sent).progress.counters.unlocks =
      if options.unlock.onStartup then 1 else 0 := by
    change poller.progress.counters.unlocks +
      (if poller.options.unlock.onStartup then 1 else 0) = _
    rw [ready.locked, ready.settings, Nat.zero_add]
    rfl
  rw [begun, frames] at paced
  exact ⟨poller.started log sent, begun, rfl, ready.settings, ready.unticked,
    ready.heard.started ready.calm log sent, ready.inStep.started log sent, paced⟩

/-- A simulation comes to an end without a fault, with everything heard that arrived. -/
theorem exists_runSimulation {config : Config} (valid : config.validate = .ok ())
    (unlocks : config.unlock.register = Frame.unlockRegister) {job : SimulationJob}
    (usable : ∀ override ∈ job.scales, override.scale.isFinite = true ∧ 0 < override.scale) :
    ∃ poller table, runSimulation config job = .ok poller ∧ Usual table ∧ Usual poller.table ∧
      poller.Heard poller.table (job.meter table) ∧
      poller.Cadence config.unlock.interval (if config.unlock.onStartup then 1 else 0)
        (turnsAmong config.scheduler.requestEvery job.ticks) ∧
      (job.silent = none → poller.InStep (job.meter table)) := by
  obtain ⟨⟨table, built⟩, positive⟩ := Config.exists_table_of_validate valid
  have usual := Usual.of_config built
  obtain ⟨calibrated, log, other, applied⟩ :=
    exists_applyScales_new usual (job.meter table) config.options usable
  have ready : Ready (job.meter table) config.options _ := ready_new table other job unlocks log
  generalize ({ Poller.new (job.meter table) calibrated config.options with log } : Poller Meter) =
    opening at applied ready
  obtain ⟨started, begun, sameTable, settings, unticked, heard, inStep, cadence⟩ := ready.start
  have every : started.options.requestEvery = config.scheduler.requestEvery := by
    rw [settings]
    exact Nat.max_eq_left positive
  obtain ⟨after, ended, heardAfter, cadenceAfter, inStepAfter⟩ :=
    heard.rounds (usual.plain_meter ready.usual) (by rw [every]; exact positive)
      (by rw [unticked, every, turnsAmong_zero positive]; exact cadence) job.ticks
  rw [unticked, every, Nat.zero_add] at cadenceAfter
  have polls := heardAfter.polls
  refine ⟨after, table, ?_, usual, ?_, ?_, cadenceAfter, ?_⟩
  · simp only [SimulationJob.meter] at applied
    simp only [runSimulation, built, Except.mapError, bind, Except.bind, applied, begun, ended]
  · rw [polls]
    exact ready.usual
  · rw [polls]
    exact heardAfter
  · intro quiet
    exact inStepAfter (usual.modes_meter_ne_silent ready.usual quiet) inStep

/-- The quantities that a meter was asked for, the first request first. -/
def askedFor (poller : Poller Meter) : List (Option Quantity) :=
  poller.line.requests.reverse.map fun address =>
    (poller.table.byAddress? address).map (·.quantity)

/-- A poller in step with the meter has asked for the quantities in rotation. -/
theorem askedFor_eq {poller : Poller Meter} {model : Meter} (inStep : poller.InStep model) :
    askedFor poller = (List.range poller.progress.counters.tx).map fun number =>
      some (poller.table.get number).quantity := by
  unfold askedFor
  rw [inStep.requests, List.map_map]
  apply List.map_congr_left
  intro number _
  simp only [Function.comp_apply, poller.table.byAddress?_get, Option.map_some]

/-- A quantity is corrupted exactly if the job names it so, even if it is also silent. -/
theorem SimulationJob.modeOf_eq_corrupt_iff (job : SimulationJob) (quantity : Quantity) :
    job.modeOf quantity = .corrupt ↔ some quantity = job.corrupt := by
  unfold modeOf
  split_ifs with wrong silent
  · exact iff_of_true rfl wrong.symm
  · exact iff_of_false nofun fun same => wrong same.symm
  · exact iff_of_false nofun fun same => wrong same.symm

/-- A quantity that the job names does not get a right answer. -/
theorem SimulationJob.modeOf_ne_respond (job : SimulationJob) {quantity : Quantity}
    (spoiled : job.silent = some quantity ∨ job.corrupt = some quantity) :
    job.modeOf quantity ≠ .respond := by
  unfold modeOf
  split_ifs with wrong silent
  · decide
  · decide
  · exact absurd spoiled (not_or.mpr ⟨silent, wrong⟩)

/-- The wrong replies are those to the requests for the register that answers wrongly. -/
theorem bad_eq_count {poller : Poller Meter} {job : SimulationJob} (usual : Usual table)
    (other : Usual poller.table) (inStep : poller.InStep (job.meter table))
    (calm : poller.progress.awaiting = false) :
    poller.progress.counters.bad = (askedFor poller).count job.corrupt := by
  have wrong := inStep.wrong
  simp only [calm, Bool.false_eq_true, false_and, if_false, Nat.add_zero] at wrong
  rw [wrong, askedFor_eq inStep, List.count_eq_countP, ← List.countP_reverse, inStep.requests,
    List.countP_map, List.countP_map]
  apply List.countP_congr
  intro number _
  have member : poller.table.get number ∈ poller.table.entries := List.get_mem ..
  simp only [Function.comp_apply, usual.modes_meter other member, decide_eq_true_eq, beq_iff_eq]
  exact job.modeOf_eq_corrupt_iff _

/-- **What a simulation comes to.** A simulation with a configuration that can work, with unlock
frames for the register by which the meter knows them, and with scales that can be used, comes to an
end without a fault. With a turn on every so many ticks, the first one first, an unlock frame takes
the place of every request that is due after `interval` others, and one more goes out at the start
if the policy says so. Nothing is thrown away, and the quantities of the registers that are silent
or answer wrongly stay at zero. If no register is silent, the quantities are asked for in turn,
every request is answered in its round, and the wrong answers are those of the register that answers
wrongly. -/
theorem runSimulation_totals {config : Config} (valid : config.validate = .ok ())
    (unlocks : config.unlock.register = Frame.unlockRegister) {job : SimulationJob}
    (usable : ∀ override ∈ job.scales, override.scale.isFinite = true ∧ 0 < override.scale) :
    ∃ poller, runSimulation config job = .ok poller ∧
      (Job.simulate job).plan config = .finished (.success (statusReport poller)) ∧
      let counters := poller.progress.counters
      let every := config.scheduler.requestEvery
      let interval := config.unlock.interval
      let turns := (job.ticks + every - 1) / every
      let unlockTurns := if interval = 0 then 0 else turns / (interval + 1)
      counters.tx = turns - unlockTurns ∧
      counters.unlocks = unlockTurns + (if config.unlock.onStartup then 1 else 0) ∧
      counters.discarded = 0 ∧
      (∀ quantity, job.silent = some quantity ∨ job.corrupt = some quantity →
        poller.readings.get quantity = 0) ∧
      (job.silent = none →
        askedFor poller = (List.range counters.tx).map (fun number =>
          [Quantity.voltage, .current, .frequency, .power][number % 4]?) ∧
        counters.misses = 0 ∧ counters.abandoned = 0 ∧
        counters.good + counters.bad = counters.tx ∧
        (job.corrupt = none → counters.bad = 0) ∧
        ∀ quantity, job.corrupt = some quantity →
          counters.bad = (askedFor poller).count (some quantity)) := by
  obtain ⟨poller, table, done, usual, other, heard, cadence, inStep⟩ :=
    exists_runSimulation valid unlocks usable
  have planned : (Job.simulate job).plan config = .finished (.success (statusReport poller)) := by
    simp only [Job.plan, done]
  refine ⟨poller, done, planned, Nat.eq_sub_of_add_eq cadence.requests, ?_, heard.tidy, ?_, ?_⟩
  · exact cadence.unlocks.trans (Nat.add_comm ..)
  · intro quantity spoiled
    obtain ⟨register, member, rfl⟩ := List.mem_map.mp (other.polls quantity)
    refine heard.unread register member ?_
    rw [usual.modes_meter other member]
    exact job.modeOf_ne_respond spoiled
  · intro quiet
    have inStep := inStep quiet
    have calm := heard.calm (usual.modes_meter_ne_silent other quiet)
    have tally := inStep.tally
    rw [calm, Bool.toNat_false, Nat.add_zero] at tally
    have counted := bad_eq_count usual other inStep calm
    refine ⟨?_, inStep.misses, inStep.abandoned, tally, ?_, ?_⟩
    · rw [askedFor_eq inStep]
      exact List.map_congr_left fun number _ => other.quantity_get number
    · intro right
      rw [counted, right, askedFor_eq inStep, List.count_eq_zero]
      simp
    · intro quantity wrong
      rw [counted, wrong]

/-- Nine rounds with a turn on every second tick, of which the fourth is for an unlock frame. -/
theorem runSimulation_totals_corrupt :
    let config : Config := { Config.standard with
      scheduler.requestEvery := 2
      unlock := ⟨true, 3, Frame.unlockRegister, 0x99⟩ }
    let job : SimulationJob := ⟨9, [⟨.power, 0.01⟩], none, some .current⟩
    config.validate = .ok () ∧ config.unlock.register = Frame.unlockRegister ∧
      (∀ override ∈ job.scales, override.scale.isFinite = true ∧ 0 < override.scale) ∧
      ∃ poller, runSimulation config job = .ok poller ∧
        askedFor poller = [some .voltage, some .current, some .frequency, some .power] ∧
        poller.progress.counters.unlocks = 2 ∧ poller.progress.counters.bad = 1 ∧
        poller.progress.counters.good = 3 ∧ poller.readings.current = 0 := by
  intro config job
  have valid : config.validate = .ok () := by
    have passes : config.validate.toBool = true := by
      simp only [config]
      decide +kernel
    cases outcome : config.validate with
    | ok done => rfl
    | error fault => rw [outcome] at passes; cases passes
  have usable : ∀ override ∈ job.scales, override.scale.isFinite = true ∧ 0 < override.scale := by
    simp only [job, List.mem_singleton, forall_eq]
    decide +kernel
  obtain ⟨poller, done, -, tx, unlocks, -, spoiled, loud⟩ :=
    runSimulation_totals valid rfl usable
  obtain ⟨asked, -, -, tally, -, wrong⟩ := loud rfl
  have four : poller.progress.counters.tx = 4 := by simpa [config, job] using tx
  have two : poller.progress.counters.unlocks = 2 := by simpa [config, job] using unlocks
  rw [four] at asked tally
  have bad : poller.progress.counters.bad = 1 := by
    rw [wrong .current rfl, asked]
    rfl
  rw [bad] at tally
  exact ⟨valid, rfl, usable, poller, done, asked, two, bad, Nat.add_right_cancel tally,
    spoiled .current (.inr rfl)⟩

end CommandLine

end MeterPoll
