import MeterPoll.Proofs.CommandLine.Overrides
import MeterPoll.Proofs.Poller.Pacing
import MeterPoll.Proofs.Reply.Damage
import MeterPoll.Proofs.Text.Case

/-!
# Configurations that can work

What a configuration has to meet is a list of demands (`Config.demands`). Validation looks at them
in order and gives the fault of the first one that is not met (`Config.validate_verdict`). A
configuration that meets them all is enough to poll with: its log and its table can be made, the
table is that of the reference device with the calibration of the configuration, and a poller takes
over the options as they are and never sends a frame with the write bit set
(`Config.validate_exact`).
-/

namespace MeterPoll

/-- A text has something in it exactly if it is not blank. -/
theorem Text.exists_not_isBlank_iff {s : String} :
    (∃ c ∈ s.toList, isBlank c = false) ↔ ¬ isBlankText s = true := by
  simp [isBlankText]

/-- The addresses that read are the lower half. -/
theorem Frame.writeBit_clear_iff {address : UInt8} :
    address < 0x80 ↔ ¬ address &&& 0x80 ≠ 0 := by
  have writes := @Register.hasWriteBit_eq_true_iff (.unsigned address .voltage 1.0)
  rw [Register.hasWriteBit, bne_iff_ne] at writes
  rw [← UInt8.not_le]
  exact not_congr writes.symm

/-- Options with at least one try and one tick are used as they are. -/
theorem Options.atLeastOne_eq {options : Options} (tries : 1 ≤ options.maxRetries)
    (ticks : 1 ≤ options.requestEvery) : options.atLeastOne = options := by
  unfold atLeastOne
  rw [max_eq_left tries, max_eq_left ticks]

namespace Table

variable {table calibrated : Table} {call : Adjustment}

/-- Calibrating a table does not change what it polls. -/
theorem polls_iff_of_calibrate (done : table.calibrate call = .ok calibrated)
    (quantity : Quantity) : calibrated.Polls quantity ↔ table.Polls quantity := by
  have layout := table.layout_recalibrate call
  rw [recalibrate_of_ok done] at layout
  exact polls_iff_of_layout layout quantity

/-- The reference device has a register for every quantity. -/
theorem polls_reference (quantity : Quantity) : reference.Polls quantity := by
  unfold Polls
  cases quantity <;> decide

end Table

namespace Config

/-- Something that a configuration has to meet, and the fault of one that does not. -/
structure Demand where
  met : Prop
  fault : Fault

namespace Demand

/-- A demand on the settings that are not calibration. -/
def setting (met : Prop) (cause : ConfigFault) : Demand :=
  ⟨met, .configuration cause⟩

/-- What comes of looking at demands in order, up to the first that is not met. -/
inductive Verdict : List Demand → Except Fault Unit → Prop where
  | passed : Verdict [] (.ok ())
  | unmet (demand : Demand) (rest : List Demand) (fails : ¬ demand.met) :
      Verdict (demand :: rest) (.error demand.fault)
  | met (demand : Demand) {rest : List Demand} {result : Except Fault Unit}
      (holds : demand.met) (others : Verdict rest result) : Verdict (demand :: rest) result

/-- The fault is that of the first demand that is not met. -/
def FirstUnmet (demands : List Demand) (fault : Fault) : Prop :=
  ∃ before demand after, demands = before ++ demand :: after ∧
    (∀ earlier ∈ before, earlier.met) ∧ ¬ demand.met ∧ fault = demand.fault

variable {demand : Demand} {demands rest : List Demand} {result : Except Fault Unit}

/-- The first unmet demand of a list is the head, or it comes behind a head that is met. -/
theorem firstUnmet_cons_iff {fault : Fault} : FirstUnmet (demand :: rest) fault ↔
    ¬ demand.met ∧ fault = demand.fault ∨ demand.met ∧ FirstUnmet rest fault := by
  constructor
  · rintro ⟨before, other, after, split, earlier, fails, rfl⟩
    cases before with
    | nil =>
        cases split
        exact .inl ⟨fails, rfl⟩
    | cons first before =>
        cases split
        obtain ⟨holds, earlier⟩ := List.forall_mem_cons.mp earlier
        exact .inr ⟨holds, before, other, after, rfl, earlier, fails, rfl⟩
  · rintro (⟨fails, rfl⟩ | ⟨holds, before, other, after, rfl, earlier, fails, rfl⟩)
    · exact ⟨[], demand, rest, rfl, nofun, fails, rfl⟩
    · exact ⟨demand :: before, other, after, rfl, List.forall_mem_cons.mpr ⟨holds, earlier⟩,
        fails, rfl⟩

namespace Verdict

/-- A verdict is favourable exactly if every demand is met. -/
theorem ok_iff (verdict : Verdict demands result) :
    result = .ok () ↔ ∀ demand ∈ demands, demand.met := by
  induction verdict with
  | passed => exact iff_of_true rfl nofun
  | unmet demand rest fails =>
      exact iff_of_false nofun fun all => fails (all demand List.mem_cons_self)
  | met demand holds others ih => rw [ih, List.forall_mem_cons, and_iff_right holds]

/-- A verdict is a fault exactly if it is that of the first unmet demand. -/
theorem error_iff (verdict : Verdict demands result) {fault : Fault} :
    result = .error fault ↔ FirstUnmet demands fault := by
  induction verdict with
  | passed =>
      refine iff_of_false nofun ?_
      rintro ⟨before, _, _, split, -⟩
      cases before <;> cases split
  | unmet demand rest fails =>
      rw [firstUnmet_cons_iff, Except.error.injEq]
      simp [fails, eq_comm]
  | met demand holds others ih =>
      rw [firstUnmet_cons_iff, ih]
      simp [holds]

/-- A check that is made before others. -/
theorem ite {fails : Prop} [Decidable fails] {met : Prop} {cause : ConfigFault}
    {others : Option ConfigFault} {last : Except Fault Unit} (reads : met ↔ ¬ fails)
    (verdict : Verdict rest (others.elim last fun cause => .error (.configuration cause))) :
    Verdict (setting met cause :: rest)
      ((if fails then some cause else others).elim last fun cause =>
        .error (.configuration cause)) := by
  split_ifs with failed
  · exact .unmet (setting met cause) rest fun holds => reads.mp holds failed
  · exact .met (setting met cause) (reads.mpr failed) verdict

end Verdict

end Demand

/-- What has to hold of the scale of a quantity. -/
def scaleDemand (channels : Channels) (quantity : Quantity) : Demand where
  met := (channels.get quantity).scale.isFinite = true ∧ 0 < (channels.get quantity).scale
  fault := .scale quantity.name (channels.get quantity).scale

/-- What a configuration has to meet, in the order in which it is looked at. -/
def demands (config : Config) : List Demand :=
  let level := config.application.logLevel
  let serial := config.serial
  let scheduler := config.scheduler
  let fast := scheduler.fastTick
  let slow := scheduler.slowTick
  [.setting (∃ name : LogLevel, Text.Caseless level name.name) (.unknownLogLevel level),
    .setting (∃ c ∈ serial.port.toList, Text.isBlank c = false) .blankPort,
    .setting (0 < serial.baudRate) .zeroBaudRate,
    .setting (4 ≤ serial.capacity) (.queueTooSmall serial.capacity),
    .setting (1 ≤ scheduler.maxRetries) .zeroRetries,
    .setting (1 ≤ scheduler.requestEvery) .zeroRequestTicks,
    .setting (0 < fast.nanoseconds ∧ 0 < slow.nanoseconds) .zeroPeriod,
    .setting (fast.nanoseconds ≤ slow.nanoseconds) (.fastLongerThanSlow fast slow),
    .setting (config.unlock.register < 0x80) (.unlockWriteBit config.unlock.register)] ++
  Quantity.all.map (scaleDemand config.channels)

/-! ### The calibrated table -/

/-- The register with the calibration of its quantity. -/
def calibrated (channels : Channels) (register : Register) : Register :=
  { register with
    scale := (channels.get register.quantity).scale
    conversion := (channels.get register.quantity).conversion }

/-- Calibrating a quantity that is polled fails for its scale only, and otherwise leads to the table
with the entry of that quantity calibrated. -/
theorem calibrate_cons (channels : Channels) {quantity : Quantity} (rest : List Quantity)
    {table : Table} (polled : table.Polls quantity) :
    ¬ (scaleDemand channels quantity).met ∧
        calibrate channels (quantity :: rest) table =
          .error (scaleDemand channels quantity).fault ∨
      (scaleDemand channels quantity).met ∧ ∃ onward : Table,
        calibrate channels (quantity :: rest) table = calibrate channels rest onward ∧
          (∀ other, onward.Polls other ↔ table.Polls other) ∧
          onward.entries = table.entries.map fun register =>
            if register.quantity = quantity then calibrated channels register else register := by
  let conversion : Adjustment := .conversion quantity (channels.get quantity).conversion
  let scale : Adjustment := .scale quantity (channels.get quantity).scale
  obtain ⟨middle, converted⟩ := (table.answers conversion).succeeds_iff.mpr ⟨trivial, polled⟩
  have middlePolls := Table.polls_iff_of_calibrate converted
  have middleEntries := ((table.answers conversion).done middle converted).2
  have goesOn : calibrate channels (quantity :: rest) table =
      (middle.calibrate scale).bind (calibrate channels rest) := by
    change (table.calibrate conversion).bind _ = _
    rw [converted]
    rfl
  rw [goesOn]
  by_cases usable : (scaleDemand channels quantity).met
  · obtain ⟨onward, scaled⟩ :=
      (middle.answers scale).succeeds_iff.mpr ⟨usable, (middlePolls quantity).mpr polled⟩
    have polls (other : Quantity) : onward.Polls other ↔ table.Polls other :=
      (Table.polls_iff_of_calibrate scaled other).trans (middlePolls other)
    refine .inr ⟨usable, onward, by rw [scaled]; rfl, polls, ?_⟩
    rw [((middle.answers scale).done onward scaled).2, middleEntries, List.map_map]
    refine List.map_congr_left fun register _ => ?_
    by_cases same : register.quantity = quantity
    · subst same
      simp [conversion, scale, Adjustment.quantity, Adjustment.edit, calibrated]
    · simp [conversion, scale, Adjustment.quantity, same]
  · refine .inl ⟨usable, ?_⟩
    have refused : middle.calibrate scale = .error (scaleDemand channels quantity).fault :=
      dif_neg (mt (usableScale_eq_true_iff _).mp usable)
    rw [refused]
    rfl

/-- Calibrating a table demands a usable scale of each quantity in turn. -/
theorem verdict_calibrate (channels : Channels) (quantities : List Quantity) {table : Table}
    (polled : ∀ quantity ∈ quantities, table.Polls quantity) :
    Demand.Verdict (quantities.map (scaleDemand channels))
      ((calibrate channels quantities table).map fun _ => ()) := by
  induction quantities generalizing table with
  | nil => exact .passed
  | cons quantity rest ih =>
      obtain ⟨first, others⟩ := List.forall_mem_cons.mp polled
      rcases calibrate_cons channels rest first with
        ⟨useless, refused⟩ | ⟨usable, onward, goesOn, polls, -⟩
      · rw [refused]
        exact .unmet _ _ useless
      · rw [goesOn]
        exact .met _ usable (ih fun other member => (polls other).mpr (others other member))

/-- With usable scales the entries of all quantities of the list are calibrated. -/
theorem exists_calibrate (channels : Channels) (quantities : List Quantity) {table : Table}
    (polled : ∀ quantity ∈ quantities, table.Polls quantity)
    (usable : ∀ quantity ∈ quantities, (scaleDemand channels quantity).met) :
    ∃ onward, calibrate channels quantities table = .ok onward ∧
      onward.entries = table.entries.map fun register =>
        if register.quantity ∈ quantities then calibrated channels register else register := by
  induction quantities generalizing table with
  | nil => exact ⟨table, rfl, by simp⟩
  | cons quantity rest ih =>
      obtain ⟨first, others⟩ := List.forall_mem_cons.mp polled
      rcases calibrate_cons channels rest first with
        ⟨useless, -⟩ | ⟨-, middle, goesOn, polls, entries⟩
      · exact absurd (usable quantity List.mem_cons_self) useless
      · obtain ⟨onward, done, onwardEntries⟩ :=
          ih (fun other member => (polls other).mpr (others other member))
            (List.forall_mem_cons.mp usable).2
        refine ⟨onward, goesOn.trans done, ?_⟩
        rw [onwardEntries, entries, List.map_map]
        refine List.map_congr_left fun register _ => ?_
        by_cases same : register.quantity = quantity <;>
          by_cases later : register.quantity ∈ rest <;>
          simp_all [calibrated]

/-- A validation looks at the log level, then at the settings, then at the scales. -/
theorem validate_eq (config : Config) : config.validate =
    (LogLevel.ofText config.application.logLevel).bind fun _ =>
      config.fault?.elim (config.table.map fun _ => ()) fun cause =>
        .error (.configuration cause) := by
  unfold validate
  cases LogLevel.ofText config.application.logLevel with
  | error fault => rfl
  | ok level => cases config.fault? <;> rfl

/-- Validation looks at the demands in order. -/
theorem validate_verdict (config : Config) : Demand.Verdict config.demands config.validate := by
  have scales : Demand.Verdict (Quantity.all.map (scaleDemand config.channels))
      (config.table.map fun _ => ()) :=
    verdict_calibrate config.channels Quantity.all fun quantity _ => Table.polls_reference quantity
  rw [validate_eq]
  by_cases named : ∃ level : LogLevel, Text.Caseless config.application.logLevel level.name
  · obtain ⟨level, same⟩ := named
    rw [LogLevel.ofText_eq_ok_iff.mpr same]
    refine .met _ ⟨level, same⟩ ?_
    change Demand.Verdict _ (config.fault?.elim _ _)
    unfold fault?
    -- One demand for each check of the settings; the scales are looked at last.
    exact .ite Text.exists_not_isBlank_iff (.ite Nat.pos_iff_ne_zero (.ite Nat.not_lt.symm
      (.ite Nat.pos_iff_ne_zero (.ite Nat.pos_iff_ne_zero (.ite (by omega) (.ite Nat.not_lt.symm
        (.ite Frame.writeBit_clear_iff scales)))))))
  · rw [LogLevel.ofText_of_nameless named]
    exact .unmet _ _ named

/-! ### Enough to poll with -/

/-- A named level gives the options of the log. -/
theorem logOptions_of_caseless {config : Config} {level : LogLevel}
    (same : Text.Caseless config.application.logLevel level.name) :
    config.logOptions =
      .ok { LogOptions.atLevel level with format := config.application.logFormat } := by
  unfold logOptions
  rw [LogLevel.ofText_eq_ok_iff.mpr same]
  rfl

/-- Usable scales make a table of the reference registers with the configured calibration. -/
theorem exists_table {config : Config}
    (usable : ∀ quantity, (scaleDemand config.channels quantity).met) :
    ∃ table, config.table = .ok table ∧
      table.entries = Table.reference.entries.map (calibrated config.channels) := by
  obtain ⟨table, built, entries⟩ := exists_calibrate config.channels Quantity.all
    (fun quantity _ => Table.polls_reference quantity) fun quantity _ => usable quantity
  refine ⟨table, built, entries.trans (List.map_congr_left fun register _ => ?_)⟩
  exact if_pos register.quantity.mem_all

end Config

/-- The second byte of a frame, which names a register, has the write bit clear. -/
def Sending.WriteBitClear (sending : Sending) : Prop :=
  ∃ second rest, sending.frame = Frame.head :: second :: rest ∧ second < 0x80

namespace Poller

variable {σ ε : Type}

/-- A new poller has sent nothing yet. -/
theorem paced_new (line : σ) (table : Table) (options : Options) :
    (new (Watched.watch line) table options).Paced options.unlock where
  settings := rfl
  counted := rfl
  bounded _ := Nat.zero_le _
  kinds := nofun

/-- If the register of the unlock frame reads, so do the registers of all frames. -/
theorem Paced.writeBitClear {policy : UnlockPolicy} {poller : Poller (Watched σ)}
    (paced : poller.Paced policy) (clear : policy.register < 0x80) :
    ∀ sending ∈ poller.line.sendings, sending.WriteBitClear := by
  intro sending given
  rcases paced.kinds sending given with unlock | ⟨address, request⟩
  · exact ⟨policy.register, _, unlock, clear⟩
  · refine ⟨Frame.readAddress address, [], request, UInt8.lt_iff_toNat_lt.mpr ?_⟩
    rw [Frame.toNat_readAddress]
    exact Nat.mod_lt _ (by decide)

end Poller

namespace Config

/-- **Validation is exact and enough.** A configuration is accepted exactly if it meets all demands,
and otherwise refused with the fault of the first that it does not meet. One that is accepted has a
log and a table, which is that of the reference device with the calibration of the configuration,
and a poller takes over its options as they are. Nothing that such a poller goes through makes it
send a frame with the write bit set. -/
theorem validate_exact (config : Config) :
    (config.validate = .ok () ↔ ∀ demand ∈ config.demands, demand.met) ∧
    (∀ fault, config.validate = .error fault ↔ Demand.FirstUnmet config.demands fault) ∧
    (config.validate = .ok () →
      (∃ level : LogLevel, Text.Caseless config.application.logLevel level.name ∧
        config.logOptions =
          .ok { LogOptions.atLevel level with format := config.application.logFormat }) ∧
      ∃ table, config.table = .ok table ∧
        table.entries = Table.reference.entries.map (calibrated config.channels) ∧
        ∀ {σ ε : Type} [Line σ] (handle : ε → σ → Served σ Unit) (line : σ)
          (moves : List (Move ε)),
          let plain := Poller.new line table config.options
          let watched := Poller.new (Watched.watch line) table config.options
          plain.options = config.options ∧
            (watched.run (Watched.handle handle) moves).Mirrors Watched.line 0
              (plain.run handle moves) ∧
            ∀ sending ∈ (watched.run (Watched.handle handle) moves).line.sendings,
              sending.WriteBitClear) := by
  have verdict := config.validate_verdict
  refine ⟨verdict.ok_iff, fun fault => verdict.error_iff, fun valid => ?_⟩
  have meets := verdict.ok_iff.mp valid
  simp only [demands, List.cons_append, List.nil_append, List.forall_mem_cons,
    Demand.setting] at meets
  obtain ⟨⟨level, named⟩, -, -, -, tries, ticks, -, -, clear, scales⟩ := meets
  obtain ⟨table, built, entries⟩ := exists_table fun quantity =>
    scales _ (List.mem_map_of_mem quantity.mem_all)
  refine ⟨⟨level, named, logOptions_of_caseless named⟩, table, built, entries, ?_⟩
  intro σ ε _ handle line moves plain watched
  refine ⟨Options.atLeastOne_eq tries ticks, ?_, ?_⟩
  · exact Poller.Mirrors.run Watched.view (fun _ _ => ⟨rfl, rfl⟩) ⟨[], rfl⟩ moves
  · have paced := (Poller.preserved_paced handle config.options.unlock).run
      (Poller.paced_new line table config.options) moves
    exact paced.writeBitClear clear

/-- The configuration of the reference device can work. -/
example : standard.validate.isOk = true := by
  decide +kernel

end Config

end MeterPoll
