import MeterPoll.Proofs.Poller.Provenance
import MeterPoll.Proofs.Table.Acceptance

/-!
# The upkeep of tables

A calibration gives one quantity another scale or another conversion. It is refused if the scale is
not a finite float above zero or the table does not poll the quantity, and otherwise changes that
one field of the entry of that quantity (`Table.calibrateEffect`). So a table stays well-formed and
in its layout through any sequence of calibrations, whether or not they are refused
(`Table.upkeep_recalibrateAll`), and a poller's table is what the calibrations among its moves make
of it (`Poller.table_run_eq_recalibrateAll`).
-/

namespace MeterPoll

/-- A call that gives a quantity another scale or another conversion. -/
inductive Adjustment where
  | scale (quantity : Quantity) (scale : Float)
  | conversion (quantity : Quantity) (conversion : Conversion)

namespace Adjustment

def quantity : Adjustment → Quantity
  | .scale quantity _ | .conversion quantity _ => quantity

/-- A scale has to be a finite float above zero. -/
def Usable : Adjustment → Prop
  | .scale _ value => value.isFinite = true ∧ 0 < value
  | .conversion .. => True

/-- The register with the field that the call is about replaced. -/
def edit (call : Adjustment) (register : Register) : Register :=
  match call with
  | .scale _ value => { register with scale := value }
  | .conversion _ rule => { register with conversion := rule }

end Adjustment

/-- What no calibration touches of a register. -/
def Register.layout (register : Register) : UInt8 × Quantity × String × Bool :=
  (register.address, register.quantity, register.name, register.signed)

/-- A call edits nothing of the layout, the name of the register included. -/
theorem Adjustment.layout_edit (call : Adjustment) (register : Register) :
    (call.edit register).layout = register.layout := by
  cases call <;> rfl

namespace Table

def calibrate (table : Table) : Adjustment → Except Fault Table
  | .scale quantity scale => table.setScale quantity scale
  | .conversion quantity conversion => table.setConversion quantity conversion

/-- The table after a call, which leaves it as it is if it is refused. -/
def recalibrate (table : Table) (call : Adjustment) : Table :=
  (table.calibrate call).toOption.getD table

/-- The table after several calls, the first of the list first. -/
def recalibrateAll (table : Table) (calls : List Adjustment) : Table :=
  calls.foldl recalibrate table

/-- Some entry of the table is for the quantity. -/
def Polls (table : Table) (quantity : Quantity) : Prop :=
  quantity ∈ table.entries.map (·.quantity)

variable {original table : Table}

/-- A lookup succeeds exactly for the quantities that are polled. -/
theorem isSome_byQuantity?_iff {quantity : Quantity} :
    (table.byQuantity? quantity).isSome = true ↔ table.Polls quantity := by
  unfold byQuantity? Polls
  rw [List.find?_isSome, List.mem_map]
  simp only [decide_eq_true_eq]

/-! ### One calibration -/

/-- What calibrating a table can come to. -/
inductive CalibrateEffect (table : Table) (call : Adjustment) : Except Fault Table → Prop where
  | done (calibrated : Table) (usable : call.Usable) (polled : table.Polls call.quantity)
      (entries : calibrated.entries = table.entries.map fun register =>
        if register.quantity = call.quantity then call.edit register else register) :
      CalibrateEffect table call (.ok calibrated)
  | refused (fault : Fault) (unfit : ¬ (call.Usable ∧ table.Polls call.quantity)) :
      CalibrateEffect table call (.error fault)

/-- Every call is refused for one of its reasons or edits one entry. -/
theorem calibrateEffect (table : Table) (call : Adjustment) :
    CalibrateEffect table call (table.calibrate call) := by
  cases call with
  | scale quantity scale =>
      rw [calibrate, setScale]
      split_ifs with usable polled
      · exact .done _ ((usableScale_eq_true_iff scale).mp usable)
          (isSome_byQuantity?_iff.mp polled) (table.entries_adjust ..)
      · exact .refused _ fun fit => polled (isSome_byQuantity?_iff.mpr fit.2)
      · exact .refused _ fun fit => usable ((usableScale_eq_true_iff scale).mpr fit.1)
  | conversion quantity conversion =>
      rw [calibrate, setConversion]
      split_ifs with polled
      · exact .done _ trivial (isSome_byQuantity?_iff.mp polled) (table.entries_adjust ..)
      · exact .refused _ fun fit => polled (isSome_byQuantity?_iff.mpr fit.2)

/-- A call that succeeds gives the new table. -/
theorem recalibrate_of_ok {call : Adjustment} {calibrated : Table}
    (done : table.calibrate call = .ok calibrated) : table.recalibrate call = calibrated := by
  rw [recalibrate, done]
  rfl

/-- A call that is refused changes nothing. -/
theorem recalibrate_of_error {call : Adjustment} {fault : Fault}
    (refused : table.calibrate call = .error fault) : table.recalibrate call = table := by
  rw [recalibrate, refused]
  rfl

/-- A call is a success exactly if its scale is usable and the table polls its quantity. It then
changes its field of the entry of its quantity, and otherwise nothing. -/
structure Answers (table : Table) (call : Adjustment) : Prop where
  succeeds_iff : (∃ calibrated, table.calibrate call = .ok calibrated) ↔
    call.Usable ∧ table.Polls call.quantity
  refused : ∀ fault, table.calibrate call = .error fault → table.recalibrate call = table
  done : ∀ calibrated, table.calibrate call = .ok calibrated →
    table.recalibrate call = calibrated ∧
      calibrated.entries = table.entries.map fun register =>
        if register.quantity = call.quantity then call.edit register else register

/-- Whether a call succeeds and what it changes. -/
theorem answers (table : Table) (call : Adjustment) : table.Answers call := by
  refine ⟨?_, fun _ => recalibrate_of_error, fun _ done => ⟨recalibrate_of_ok done, ?_⟩⟩
  · have effect := table.calibrateEffect call
    generalize table.calibrate call = result at effect ⊢
    cases effect with
    | done calibrated usable polled => exact iff_of_true ⟨calibrated, rfl⟩ ⟨usable, polled⟩
    | refused fault unfit => exact iff_of_false (by rintro ⟨_, done⟩; cases done) unfit
  · have effect := table.calibrateEffect call
    rw [done] at effect
    cases effect with
    | done _ _ _ entries => exact entries

/-! ### Many calibrations -/

/-- A call keeps the layout of the table. -/
theorem layout_recalibrate (table : Table) (call : Adjustment) :
    (table.recalibrate call).entries.map Register.layout =
      table.entries.map Register.layout := by
  cases outcome : table.calibrate call with
  | error fault => rw [recalibrate_of_error outcome]
  | ok calibrated =>
      rw [recalibrate_of_ok outcome, ((table.answers call).done calibrated outcome).2,
        List.map_map]
      apply List.map_congr_left
      intro register _
      simp only [Function.comp_apply]
      split_ifs
      · exact call.layout_edit register
      · rfl

/-- Many calls keep the layout of the table. -/
theorem layout_recalibrateAll (table : Table) (calls : List Adjustment) :
    (table.recalibrateAll calls).entries.map Register.layout =
      table.entries.map Register.layout := by
  induction calls generalizing table with
  | nil => rfl
  | cons call rest ih => exact (ih _).trans (table.layout_recalibrate call)

/-- Tables with the same layout poll the same quantities. -/
theorem polls_iff_of_layout
    (same : table.entries.map Register.layout = original.entries.map Register.layout)
    (quantity : Quantity) : table.Polls quantity ↔ original.Polls quantity := by
  have quantities := congrArg (List.map fun layout => layout.2.1) same
  rw [List.map_map, List.map_map] at quantities
  exact iff_of_eq (congrArg (quantity ∈ ·) quantities)

/-- The position after the last one is the first one again. -/
theorem get_add_length (table : Table) (index : Nat) :
    table.get (index + table.length) = table.get index := by
  simp only [get, Nat.add_mod_right]

/-- What is left of a table by calibrating it. -/
structure Upkeep (original table : Table) : Prop where
  /-- Its entries are accepted again. -/
  accepted : ofEntries table.entries = .ok table
  layout : table.entries.map Register.layout = original.entries.map Register.layout
  around : ∀ index, table.get (index + table.length) = table.get index
  byAddress : ∀ index, table.byAddress? (table.get index).address = some (table.get index)
  byQuantity : ∀ index, table.byQuantity? (table.get index).quantity = some (table.get index)

/-- A table is still a table after any sequence of calls. -/
theorem upkeep_recalibrateAll (original : Table) (calls : List Adjustment) :
    original.Upkeep (original.recalibrateAll calls) where
  accepted := ofEntries_entries _
  layout := original.layout_recalibrateAll calls
  around := get_add_length _
  byAddress := byAddress?_get _
  byQuantity := byQuantity?_get _

end Table

/-! ### The calibrations of a run -/

/-- The calibration that a move is, if it is one. -/
def Move.adjustment? {ε : Type} : Move ε → Option Adjustment
  | .setScale quantity scale => some (.scale quantity scale)
  | .setConversion quantity conversion => some (.conversion quantity conversion)
  | .start | .slowTick | .fastTick | .line _ => none

/-- A move calibrates the table if it is a calibration, and otherwise leaves it. -/
theorem Table.after_eq_recalibrateAll {ε : Type} (table : Table) (move : Move ε) :
    table.after move = table.recalibrateAll move.adjustment?.toList := by
  cases move <;> rfl

/-- Many moves do what the calibrations among them do. -/
theorem Table.afterAll_eq_recalibrateAll {ε : Type} (table : Table) (moves : List (Move ε)) :
    table.afterAll moves = table.recalibrateAll (moves.filterMap Move.adjustment?) := by
  induction moves generalizing table with
  | nil => rfl
  | cons move rest ih =>
      calc table.afterAll (move :: rest)
        _ = (table.after move).afterAll rest := rfl
        _ = (table.recalibrateAll move.adjustment?.toList).recalibrateAll
              (rest.filterMap Move.adjustment?) := by rw [ih, after_eq_recalibrateAll]
        _ = _ := by
          rw [List.filterMap_cons]
          cases move.adjustment? <;> rfl

namespace Poller

variable {σ ε : Type}

/-- A run calibrates the table of the poller by the calibrations among its moves. -/
theorem table_run_eq_recalibrateAll [Line σ] (handle : ε → σ → Served σ Unit) (poller : Poller σ)
    (moves : List (Move ε)) :
    (poller.run handle moves).table =
      poller.table.recalibrateAll (moves.filterMap Move.adjustment?) :=
  (poller.table_run handle moves).trans (poller.table.afterAll_eq_recalibrateAll moves)

/-- A calibration that is refused changes nothing about the poller. -/
theorem setScale_of_error {poller : Poller σ} {quantity : Quantity} {scale : Float} {fault : Fault}
    (refused : (poller.setScale quantity scale).1 = .error fault) :
    (poller.setScale quantity scale).2 = poller := by
  unfold setScale at refused ⊢
  cases outcome : poller.table.setScale quantity scale with
  | ok table => rw [outcome] at refused; cases refused
  | error other => rfl

theorem setConversion_of_error {poller : Poller σ} {quantity : Quantity} {conversion : Conversion}
    {fault : Fault} (refused : (poller.setConversion quantity conversion).1 = .error fault) :
    (poller.setConversion quantity conversion).2 = poller := by
  unfold setConversion at refused ⊢
  cases outcome : poller.table.setConversion quantity conversion with
  | ok table => rw [outcome] at refused; cases refused
  | error other => rfl

end Poller

end MeterPoll
