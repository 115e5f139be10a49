import MeterPoll.Proofs.Poller.Effects
import MeterPoll.Proofs.Table.Calibration

/-!
# Runs of a poller

A run is a list of moves: the operations of the poller in any order, and events at the far end of
its line, which may do anything to the line. Calibration keeps the addresses in the rotation
(`Poller.CalibrationEffect`). A predicate that every move keeps holds at the end of every run
(`Poller.Preserved.run`).
-/

namespace MeterPoll

/-- Something that happens to a poller: one of its operations, or an event on the line. -/
inductive Move (ε : Type) where
  | start
  | slowTick
  | fastTick
  | setScale (quantity : Quantity) (scale : Float)
  | setConversion (quantity : Quantity) (conversion : Conversion)
  | line (event : ε)

namespace Poller

variable {σ ε : Type}

/-- What calibrating a quantity can do: nothing, or another table with the same addresses. -/
inductive CalibrationEffect (poller : Poller σ) : Except Fault Unit × Poller σ → Prop where
  | calibrated (table : Table) (log : List Event)
      (same : table.addresses = poller.table.addresses) :
      CalibrationEffect poller (.ok (), { poller with table, log })
  | refused (fault : Fault) : CalibrationEffect poller (.error fault, poller)

/-- Calibrating a scale does one of these. -/
theorem setScale_effect (poller : Poller σ) (quantity : Quantity) (scale : Float) :
    CalibrationEffect poller (poller.setScale quantity scale) := by
  unfold setScale
  cases calibrates : poller.table.setScale quantity scale with
  | error fault => exact .refused fault
  | ok table => exact .calibrated table _ (Table.addresses_setScale calibrates)

theorem setConversion_effect (poller : Poller σ) (quantity : Quantity)
    (conversion : Conversion) :
    CalibrationEffect poller (poller.setConversion quantity conversion) := by
  unfold setConversion
  cases calibrates : poller.table.setConversion quantity conversion with
  | error fault => exact .refused fault
  | ok table => exact .calibrated table _ (Table.addresses_setConversion calibrates)

variable [Line σ] (handle : ε → σ → Served σ Unit)

/-- The poller after a move. What an event does to the line is said by `handle`. -/
def perform (poller : Poller σ) : Move ε → Poller σ
  | .start => poller.start.2
  | .slowTick => poller.slowTick.2
  | .fastTick => poller.fastTick.2
  | .setScale quantity scale => (poller.setScale quantity scale).2
  | .setConversion quantity conversion => (poller.setConversion quantity conversion).2
  | .line event => poller.goOn (handle event poller.line)

/-- The poller after several moves, the first of the list first. -/
def run (poller : Poller σ) : List (Move ε) → Poller σ
  | [] => poller
  | move :: rest => (poller.perform handle move).run rest

/-- A run may be cut in two. -/
theorem run_append (poller : Poller σ) (first second : List (Move ε)) :
    poller.run handle (first ++ second) = (poller.run handle first).run handle second := by
  induction first generalizing poller with
  | nil => rfl
  | cons move rest ih => exact ih _

/-- A predicate that everything but a tick that is acted on keeps. -/
structure Lasting (predicate : Poller σ → Prop) : Prop where
  collected : ∀ poller, predicate poller → predicate poller.collect.2
  counted : ∀ poller ticks, predicate poller → predicate { poller with ticks }
  started : ∀ poller, predicate poller → predicate poller.start.2
  calibrated : ∀ poller table log, predicate poller →
    table.addresses = poller.table.addresses → predicate { poller with table, log }
  handled : ∀ poller event, predicate poller →
    predicate (poller.goOn (handle event poller.line))

/-- A predicate that the operations of a poller and the events on its line keep. -/
structure Preserved (predicate : Poller σ → Prop) : Prop extends Lasting handle predicate where
  acted : ∀ poller, predicate poller → predicate poller.act.2

variable {handle} {predicate : Poller σ → Prop} {poller : Poller σ}

namespace Lasting

/-- A lasting predicate survives the look at the beginning of a tick. -/
theorem looked (lasting : Lasting handle predicate) (holds : predicate poller) :
    predicate poller.looked :=
  lasting.counted _ _ (lasting.collected poller holds)

theorem calibrate (lasting : Lasting handle predicate) (holds : predicate poller)
    {result : Except Fault Unit × Poller σ} (effect : poller.CalibrationEffect result) :
    predicate result.2 := by
  cases effect with
  | calibrated table log same => exact lasting.calibrated poller table log holds same
  | refused => exact holds

/-- What holds of ticks holds of all moves. -/
theorem perform (lasting : Lasting handle predicate) (holds : predicate poller) (move : Move ε)
    (ticked : move = .slowTick → predicate poller.slowTick.2) :
    predicate (poller.perform handle move) := by
  cases move with
  | start => exact lasting.started poller holds
  | slowTick => exact ticked rfl
  | fastTick => exact lasting.collected poller holds
  | setScale quantity scale =>
      exact lasting.calibrate holds (poller.setScale_effect quantity scale)
  | setConversion quantity conversion =>
      exact lasting.calibrate holds (poller.setConversion_effect quantity conversion)
  | line event => exact lasting.handled poller event holds

end Lasting

namespace Preserved

/-- A preserved predicate survives a tick, whether the tick is acted on or not. -/
theorem slowTick (preserved : Preserved handle predicate) (holds : predicate poller) :
    predicate poller.slowTick.2 := by
  have looked := preserved.looked holds
  rw [slowTick_eq]
  split_ifs
  · exact preserved.acted _ looked
  · exact looked

theorem perform (preserved : Preserved handle predicate) (holds : predicate poller)
    (move : Move ε) : predicate (poller.perform handle move) :=
  preserved.toLasting.perform holds move fun _ => preserved.slowTick holds

/-- What holds at the start holds at the end of every run. -/
theorem run (preserved : Preserved handle predicate) (holds : predicate poller)
    (moves : List (Move ε)) : predicate (poller.run handle moves) := by
  induction moves generalizing poller with
  | nil => exact holds
  | cons move rest ih => exact ih (preserved.perform holds move)

end Preserved

/-- Starting keeps the options. -/
theorem options_start (poller : Poller σ) : poller.start.2.options = poller.options := by
  have effect := poller.startEffect
  generalize poller.start = result at effect ⊢
  cases effect with
  | plain => rfl
  | unlocking before after result asked effect => cases effect <;> rfl

/-- The options stay as they are on every run. -/
theorem options_run (poller : Poller σ) (moves : List (Move ε)) :
    (poller.run handle moves).options = poller.options := by
  have preserved : Preserved handle fun after => after.options = poller.options :=
    { collected := fun after same => after.steady_collect.options.trans same
      counted := fun _ _ same => same
      acted := fun after same => after.ticks_options_act.2.trans same
      started := fun after same => after.options_start.trans same
      calibrated := fun _ _ _ same _ => same
      handled := fun _ _ same => same }
  exact preserved.run rfl moves

end Poller

end MeterPoll
