import Mathlib.Data.List.Induction
import MeterPoll.Proofs.Poller.Rotation

/-!
# Where readings come from

A reading is what the last reply that was accepted for its quantity says, read with the calibration
in effect when that reply was taken, and zero if no reply was accepted for it
(`Poller.readings_run`). The reply was the first four bytes on the line while the request for the
quantity's register was out. Nothing but an accepted reply touches a reading, and it touches the one
of its quantity only.
-/

namespace MeterPoll

variable {σ ε : Type}

namespace Table

/-- The table after a move, which changes it if it is a calibration that is not refused. -/
def after (table : Table) : Move ε → Table
  | .setScale quantity scale => (table.setScale quantity scale).toOption.getD table
  | .setConversion quantity conversion =>
    (table.setConversion quantity conversion).toOption.getD table
  | .start | .slowTick | .fastTick | .line _ => table

/-- The table after several moves, the first of the list first. -/
def afterAll (table : Table) (moves : List (Move ε)) : Table :=
  moves.foldl after table

/-- No move changes the address of a quantity. -/
theorem address?_after (table : Table) (move : Move ε) (quantity : Quantity) :
    (table.after move).address? quantity = table.address? quantity := by
  cases move with
  | setScale other scale =>
      rw [after]
      cases calibrates : table.setScale other scale with
      | error fault => rfl
      | ok calibrated => exact address?_setScale calibrates quantity
  | setConversion other conversion =>
      rw [after]
      cases calibrates : table.setConversion other conversion with
      | error fault => rfl
      | ok calibrated => exact address?_setConversion calibrates quantity
  | start | slowTick | fastTick | line => rfl

theorem address?_afterAll (table : Table) (moves : List (Move ε)) (quantity : Quantity) :
    (table.afterAll moves).address? quantity = table.address? quantity := by
  induction moves generalizing table with
  | nil => rfl
  | cons move rest ih => exact (ih _).trans (table.address?_after move quantity)

end Table

namespace Poller

variable [Line σ] (handle : ε → σ → Served σ Unit)

/-- What the look for a reply came to that a tick is or begins with. -/
def look? (poller : Poller σ) : Move ε → Option Collected
  | .fastTick | .slowTick => some poller.collect.1
  | .start | .setScale .. | .setConversion .. | .line _ => none

/-- A reply for the quantity is accepted on the move. -/
def Accepts (poller : Poller σ) (move : Move ε) (quantity : Quantity) : Prop :=
  ∃ raw value, poller.look? move = some (.accepted quantity raw value)

/-- No reply for the quantity is accepted on any of the moves. -/
def Unread (poller : Poller σ) (moves : List (Move ε)) (quantity : Quantity) : Prop :=
  ∀ before move after, moves = before ++ move :: after →
    ¬ (poller.run handle before).Accepts move quantity

/-- Where a reading comes from: the reply that is accepted on `move`, after the moves `before`. -/
structure Origin (start : Poller σ) (before : List (Move ε)) (move : Move ε) (quantity : Quantity)
    (register : Register) (reply : Reply) (raw : UInt32) (reading : Float) : Prop where
  accepted : (start.run handle before).look? move = some (.accepted quantity raw reading)
  /-- The register is that of the quantity, as it is calibrated at that moment. -/
  entry : (start.table.afterAll before).byQuantity? quantity = some register
  address : start.table.address? quantity = some register.address
  /-- The register was asked for last, and the request is out. -/
  asked : ∃ request earlier, start.history handle before = .request request :: earlier ∧
    request.fate = .out ∧ request.register = register.address
  /-- The reply is what stands first on the line. -/
  seen : peekReply (Line.available (start.run handle before).line).line = .ok reply
  right : reply.decode register.address = .ok raw
  read : reading = register.value raw start.options.noise

/-! ### What a move does to the table and the readings -/

/-- A turn changes neither the table nor the readings. -/
theorem table_readings_act (poller : Poller σ) :
    poller.act.2.table = poller.table ∧ poller.act.2.readings = poller.readings := by
  have chosen : poller.choose.2.table = poller.table ∧
      poller.choose.2.readings = poller.readings := by
    have effect := poller.chooseEffect
    generalize poller.choose = choice at effect ⊢
    cases effect <;> exact ⟨rfl, rfl⟩
  have effect := poller.actEffect
  generalize poller.act = result at effect ⊢
  generalize poller.choose = choice at effect chosen
  cases effect with
  | unlocked log onward due effect => cases effect; exact chosen
  | unlockFailed log fault onward due effect => cases effect; exact chosen
  | asked result undue effect => cases effect <;> exact chosen

theorem table_readings_start (poller : Poller σ) :
    poller.start.2.table = poller.table ∧ poller.start.2.readings = poller.readings := by
  have effect := poller.startEffect
  generalize poller.start = result at effect ⊢
  cases effect with
  | plain => exact ⟨rfl, rfl⟩
  | unlocking before after result asked effect => cases effect <;> exact ⟨rfl, rfl⟩

/-- A tick changes the readings by its look for a reply alone. -/
theorem table_readings_slowTick (poller : Poller σ) :
    poller.slowTick.2.table = poller.table ∧
      poller.slowTick.2.readings = poller.collect.2.readings := by
  rw [poller.slowTick_eq]
  split_ifs
  · obtain ⟨table, readings⟩ := poller.looked.table_readings_act
    exact ⟨table.trans poller.steady_collect.table, readings⟩
  · exact ⟨poller.steady_collect.table, rfl⟩

/-- A move changes the table only by calibrating it. -/
theorem table_perform (poller : Poller σ) (move : Move ε) :
    (poller.perform handle move).table = poller.table.after move := by
  cases move with
  | start => exact poller.table_readings_start.1
  | slowTick => exact poller.table_readings_slowTick.1
  | fastTick => exact poller.steady_collect.table
  | setScale quantity scale =>
      simp only [perform, setScale, Table.after]
      cases poller.table.setScale quantity scale <;> rfl
  | setConversion quantity conversion =>
      simp only [perform, setConversion, Table.after]
      cases poller.table.setConversion quantity conversion <;> rfl
  | line event => rfl

theorem table_run (poller : Poller σ) (moves : List (Move ε)) :
    (poller.run handle moves).table = poller.table.afterAll moves := by
  induction moves generalizing poller with
  | nil => rfl
  | cons move rest ih =>
      change ((poller.perform handle move).run handle rest).table = _
      rw [ih, table_perform]
      rfl

/-- A look for a reply stores what it accepts, and nothing else. -/
theorem readings_collect (poller : Poller σ) :
    (∃ quantity raw value, poller.collect.1 = .accepted quantity raw value ∧
      poller.collect.2.readings = poller.readings.set quantity value) ∨
    (∀ quantity raw value, poller.collect.1 ≠ .accepted quantity raw value) ∧
      poller.collect.2.readings = poller.readings := by
  have effect := poller.collectEffect
  generalize poller.collect = result at effect ⊢
  cases effect with
  | accepted => exact .inl ⟨_, _, _, rfl, rfl⟩
  | idle => exact .inr ⟨fun _ _ _ => nofun, rfl⟩
  | waiting => exact .inr ⟨fun _ _ _ => nofun, rfl⟩
  | rejected => exact .inr ⟨fun _ _ _ => nofun, rfl⟩

/-- The readings change on the looks for a reply only. -/
theorem readings_perform (poller : Poller σ) (move : Move ε) :
    poller.look? move = some poller.collect.1 ∧
        (poller.perform handle move).readings = poller.collect.2.readings ∨
      poller.look? move = none ∧ (poller.perform handle move).readings = poller.readings := by
  cases move with
  | start => exact .inr ⟨rfl, poller.table_readings_start.2⟩
  | slowTick => exact .inl ⟨rfl, poller.table_readings_slowTick.2⟩
  | fastTick => exact .inl ⟨rfl, rfl⟩
  | setScale quantity scale =>
      refine .inr ⟨rfl, ?_⟩
      simp only [perform, setScale]
      cases poller.table.setScale quantity scale <;> rfl
  | setConversion quantity conversion =>
      refine .inr ⟨rfl, ?_⟩
      simp only [perform, setConversion]
      cases poller.table.setConversion quantity conversion <;> rfl
  | line event => exact .inr ⟨rfl, rfl⟩

/-- A move that accepts a reply leaves its value in the readings. -/
theorem get_readings_perform_of_accepted {poller : Poller σ} {move : Move ε} {quantity : Quantity}
    {raw : UInt32} {value : Float}
    (accepted : poller.look? move = some (.accepted quantity raw value)) :
    (poller.perform handle move).readings.get quantity = value := by
  rcases poller.readings_perform handle move with ⟨look, readings⟩ | ⟨look, -⟩
  · have here : poller.collect.1 = .accepted quantity raw value := by
      rw [look] at accepted
      exact Option.some.inj accepted
    rcases poller.readings_collect with ⟨_, _, _, taken, replaced⟩ | ⟨none, -⟩
    · rw [taken] at here
      cases here
      rw [readings, replaced, Readings.get_set_self]
    · exact absurd here (none _ _ _)
  · rw [look] at accepted
    cases accepted

/-- A move that accepts no reply for the quantity keeps the reading. -/
theorem get_readings_perform_of_not_accepts {poller : Poller σ} {move : Move ε}
    {quantity : Quantity} (other : ¬ poller.Accepts move quantity) :
    (poller.perform handle move).readings.get quantity = poller.readings.get quantity := by
  rcases poller.readings_perform handle move with ⟨look, readings⟩ | ⟨-, readings⟩
  · rw [readings]
    rcases poller.readings_collect with ⟨accepted, raw, value, taken, replaced⟩ | ⟨-, same⟩
    · have different : quantity ≠ accepted := by
        rintro rfl
        exact other ⟨raw, value, by rw [look, taken]⟩
      rw [replaced, Readings.get_set_of_ne _ _ different]
    · rw [same]
  · rw [readings]

/-! ### The reply behind a reading -/

/-- A reply is accepted for the register that was asked last. -/
theorem Tracks.exists_reply {table : Table} {options : Options} {poller : Poller σ}
    {history : History} (tracks : Tracks table options poller history) {move : Move ε}
    {quantity : Quantity} (accepts : poller.Accepts move quantity) :
    ∃ reply raw, poller.look? move = some (.accepted quantity raw
        (poller.register.value raw poller.options.noise)) ∧
      poller.register.quantity = quantity ∧
      (∃ request earlier, history = .request request :: earlier ∧ request.fate = .out ∧
        request.register = poller.register.address) ∧
      peekReply (Line.available poller.line).line = .ok reply ∧
      reply.decode poller.register.address = .ok raw := by
  obtain ⟨raw, value, accepted⟩ := accepts
  have look : poller.look? move = some poller.collect.1 := by
    rcases poller.readings_perform (fun (_ : ε) line => ⟨(), line, []⟩) move
      with ⟨look, -⟩ | ⟨look, -⟩
    · exact look
    · rw [look] at accepted
      cases accepted
  rw [look] at accepted ⊢
  have effect := poller.collectEffect
  generalize poller.collect = result at effect accepted ⊢
  cases effect with
  | accepted reply raw' log out enough seen right =>
      cases accepted
      exact ⟨reply, raw, rfl, rfl, tracks.exists_asked out, seen, right⟩
  | idle => cases accepted
  | waiting => cases accepted
  | rejected => cases accepted

/-- One more move that accepts no reply for the quantity. -/
theorem Unread.append_singleton {handle : ε → σ → Served σ Unit} {poller : Poller σ}
    {moves : List (Move ε)} {quantity : Quantity} (unread : poller.Unread handle moves quantity)
    {last : Move ε} (other : ¬ (poller.run handle moves).Accepts last quantity) :
    poller.Unread handle (moves ++ [last]) quantity := by
  intro before move after same
  rcases List.eq_nil_or_concat after with rfl | ⟨between, latest, rfl⟩
  · obtain ⟨rfl, rfl⟩ := List.append_singleton_inj.mp same
    exact other
  · rw [List.concat_eq_append, ← List.cons_append, ← List.append_assoc] at same
    exact unread before move between (List.append_singleton_inj.mp same).1

theorem run_append_singleton (poller : Poller σ) (moves : List (Move ε)) (last : Move ε) :
    poller.run handle (moves ++ [last]) = (poller.run handle moves).perform handle last :=
  poller.run_append handle moves [last]

/-- A reading that was accepted on the last move has its origin there. -/
theorem origin_of_accepts (line : σ) (table : Table) (options : Options) (moves : List (Move ε))
    {last : Move ε} {quantity : Quantity} :
    let start := new line table options
    let poller := start.run handle moves
    poller.Accepts last quantity →
      ∃ register reply raw, start.Origin handle moves last quantity register reply raw
        ((poller.perform handle last).readings.get quantity) := by
  intro start poller accepts
  have tracks : Tracks table options.atLeastOne poller (start.history handle moves) :=
    invariant_tracks.run handle moves _ _ (tracks_new line table options)
  obtain ⟨reply, raw, accepted, rfl, asked, seen, right⟩ := tracks.exists_reply accepts
  have calibrated : poller.table = table.afterAll moves := start.table_run handle moves
  have entry : (table.afterAll moves).byQuantity? poller.register.quantity =
      some poller.register := by
    rw [← calibrated]
    exact Table.byQuantity?_get _ _
  have address : table.address? poller.register.quantity = some poller.register.address := by
    rw [← table.address?_afterAll moves, Table.address?, entry]
    rfl
  refine ⟨poller.register, reply, raw, ?_, entry, address, asked, seen, right, ?_⟩
  · rw [accepted, get_readings_perform_of_accepted handle accepted]
  · rw [get_readings_perform_of_accepted handle accepted, tracks.settings]
    rfl

/-- The origin of the reading of a quantity after a run, if it has one. -/
theorem zero_or_origin (line : σ) (table : Table) (options : Options) (moves : List (Move ε))
    (quantity : Quantity) :
    let start := new line table options
    let reading := (start.run handle moves).readings.get quantity
    reading = 0.0 ∧ start.Unread handle moves quantity ∨
      ∃ before move after register reply raw, moves = before ++ move :: after ∧
        start.Origin handle before move quantity register reply raw reading ∧
        (start.run handle (before ++ [move])).Unread handle after quantity := by
  intro start
  have unread_nil (poller : Poller σ) : poller.Unread handle [] quantity := by
    intro before move after same
    exact absurd same.symm (List.append_ne_nil_of_right_ne_nil _ (List.cons_ne_nil _ _))
  -- On the last move a reply is accepted for the quantity, or its reading stays as it was.
  induction moves using List.reverseRecOn with
  | nil => exact .inl ⟨by cases quantity <;> rfl, unread_nil _⟩
  | append_singleton moves last ih =>
      rw [run_append_singleton]
      by_cases accepts : (start.run handle moves).Accepts last quantity
      · obtain ⟨register, reply, raw, origin⟩ :=
          origin_of_accepts handle line table options moves accepts
        exact .inr ⟨moves, last, [], register, reply, raw, rfl, origin, unread_nil _⟩
      · rw [get_readings_perform_of_not_accepts handle accepts]
        rcases ih with ⟨zero, unread⟩ | ⟨before, move, after, register, reply, raw, split, rest⟩
        · exact .inl ⟨zero, unread.append_singleton accepts⟩
        · obtain ⟨origin, unread⟩ := rest
          refine .inr ⟨before, move, after ++ [last], register, reply, raw, ?_, origin, ?_⟩
          · rw [split, List.append_assoc, List.cons_append]
          · refine unread.append_singleton ?_
            rw [← run_append, List.append_assoc, List.singleton_append, ← split]
            exact accepts

/-- **Where readings come from.** On every run from the start, the reading of a quantity is zero and
no reply was accepted for it, or the reading comes from the last reply that was. A move on which no
reply is accepted for a quantity leaves its reading as it is. -/
theorem readings_run (line : σ) (table : Table) (options : Options) (moves : List (Move ε)) :
    let start := new line table options
    let poller := start.run handle moves
    (∀ quantity,
      poller.readings.get quantity = 0.0 ∧ start.Unread handle moves quantity ∨
      ∃ before move after register reply raw, moves = before ++ move :: after ∧
        start.Origin handle before move quantity register reply raw
          (poller.readings.get quantity) ∧
        (start.run handle (before ++ [move])).Unread handle after quantity) ∧
      ∀ move quantity, ¬ poller.Accepts move quantity →
        (poller.perform handle move).readings.get quantity = poller.readings.get quantity :=
  ⟨zero_or_origin handle line table options moves,
    fun _ _ => get_readings_perform_of_not_accepts handle⟩

end Poller

end MeterPoll
