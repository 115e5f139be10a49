import MeterPoll.Proofs.Bench.Journal
import MeterPoll.Proofs.Line.Tapped
import MeterPoll.Proofs.Poller.Pacing
import MeterPoll.Proofs.Poller.Provenance

/-!
# Frames that the line refuses

A tick of the scheduler gives one frame to the line or none, and fails if and only if the line
refuses a byte of it. A refused request counts as not sent and its register loses the turn
(`Poller.Passed`), so that the next one has it. A refused unlock frame counts as not sent either,
but stays due and keeps the chosen register waiting (`Poller.Blocked`), and nothing but sending the
frame unblocks the poller (`Poller.Blocked.run`); then the register has its turn. All of this holds
at every point of every run (`Poller.refusal_run`).
-/

namespace MeterPoll

variable {σ ε : Type}

namespace Poller

/-! ### What a tick gives to the line -/

section Attempts

variable [Line σ] {poller : Poller (Tapped σ)}

/-- A look for a reply gives the line no bytes. -/
theorem given_collect (poller : Poller (Tapped σ)) :
    poller.collect.2.line.given = poller.line.given := by
  have effect := poller.collectEffect
  generalize poller.collect = result at effect ⊢
  cases effect <;> rfl

theorem given_choose (poller : Poller (Tapped σ)) :
    poller.choose.2.line.given = poller.line.given := by
  have effect := poller.chooseEffect
  generalize poller.choose = result at effect ⊢
  cases effect <;> rfl

/-- An unlock frame is given to the line byte by byte, up to a byte that is refused. -/
theorem UnlockEffect.attempt {result : Except Fault Unit × Poller (Tapped σ)}
    (effect : poller.UnlockEffect result) :
    ∃ bytes, result.2.line.given = poller.line.given ++ bytes ∧
      Attempt poller.options.unlock.frame result.1.isOk bytes := by
  have attempt := poller.line.attempt_send poller.options.unlock.frame
  cases effect with
  | sent log taken =>
      unfold UnlockPolicy.frame at attempt
      rw [taken] at attempt
      exact attempt
  | unsent fault log refused =>
      unfold UnlockPolicy.frame at attempt
      rw [refused] at attempt
      exact attempt

/-- A request is given to the line byte by byte, up to a byte that is refused. -/
theorem RequestEffect.attempt {choice : Choice} {result : Except Fault Tick × Poller (Tapped σ)}
    (effect : RequestEffect choice poller result) :
    ∃ bytes, result.2.line.given = poller.line.given ++ bytes ∧
      Attempt (Frame.request result.2.register.address) result.1.isOk bytes := by
  have attempt := (Line.discardAll poller.line).line.attempt_send
    (Frame.request poller.register.address)
  cases effect with
  | sent log taken =>
      rw [taken] at attempt
      exact attempt
  | unsent fault log refused =>
      rw [refused] at attempt
      exact attempt

/-- A tick of the scheduler gives this frame to the line, and fails if the line refuses a byte of
it. -/
def Attempts (frame : List UInt8) (poller : Poller (Tapped σ)) : Prop :=
  ∃ bytes, poller.slowTick.2.line.given = poller.line.given ++ bytes ∧
    Attempt frame poller.slowTick.1.isOk bytes

/-- A turn gives its frame to the line byte by byte, up to a byte that is refused. -/
theorem act_attempt (poller : Poller (Tapped σ)) :
    ∃ bytes, poller.act.2.line.given = poller.line.given ++ bytes ∧
      Attempt (if poller.unlockDue then poller.options.unlock.frame
        else Frame.request poller.act.2.register.address) poller.act.1.isOk bytes := by
  have options := poller.steady_choose.options
  have due := poller.unlockDue_choose
  rw [← due, ← options, ← poller.given_choose]
  have effect := poller.actEffect
  generalize poller.act = result at effect ⊢
  generalize poller.choose = choice at effect ⊢
  cases effect with
  | unlocked log onward due effect =>
      rw [if_pos due]
      exact effect.attempt
  | unlockFailed log fault onward due effect =>
      rw [if_pos due]
      exact effect.attempt
  | asked result undue effect =>
      rw [undue, if_neg Bool.false_ne_true]
      exact effect.attempt

/-- A tick that is acted on attempts the frame that is due. -/
theorem attempts_slowTick (acted : poller.slowTick.1 ≠ .ok .skipped) :
    poller.Attempts (if poller.unlockDue then poller.options.unlock.frame
      else Frame.request poller.slowTick.2.register.address) := by
  have attempt := poller.looked.act_attempt
  have given : poller.looked.line.given = poller.line.given := poller.given_collect
  have options : poller.looked.options = poller.options := poller.steady_collect.options
  rw [given, options, poller.unlockDue_looked, ← slowTick_of_acted acted] at attempt
  exact attempt

end Attempts

/-! ### What a refused frame leaves -/

/-- Nothing was counted as sent. -/
structure Uncounted (before after : Poller σ) : Prop where
  tx : after.progress.counters.tx = before.progress.counters.tx
  unlocks : after.progress.counters.unlocks = before.progress.counters.unlocks
  sinceUnlock : after.sinceUnlock = before.sinceUnlock

/-- The poller after an unlock frame that the line refused. The register at this position, with this
address, keeps its turn, and the frame is due again. -/
structure Blocked (index : Nat) (address : UInt8) (poller : Poller σ) : Prop where
  index : poller.progress.index = index
  address : poller.register.address = address
  calm : poller.progress.awaiting = false
  resume : poller.resume = true
  due : poller.unlockDue = true

/-- The poller after a request that the line refused. The register at this position has lost its
turn to the next one. -/
structure Passed (index : Nat) (addresses : List UInt8) (poller : Poller σ) : Prop where
  index : poller.progress.index = index
  addresses : poller.table.addresses = addresses
  calm : poller.progress.awaiting = false
  free : poller.resume = false
  undue : poller.unlockDue = false

/-- A blocked poller stays blocked until the unlock frame is sent, and then the register has its
turn. -/
inductive Unblocking (index : Nat) (address : UInt8) (before after : Poller σ) : Prop where
  | blocked (still : after.Blocked index address)
      (unsent : after.progress.counters.unlocks = before.progress.counters.unlocks)
  | freed (held : after.Held index address)
      (sent : after.progress.counters.unlocks = before.progress.counters.unlocks + 1)

section Refused

variable [Line σ] {poller : Poller σ} {index : Nat} {address : UInt8} {addresses : List UInt8}

/-- A turn whose frame is refused counts nothing, and leaves the register its turn if the frame was
to unlock writes. -/
theorem act_of_refused (refused : poller.act.1.isOk = false) :
    poller.Uncounted poller.act.2 ∧
      if poller.unlockDue then
        poller.act.2.Blocked poller.act.2.progress.index poller.act.2.register.address
      else poller.act.2.Passed poller.act.2.progress.index poller.act.2.table.addresses := by
  have chosen := poller.steady_choose
  have calm := poller.awaiting_choose
  rw [← poller.unlockDue_choose]
  have effect := poller.actEffect
  generalize poller.act = result at effect refused ⊢
  generalize poller.choose = choice at effect chosen calm ⊢
  cases effect with
  | unlocked => cases refused
  | unlockFailed log fault onward due effect =>
      rw [if_pos due]
      cases effect with
      | unsent => exact ⟨⟨chosen.tx, chosen.unlocks, chosen.sinceUnlock⟩, rfl, rfl, calm, rfl, due⟩
  | asked result undue effect =>
      rw [if_neg (Bool.eq_false_iff.mp undue)]
      cases effect with
      | sent => cases refused
      | unsent =>
          exact ⟨⟨chosen.tx, chosen.unlocks, chosen.sinceUnlock⟩, rfl, rfl, calm, rfl, undue⟩

/-- A tick that fails was acted on. -/
theorem acted_of_refused (refused : poller.slowTick.1.isOk = false) :
    poller.slowTick.1 ≠ .ok .skipped := by
  intro skipped
  rw [skipped] at refused
  cases refused

/-- A tick that fails counts nothing, and leaves what the failed turn left. -/
theorem slowTick_of_refused (refused : poller.slowTick.1.isOk = false) :
    poller.Uncounted poller.slowTick.2 ∧
      if poller.unlockDue then
        poller.slowTick.2.Blocked poller.slowTick.2.progress.index
          poller.slowTick.2.register.address
      else poller.slowTick.2.Passed poller.slowTick.2.progress.index
        poller.slowTick.2.table.addresses := by
  have acted := slowTick_of_acted (acted_of_refused refused)
  rw [acted] at refused ⊢
  obtain ⟨uncounted, left⟩ := act_of_refused refused
  have steady := poller.steady_collect
  rw [poller.unlockDue_looked] at left
  exact ⟨⟨uncounted.tx.trans steady.tx, uncounted.unlocks.trans steady.unlocks,
    uncounted.sinceUnlock.trans steady.sinceUnlock⟩, left⟩

/-! ### After a refused request -/

theorem Passed.start (passed : poller.Passed index addresses) :
    poller.start.2.Passed index addresses := by
  have effect := poller.startEffect
  generalize poller.start = result at effect ⊢
  cases effect with
  | plain => exact { passed with }
  | unlocking before after result asked effect =>
      cases effect with
      | sent => exact { passed with undue := unlockDue_of_unlocked rfl }
      | unsent => exact { passed with }

/-- Nothing but a turn gives a register back the turn that it lost. -/
theorem lasting_passed (handle : ε → σ → Served σ Unit) (index : Nat) (addresses : List UInt8) :
    Lasting handle (Passed index addresses) where
  collected poller passed := by
    rw [collect_of_calm passed.calm]
    exact passed
  counted _ _ passed := { passed with }
  started _ passed := passed.start
  calibrated _ _ _ passed same := { passed with addresses := same.trans passed.addresses }
  handled _ _ passed := { passed with }

theorem Passed.looked (passed : poller.Passed index addresses) :
    poller.looked.Passed index addresses := by
  unfold Poller.looked
  rw [collect_of_calm passed.calm]
  exact { passed with }

/-- On the next tick that is acted on the next register has its turn, for the first time. -/
theorem Passed.act (passed : poller.Passed index addresses) :
    poller.act.2.progress.index = poller.table.next index ∧
      poller.act.2.table = poller.table ∧
      (poller.act.1.isOk = true →
        poller.act.1 = .ok (.requested poller.act.2.register.address false none)) := by
  have chosen : poller.choose =
      (⟨false, none⟩, { poller with progress := poller.progress.advance poller.table }) := by
    unfold choose
    simp only [passed.calm, passed.free, Bool.false_eq_true, if_false]
  have effect := requestEffect poller.choose.1 { poller.choose.2 with resume := false }
  rw [← act_of_undue passed.undue, chosen] at effect
  generalize poller.act = result at effect ⊢
  cases effect with
  | sent => exact ⟨congrArg poller.table.next passed.index, rfl, fun _ => rfl⟩
  | unsent => exact ⟨congrArg poller.table.next passed.index, rfl, nofun⟩

/-! ### After a refused unlock frame -/

/-- Starting leaves a poller blocked, or sends the unlock frame. -/
theorem Blocked.start (blocked : poller.Blocked index address) :
    Unblocking index address poller poller.start.2 := by
  have effect := poller.startEffect
  generalize poller.start = result at effect ⊢
  cases effect with
  | plain => exact .blocked { blocked with } rfl
  | unlocking before after result asked effect =>
      cases effect with
      | sent => exact .freed { blocked with unlocked := rfl } rfl
      | unsent => exact .blocked { blocked with } rfl

/-- A turn of a blocked poller tries the unlock frame again. -/
theorem Blocked.act (blocked : poller.Blocked index address) :
    Unblocking index address poller poller.act.2 := by
  have effect := poller.actEffect
  rw [choose_of_held blocked.calm blocked.resume] at effect
  generalize poller.act = result at effect ⊢
  cases effect with
  | unlocked log onward due effect =>
      cases effect with
      | sent => exact .freed ⟨blocked.index, blocked.address, blocked.calm, rfl, rfl⟩ rfl
  | unlockFailed log fault onward due effect =>
      cases effect with
      | unsent => exact .blocked { blocked with resume := rfl } rfl
  | asked result undue effect =>
      rw [blocked.due] at undue
      cases undue

theorem Blocked.slowTick (blocked : poller.Blocked index address) :
    Unblocking index address poller poller.slowTick.2 := by
  have looked : poller.looked = { poller with ticks := poller.ticks + 1 } := by
    unfold Poller.looked
    rw [collect_of_calm blocked.calm]
  have still : poller.looked.Blocked index address := by
    rw [looked]
    exact { blocked with }
  have unlocks : poller.looked.progress.counters.unlocks = poller.progress.counters.unlocks := by
    rw [looked]
  rw [slowTick_eq]
  split_ifs
  · cases still.act with
    | blocked still unsent => exact .blocked still (unsent.trans unlocks)
    | freed held sent => exact .freed held (sent.trans (congrArg (· + 1) unlocks))
  · exact .blocked still unlocks

omit [Line σ] in
/-- Calibrating a blocked poller leaves it blocked. -/
theorem Blocked.calibrate (blocked : poller.Blocked index address)
    {result : Except Fault Unit × Poller σ} (effect : poller.CalibrationEffect result) :
    Unblocking index address poller result.2 := by
  cases effect with
  | calibrated table log same =>
      have kept := Table.address_get_eq_of_addresses same poller.progress.index
      exact .blocked { blocked with address := kept.trans blocked.address } rfl
  | refused => exact .blocked blocked rfl

/-- A move leaves a poller blocked, or sends the unlock frame. -/
theorem Blocked.perform (handle : ε → σ → Served σ Unit) (blocked : poller.Blocked index address)
    (move : Move ε) : Unblocking index address poller (poller.perform handle move) := by
  cases move with
  | start => exact blocked.start
  | slowTick => exact blocked.slowTick
  | fastTick =>
      have idle : poller.perform handle .fastTick = poller := collect_of_calm blocked.calm
      rw [idle]
      exact .blocked blocked rfl
  | setScale quantity scale => exact blocked.calibrate (poller.setScale_effect quantity scale)
  | setConversion quantity conversion =>
      exact blocked.calibrate (poller.setConversion_effect quantity conversion)
  | line event => exact .blocked { blocked with } rfl

/-- The count of unlock frames never goes down. -/
theorem preserved_unlocks (handle : ε → σ → Served σ Unit) (count : Nat) :
    Preserved handle fun poller => count ≤ poller.progress.counters.unlocks where
  collected poller least :=
    Nat.le_trans least (Nat.le_of_eq poller.steady_collect.unlocks.symm)
  counted _ _ least := least
  started poller least := by
    have effect := poller.startEffect
    generalize poller.start = result at effect ⊢
    cases effect with
    | plain => exact least
    | unlocking before after result asked effect =>
        cases effect with
        | sent => exact Nat.le_succ_of_le least
        | unsent => exact least
  calibrated _ _ _ least _ := least
  handled _ _ least := least
  acted poller least := by
    have chosen := Nat.le_trans least (Nat.le_of_eq poller.steady_choose.unlocks.symm)
    have effect := poller.actEffect
    generalize poller.act = result at effect ⊢
    generalize poller.choose = choice at effect chosen
    cases effect with
    | unlocked log onward due effect =>
        cases effect with
        | sent => exact Nat.le_succ_of_le chosen
    | unlockFailed log fault onward due effect =>
        cases effect with
        | unsent => exact chosen
    | asked result undue effect => cases effect <;> exact chosen

/-- Nothing but sending the unlock frame unblocks the poller. -/
theorem Blocked.run {handle : ε → σ → Served σ Unit} (blocked : poller.Blocked index address)
    {moves : List (Move ε)}
    (unsent : (poller.run handle moves).progress.counters.unlocks =
      poller.progress.counters.unlocks) :
    (poller.run handle moves).Blocked index address := by
  induction moves generalizing poller with
  | nil => exact blocked
  | cons move rest ih =>
      cases blocked.perform handle move with
      | blocked still same => exact ih still (unsent.trans same.symm)
      | freed held sent =>
          have least := (preserved_unlocks handle _).run (Nat.le_of_eq sent.symm) rest
          change _ ≤ (poller.run handle (move :: rest)).progress.counters.unlocks at least
          rw [unsent] at least
          exact absurd least (Nat.not_succ_le_self _)

end Refused

/-! ### Recovery -/

variable [Line σ]

section Next

variable {poller : Poller (Tapped σ)} {index : Nat} {address : UInt8} {addresses : List UInt8}
  (acted : poller.slowTick.1 ≠ .ok .skipped)

include acted

/-- After a refused request the next tick asks the register that follows. -/
theorem Passed.next {table : Table} (passed : poller.Passed index table.addresses) :
    let address := (table.get (table.next index)).address
    poller.slowTick.2.progress.index = table.next index ∧
      poller.Attempts (Frame.request address) ∧
      (poller.slowTick.1.isOk = true →
        poller.slowTick.1 = .ok (.requested address false none)) := by
  intro address
  have looked := passed.looked
  obtain ⟨position, same, answer⟩ := looked.act
  rw [← slowTick_of_acted acted] at position same answer
  have here : poller.slowTick.2.progress.index = table.next index := by
    rw [position]
    exact Table.next_eq_of_addresses looked.addresses index
  have register : poller.slowTick.2.register.address = address := by
    unfold Poller.register
    rw [here, same]
    exact Table.address_get_eq_of_addresses looked.addresses _
  have attempts := attempts_slowTick acted
  rw [passed.undue, if_neg Bool.false_ne_true, register] at attempts
  rw [register] at answer
  exact ⟨here, attempts, answer⟩

/-- A register that kept its turn is asked by the next tick. -/
theorem Held.next (held : poller.Held index address) :
    poller.slowTick.2.progress.index = index ∧ poller.Attempts (Frame.request address) := by
  obtain ⟨position, register⟩ := held.looked.act
  rw [← slowTick_of_acted acted] at position register
  have attempts := attempts_slowTick acted
  rw [held.unlockDue, if_neg Bool.false_ne_true, register] at attempts
  exact ⟨position, attempts⟩

/-- A blocked poller tries the unlock frame on the next tick, for the same register. -/
theorem Blocked.next (blocked : poller.Blocked index address) :
    poller.slowTick.2.progress.index = index ∧
      poller.Attempts poller.options.unlock.frame := by
  have attempts := attempts_slowTick acted
  rw [if_pos blocked.due] at attempts
  cases blocked.slowTick with
  | blocked still => exact ⟨still.index, attempts⟩
  | freed held => exact ⟨held.index, attempts⟩

end Next

/-- What becomes of a poller whose line refuses frames. -/
structure Recovers (handle : ε → Tapped σ → Served (Tapped σ) Unit)
    (poller : Poller (Tapped σ)) : Prop where
  /-- A tick fails if and only if the line refuses a byte on it. -/
  fails : ∃ bytes, poller.slowTick.2.line.given = poller.line.given ++ bytes ∧
    (poller.slowTick.1.isOk = false ↔ ∃ byte, ⟨byte, false⟩ ∈ bytes) ∧
    (poller.slowTick.1 = .ok .skipped → bytes = [])
  frame : poller.slowTick.1 ≠ .ok .skipped →
    poller.Attempts (if poller.unlockDue then poller.options.unlock.frame
      else Frame.request poller.slowTick.2.register.address)
  failed : poller.slowTick.1.isOk = false →
    poller.Uncounted poller.slowTick.2 ∧ poller.slowTick.2.progress.awaiting = false ∧
      poller.slowTick.2.readings = poller.collect.2.readings
  /-- After a refused request the next register has its turn, for the first time. -/
  passed : poller.slowTick.1.isOk = false → poller.unlockDue = false →
    ∀ between, (∀ tick ∈ poller.slowTick.2.scheduled handle between, tick.1 = .ok .skipped) →
      let index := poller.slowTick.2.table.next poller.slowTick.2.progress.index
      let address := (poller.slowTick.2.table.get index).address
      let next := poller.slowTick.2.run handle between
      next.slowTick.1 ≠ .ok .skipped →
        next.slowTick.2.progress.index = index ∧ next.Attempts (Frame.request address) ∧
          (next.slowTick.1.isOk = true →
            next.slowTick.1 = .ok (.requested address false none))
  /-- A refused unlock frame is sent again until the line takes it. -/
  blocked : poller.slowTick.1.isOk = false → poller.unlockDue = true → ∀ waiting,
    let next := poller.slowTick.2.run handle waiting
    next.progress.counters.unlocks = poller.slowTick.2.progress.counters.unlocks →
    next.slowTick.1 ≠ .ok .skipped →
      next.slowTick.2.progress.index = poller.slowTick.2.progress.index ∧
        next.Attempts poller.options.unlock.frame
  /-- Once the line takes it, the register that was chosen before has its turn. -/
  freed : poller.slowTick.1.isOk = false → poller.unlockDue = true → ∀ waiting move between,
    let blocked := poller.slowTick.2.run handle waiting
    let freed := blocked.perform handle move
    let next := freed.run handle between
    blocked.progress.counters.unlocks = poller.slowTick.2.progress.counters.unlocks →
    freed.progress.counters.unlocks ≠ blocked.progress.counters.unlocks →
    (∀ tick ∈ freed.scheduled handle between, tick.1 = .ok .skipped) →
    next.slowTick.1 ≠ .ok .skipped →
      next.slowTick.2.progress.index = poller.slowTick.2.progress.index ∧
        next.Attempts (Frame.request poller.slowTick.2.register.address)
  /-- A start that fails leaves everything as it was. -/
  started : poller.start.1.isOk = false →
    poller.Uncounted poller.start.2 ∧ poller.start.2.readings = poller.readings ∧
      poller.start.2.resume = poller.resume ∧
      poller.start.2.progress.index = poller.progress.index ∧
      poller.start.2.progress.awaiting = poller.progress.awaiting ∧
      poller.start.2.progress.consecutive = poller.progress.consecutive ∧
      ∃ bytes, poller.start.2.line.given = poller.line.given ++ bytes ∧
        Attempt poller.options.unlock.frame false bytes

/-- Every poller recovers from what its line refuses. -/
theorem recovers (handle : ε → Tapped σ → Served (Tapped σ) Unit) (poller : Poller (Tapped σ)) :
    poller.Recovers handle where
  fails := by
    by_cases skipped : poller.slowTick.1 = .ok .skipped
    · refine ⟨[], ?_, ?_, fun _ => rfl⟩
      · rw [slowTick_of_skipped skipped, List.append_nil]
        exact poller.given_collect
      · rw [skipped]
        exact ⟨nofun, fun ⟨byte, member⟩ => absurd member List.not_mem_nil⟩
    · obtain ⟨bytes, given, attempt⟩ := attempts_slowTick skipped
      exact ⟨bytes, given, attempt.sent_eq_false_iff, fun other => absurd other skipped⟩
  frame := attempts_slowTick
  failed refused := by
    obtain ⟨uncounted, left⟩ := slowTick_of_refused refused
    refine ⟨uncounted, ?_, poller.table_readings_slowTick.2⟩
    split_ifs at left with due
    · exact left.calm
    · exact left.calm
  passed refused undue between skipped := by
    intro index address next acted
    have left := (slowTick_of_refused refused).2
    rw [undue, if_neg Bool.false_ne_true] at left
    exact ((lasting_passed handle _ _).run left skipped).next acted
  blocked refused due waiting := by
    intro next unsent acted
    have left := (slowTick_of_refused refused).2
    rw [if_pos due] at left
    have options : next.options = poller.options :=
      (options_run _ _).trans poller.ticks_options_slowTick.2
    rw [← options]
    exact (left.run unsent).next acted
  freed refused due waiting move between := by
    intro blocked freed next unsent sent skipped acted
    have left := (slowTick_of_refused refused).2
    rw [if_pos due] at left
    cases (left.run unsent).perform handle move with
    | blocked _ same => exact absurd same sent
    | freed held => exact ((lasting_held handle _ _).run held skipped).next acted
  started refused := by
    have effect := poller.startEffect
    generalize poller.start = result at effect refused ⊢
    cases effect with
    | plain => cases refused
    | unlocking before after result asked effect =>
        have attempt := effect.attempt
        cases effect with
        | sent => cases refused
        | unsent => exact ⟨⟨rfl, rfl, rfl⟩, rfl, rfl, rfl, rfl, rfl, attempt⟩

/-- **A refused frame leaves the poller as it should be.** On every run from the start, on a line
that may refuse any byte: a tick fails exactly when the line refuses a byte of the frame, nothing is
counted as sent then, and the next ticks go on with the next register or with the unlock frame. -/
theorem refusal_run (bytewise : ∀ (line : σ) frame,
      Line.send line frame = sendEach Line.sendByte line frame)
    (handle : ε → σ → Served σ Unit) (line : σ) (table : Table) (options : Options)
    (moves : List (Move ε)) :
    let poller := (new (Tapped.tap line) table options).run (Tapped.handle handle) moves
    let untapped := (new line table options).run handle moves
    poller.Mirrors Tapped.line 0 untapped ∧ untapped.slowTick.1 = poller.slowTick.1 ∧
      untapped.start.1 = poller.start.1 ∧ poller.Recovers (Tapped.handle handle) := by
  intro poller untapped
  have keeps := Tapped.view bytewise
  have mirrors : poller.Mirrors Tapped.line 0 untapped :=
    Mirrors.run keeps (fun _ _ => ⟨rfl, rfl⟩) ⟨[], rfl⟩ moves
  exact ⟨mirrors, (mirrors.slowTick keeps).1, (mirrors.start keeps).1, poller.recovers _⟩

/-- Wires that break after the first byte of a request. -/
theorem refusal_run_bench :
    let moves : List (Move Bench.Handling) :=
      [.start, .slowTick, .line (.failSending (some ⟨1, .transfer "broken pipe"⟩))]
    let bench := Bench.ofMeter Meter.reference
    let poller := (new (Tapped.tap bench) .reference .standard).run
      (Tapped.handle Bench.Handling.apply) moves
    let untapped := (new bench .reference .standard).run Bench.Handling.apply moves
    (∀ (bench : Bench) frame, Line.send bench frame = sendEach Line.sendByte bench frame) ∧
      poller.slowTick.1.isOk = false ∧ poller.unlockDue = false ∧
      poller.Mirrors Tapped.line 0 untapped ∧ untapped.slowTick.1 = poller.slowTick.1 ∧
      untapped.start.1 = poller.start.1 ∧ poller.Recovers (Tapped.handle Bench.Handling.apply) := by
  intro moves bench poller untapped
  have bytewise (bench : Bench) (frame : List UInt8) :
      Line.send bench frame = sendEach Line.sendByte bench frame := rfl
  refine ⟨bytewise, by decide +kernel, by decide +kernel, ?_⟩
  exact refusal_run bytewise Bench.Handling.apply bench .reference .standard moves

end Poller

end MeterPoll
