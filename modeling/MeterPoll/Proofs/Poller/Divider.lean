import MeterPoll.Proofs.Poller.FastTicks

/-!
# Ticks that are skipped

The scheduler acts on every so many of its ticks. A tick that it skips is a look for a reply
(`Poller.slowTick_of_idle`), and nothing but the choice of the ticks to act on reads the number of
ticks or how many of them go by between two requests (`Poller.perform_clocked`). So a poller that
skips ticks is one that does not, with a look in place of every tick that is skipped
(`Poller.thinned_run`).
-/

namespace MeterPoll

variable {σ ε : Type}

namespace Move

/-- Whether a move is a tick of the scheduler. -/
def isSlowTick : Move ε → Bool
  | .slowTick => true
  | .start | .fastTick | .setScale .. | .setConversion .. | .line _ => false

/-- A look for a reply in place of a tick that is skipped by a poller which acts on every so many
ticks and has counted some already. -/
def thinned (every ticks : Nat) : Move ε → Move ε
  | .slowTick => if ticks % every = 0 then .slowTick else .fastTick
  | move => move

/-- A move that is a tick of the scheduler is that one. -/
theorem eq_slowTick (move : Move ε) (slow : move.isSlowTick = true) : move = .slowTick := by
  cases move with
  | slowTick => rfl
  | _ => nomatch slow

/-- Only ticks of the scheduler are replaced. -/
theorem thinned_of_other (every ticks : Nat) (move : Move ε) (other : move.isSlowTick = false) :
    move.thinned every ticks = move := by
  cases move with
  | slowTick => nomatch other
  | _ => rfl

end Move

/-- Moves with a look for a reply in place of each tick that is skipped. -/
def thinned (every : Nat) : Nat → List (Move ε) → List (Move ε)
  | _, [] => []
  | ticks, move :: rest =>
    move.thinned every ticks :: thinned every (ticks + move.isSlowTick.toNat) rest

/-- What replaces a move depends on the moves before it alone. -/
theorem take_thinned (every ticks count : Nat) (moves : List (Move ε)) :
    (thinned every ticks moves).take count = thinned every ticks (moves.take count) := by
  induction moves generalizing ticks count with
  | nil => simp [thinned]
  | cons move rest ih =>
      cases count with
      | zero => rfl
      | succ count => simp [thinned, ih]

/-- What replaces a move depends on it and on how many ticks came before. -/
theorem getElem?_thinned (every ticks count : Nat) (moves : List (Move ε)) :
    (thinned every ticks moves)[count]? = moves[count]?.map
      (·.thinned every (ticks + (moves.take count).countP Move.isSlowTick)) := by
  induction moves generalizing ticks count with
  | nil => simp [thinned]
  | cons move rest ih =>
      cases count with
      | zero => simp [thinned]
      | succ count =>
          cases slow : move.isSlowTick <;> simp [thinned, ih, slow, Nat.add_assoc, Nat.add_comm 1]

namespace Poller

/-- The poller with another clock: it acts on every so many ticks and has counted so many. -/
def clocked (every ticks : Nat) (poller : Poller σ) : Poller σ :=
  { poller with options.requestEvery := every, ticks }

/-- An answer and a poller with another clock. -/
abbrev reclock {α : Type} (every ticks : Nat) (result : α × Poller σ) : α × Poller σ :=
  (result.1, result.2.clocked every ticks)

variable (every ticks : Nat)

/-! ### What does not read the clock -/

theorem setScale_clocked (poller : Poller σ) (quantity : Quantity) (scale : Float) :
    (poller.clocked every ticks).setScale quantity scale =
      reclock every ticks (poller.setScale quantity scale) := by
  have table : (poller.clocked every ticks).table = poller.table := rfl
  simp only [setScale, table]
  cases poller.table.setScale quantity scale <;> rfl

theorem setConversion_clocked (poller : Poller σ) (quantity : Quantity) (conversion : Conversion) :
    (poller.clocked every ticks).setConversion quantity conversion =
      reclock every ticks (poller.setConversion quantity conversion) := by
  have table : (poller.clocked every ticks).table = poller.table := rfl
  simp only [setConversion, table]
  cases poller.table.setConversion quantity conversion <;> rfl

variable [Line σ]

theorem discard_clocked (poller : Poller σ) :
    (poller.clocked every ticks).discard = reclock every ticks poller.discard := rfl

theorem flush_clocked (poller : Poller σ) :
    (poller.clocked every ticks).flush = poller.flush.clocked every ticks := by
  unfold flush
  rw [discard_clocked]
  obtain ⟨stale, onward⟩ := poller.discard
  simp only
  split_ifs <;> rfl

theorem sendUnlock_clocked (poller : Poller σ) :
    (poller.clocked every ticks).sendUnlock = reclock every ticks poller.sendUnlock := by
  have line : (poller.clocked every ticks).line = poller.line := rfl
  have unlock : (poller.clocked every ticks).options.unlock = poller.options.unlock := rfl
  simp only [sendUnlock, line, unlock]
  cases (Line.send poller.line
    (Frame.unlock poller.options.unlock.register poller.options.unlock.key)).answer <;> rfl

theorem start_clocked (poller : Poller σ) :
    (poller.clocked every ticks).start = reclock every ticks poller.start := by
  unfold start
  rw [discard_clocked]
  obtain ⟨startup, onward⟩ := poller.discard
  have noted : (if startup = 0 then onward.clocked every ticks
      else (onward.clocked every ticks).note (.startupDiscarded startup)) =
        (if startup = 0 then onward else onward.note (.startupDiscarded startup)).clocked
          every ticks := by
    split_ifs <;> rfl
  simp only [reclock, noted]
  generalize (if startup = 0 then onward else onward.note (.startupDiscarded startup)) = ready
  have asked : (ready.clocked every ticks).options.unlock.onStartup =
    ready.options.unlock.onStartup := rfl
  simp only [asked, sendUnlock_clocked, reclock]
  split_ifs
  · cases ready.sendUnlock.1 <;> rfl
  · rfl

theorem settle_clocked (poller : Poller σ) (reply : Reply) :
    (poller.clocked every ticks).settle reply = reclock every ticks (poller.settle reply) := by
  have register : (poller.clocked every ticks).register = poller.register := rfl
  simp only [settle, register]
  cases reply.decode poller.register.address <;> rfl

/-- A look for a reply does not read the clock. -/
theorem collect_clocked (poller : Poller σ) :
    (poller.clocked every ticks).collect = reclock every ticks poller.collect := by
  have awaiting : (poller.clocked every ticks).progress.awaiting = poller.progress.awaiting := rfl
  have line : (poller.clocked every ticks).line = poller.line := rfl
  have onward : (poller.clocked every ticks).goOn (Line.available poller.line) =
      (poller.goOn (Line.available poller.line)).clocked every ticks := rfl
  have seen : ((poller.goOn (Line.available poller.line)).clocked every ticks).line =
      (poller.goOn (Line.available poller.line)).line := rfl
  simp only [collect, awaiting, line, onward, seen]
  split_ifs
  · rfl
  · rfl
  · cases peekReply (poller.goOn (Line.available poller.line)).line with
    | error count => rfl
    | ok reply => exact settle_clocked every ticks _ reply

theorem miss_clocked (poller : Poller σ) :
    (poller.clocked every ticks).miss = reclock every ticks poller.miss := by
  have register : (poller.clocked every ticks).register = poller.register := rfl
  have consecutive : (poller.clocked every ticks).progress.consecutive =
    poller.progress.consecutive := rfl
  have maxRetries : (poller.clocked every ticks).options.maxRetries =
    poller.options.maxRetries := rfl
  simp only [miss, register, consecutive, maxRetries]
  split_ifs <;> rfl

theorem choose_clocked (poller : Poller σ) :
    (poller.clocked every ticks).choose = reclock every ticks poller.choose := by
  have awaiting : (poller.clocked every ticks).progress.awaiting = poller.progress.awaiting := rfl
  have resume : (poller.clocked every ticks).resume = poller.resume := rfl
  simp only [choose, awaiting, resume]
  split_ifs
  · exact poller.miss_clocked every ticks
  · rfl
  · rfl

theorem unlockInstead_clocked (poller : Poller σ) :
    (poller.clocked every ticks).unlockInstead = reclock every ticks poller.unlockInstead := by
  have held : ({ poller.flush.clocked every ticks with resume := true } : Poller σ) =
      ({ poller.flush with resume := true } : Poller σ).clocked every ticks := rfl
  simp only [unlockInstead, flush_clocked, held, sendUnlock_clocked]

theorem request_clocked (poller : Poller σ) (choice : Choice) :
    (poller.clocked every ticks).request choice = reclock every ticks (poller.request choice) := by
  have line : (poller.flush.clocked every ticks).line = poller.flush.line := rfl
  have register : (poller.flush.clocked every ticks).register = poller.flush.register := rfl
  simp only [request, flush_clocked, line, register]
  cases (Line.send poller.flush.line (Frame.request poller.flush.register.address)).answer <;> rfl

/-- A turn of the scheduler is the same by every clock. -/
theorem act_clocked (poller : Poller σ) :
    (poller.clocked every ticks).act = reclock every ticks poller.act := by
  have free : ({ poller.choose.2.clocked every ticks with resume := false } : Poller σ) =
      ({ poller.choose.2 with resume := false } : Poller σ).clocked every ticks := rfl
  have due : (({ poller.choose.2 with resume := false } : Poller σ).clocked every ticks).unlockDue =
      ({ poller.choose.2 with resume := false } : Poller σ).unlockDue := rfl
  simp only [act, choose_clocked, reclock, free, due]
  split_ifs
  · exact unlockInstead_clocked every ticks _
  · exact request_clocked every ticks _ _

/-- Only the count of ticks is read from the clock by the look at the beginning of a tick. -/
theorem looked_clocked (poller : Poller σ) :
    (poller.clocked every ticks).looked = poller.looked.clocked every (ticks + 1) := by
  unfold looked
  rw [collect_clocked]
  rfl

/-- A tick that is acted on is the same for a poller that acts on every tick. -/
theorem slowTick_clocked (poller : Poller σ) (acts : poller.acts = true) :
    (poller.clocked 1 ticks).slowTick = reclock 1 (ticks + 1) poller.slowTick := by
  have actsToo : (poller.clocked 1 ticks).acts = true := by simp [Poller.acts, clocked, Nat.mod_one]
  rw [slowTick_eq, slowTick_eq, if_pos acts, if_pos actsToo, looked_clocked, act_clocked]

/-! ### Moves -/

/-- What a move returns. -/
inductive Answer where
  | done (result : Except Fault Unit)
  | ticked (result : Except Fault Tick)
  | collected (result : Collected)
  /-- An event on the line returns nothing to a poller. -/
  | nothing

/-- What the poller returns on a move. -/
def answer (poller : Poller σ) : Move ε → Answer
  | .start => .done poller.start.1
  | .slowTick => .ticked poller.slowTick.1
  | .fastTick => .collected poller.fastTick.1
  | .setScale quantity scale => .done (poller.setScale quantity scale).1
  | .setConversion quantity conversion => .done (poller.setConversion quantity conversion).1
  | .line _ => .nothing

variable (handle : ε → σ → Served σ Unit)

/-- A tick is skipped if and only if the poller does not act on it. -/
theorem slowTick_skipped_iff (poller : Poller σ) :
    poller.slowTick.1 = .ok .skipped ↔ poller.acts = false := by
  rw [slowTick_eq]
  split_ifs with acts
  · simp [acts, act_ne_skipped]
  · simp [acts]

/-- No move but a tick of the scheduler reads the clock. -/
theorem perform_clocked (poller : Poller σ) {move : Move ε} (other : move.isSlowTick = false) :
    (poller.clocked every ticks).perform handle move =
        (poller.perform handle move).clocked every ticks ∧
      (poller.clocked every ticks).answer move = poller.answer move := by
  cases move with
  | start =>
      obtain ⟨answer, onward⟩ := Prod.ext_iff.mp (poller.start_clocked every ticks)
      exact ⟨onward, congrArg Answer.done answer⟩
  | slowTick => nomatch other
  | fastTick =>
      obtain ⟨answer, onward⟩ := Prod.ext_iff.mp (poller.collect_clocked every ticks)
      exact ⟨onward, congrArg Answer.collected answer⟩
  | setScale quantity scale =>
      obtain ⟨answer, onward⟩ :=
        Prod.ext_iff.mp (poller.setScale_clocked every ticks quantity scale)
      exact ⟨onward, congrArg Answer.done answer⟩
  | setConversion quantity conversion =>
      obtain ⟨answer, onward⟩ :=
        Prod.ext_iff.mp (poller.setConversion_clocked every ticks quantity conversion)
      exact ⟨onward, congrArg Answer.done answer⟩
  | line event => exact ⟨rfl, rfl⟩

/-- The poller counts the ticks of the scheduler. -/
theorem ticks_perform (poller : Poller σ) (move : Move ε) :
    (poller.perform handle move).ticks = poller.ticks + move.isSlowTick.toNat := by
  cases slow : move.isSlowTick with
  | false =>
      -- The clock that the poller has can as well be given to it after the move.
      have same : poller.perform handle move = (poller.perform handle move).clocked
          poller.options.requestEvery poller.ticks :=
        (poller.perform_clocked poller.options.requestEvery poller.ticks handle slow).1
      rw [same]
      rfl
  | true =>
      obtain rfl := move.eq_slowTick slow
      exact poller.ticks_options_slowTick.1

theorem ticks_run (poller : Poller σ) (moves : List (Move ε)) :
    (poller.run handle moves).ticks = poller.ticks + moves.countP Move.isSlowTick := by
  induction moves generalizing poller with
  | nil => rfl
  | cons move rest ih =>
      change ((poller.perform handle move).run handle rest).ticks = _
      rw [ih, ticks_perform, List.countP_cons]
      cases move.isSlowTick <;> simp; omega

/-- The second poller is the first one with another clock, and acts on every tick. -/
def Alongside (poller other : Poller σ) : Prop :=
  ∃ ticks, other = poller.clocked 1 ticks

variable {poller other : Poller σ}

/-- A move and the one in its place keep two pollers side by side, and if it is not a tick that is
skipped then both return the same. -/
theorem Alongside.perform (alongside : poller.Alongside other) (move : Move ε) :
    (poller.perform handle move).Alongside
        (other.perform handle (move.thinned poller.options.requestEvery poller.ticks)) ∧
      (poller.answer move = .ticked (.ok .skipped) ∧
          move.thinned poller.options.requestEvery poller.ticks = .fastTick ∨
        move.thinned poller.options.requestEvery poller.ticks = move ∧
          other.answer move = poller.answer move) := by
  obtain ⟨ticks, rfl⟩ := alongside
  cases slow : move.isSlowTick with
  | false =>
      obtain ⟨onward, answer⟩ := poller.perform_clocked 1 ticks handle slow
      rw [Move.thinned_of_other _ _ move slow]
      exact ⟨⟨ticks, onward⟩, .inr ⟨rfl, answer⟩⟩
  | true =>
      obtain rfl := move.eq_slowTick slow
      unfold Move.thinned
      split_ifs with now
      · obtain ⟨answer, onward⟩ :=
          Prod.ext_iff.mp (poller.slowTick_clocked ticks (beq_iff_eq.mpr now))
        exact ⟨⟨ticks + 1, onward⟩, .inr ⟨rfl, congrArg Answer.ticked answer⟩⟩
      · have skipped := poller.slowTick_skipped_iff.mpr (beq_eq_false_iff_ne.mpr now)
        have looked : (poller.clocked 1 ticks).collect.2 = poller.slowTick.2.clocked 1 ticks := by
          rw [slowTick_of_skipped skipped, collect_clocked]
          rfl
        exact ⟨⟨ticks, looked⟩, .inl ⟨congrArg Answer.ticked skipped, rfl⟩⟩

/-- Two pollers stay side by side along a run and the one in its place. -/
theorem Alongside.run (alongside : poller.Alongside other) (moves : List (Move ε)) :
    (poller.run handle moves).Alongside
      (other.run handle (MeterPoll.thinned poller.options.requestEvery poller.ticks moves)) := by
  induction moves generalizing poller other with
  | nil => exact alongside
  | cons move rest ih =>
      have onward := ih (alongside.perform handle move).1
      have options : (poller.perform handle move).options = poller.options :=
        poller.options_run [move]
      rw [options, ticks_perform] at onward
      exact onward

/-- A poller that acts on every `every`th tick skips the others, and what it does on those is a look
for a reply and a tick counted. With a look in place of each of them, a poller that acts on every
tick is in the same state after every move, but for its clock, and returns the same on every move
that is left as it was. -/
theorem thinned_run (handle : ε → σ → Served σ Unit) (line : σ) (table : Table)
    (options : Options) (moves : List (Move ε)) :
    let every := options.atLeastOne.requestEvery
    let poller := (new line table options).run handle
    let other := (new line table { options with requestEvery := 1 }).run handle
    let often := MeterPoll.thinned every 0 moves
    ∀ count,
      let before := poller (moves.take count)
      let otherBefore := other (often.take count)
      (before.slowTick.1 = .ok .skipped ↔
        (moves.take count).countP Move.isSlowTick % every ≠ 0) ∧
      (before.slowTick.1 = .ok .skipped →
        before.slowTick.2 = { before.fastTick.2 with ticks := before.ticks + 1 }) ∧
      (∃ ticks, otherBefore = { before with options.requestEvery := 1, ticks }) ∧
      ∀ move ∈ moves[count]?,
        before.answer move = .ticked (.ok .skipped) ∧ often[count]? = some .fastTick ∨
          often[count]? = some move ∧ otherBefore.answer move = before.answer move := by
  intro every poller other often count before otherBefore
  have start : (new line table options).Alongside
      (new line table { options with requestEvery := 1 }) := ⟨0, rfl⟩
  have ticks : before.ticks = (moves.take count).countP Move.isSlowTick :=
    ((new line table options).ticks_run handle _).trans (Nat.zero_add _)
  have pace : before.options.requestEvery = every :=
    congrArg (·.requestEvery) ((new line table options).options_run _)
  have alongside : before.Alongside otherBefore := by
    have along := start.run handle (moves.take count)
    rw [← take_thinned] at along
    exact along
  refine ⟨?_, slowTick_of_skipped, alongside, ?_⟩
  · rw [slowTick_skipped_iff, Poller.acts, ticks, pace]
    exact beq_eq_false_iff_ne
  · intro move there
    have thinned : often[count]? =
        some (move.thinned before.options.requestEvery before.ticks) := by
      rw [getElem?_thinned, Option.mem_def.mp there, pace, ticks, Nat.zero_add]
      rfl
    have answer := (alongside.perform handle move).2
    rw [thinned]
    exact answer.imp (And.imp_right (congrArg some)) (And.imp_left (congrArg some))

end Poller

end MeterPoll
