import MeterPoll.Proofs.Poller.Divider
import MeterPoll.Proofs.Poller.Mirror

/-!
# Boxing a line

A box passes on every operation of its line but `discardAll`, which takes its usual form behind the
box. A poller can tell whether its line is boxed if and only if the line has another form of its own
for that one operation; whatever a line does to send a frame, a box does the same
(`Boxed.transparent_iff`). A line that would also throw away what it has not taken in yet no longer
does so in a box (`Boxed.keeps_purged`).
-/

namespace MeterPoll

variable {σ τ ε : Type}

namespace Poller

variable [Line σ] [Line τ]

/-- What the poller returns on each of several moves. -/
def answers (handle : ε → σ → Served σ Unit) (poller : Poller σ) : List (Move ε) → List Answer
  | [] => []
  | move :: rest => poller.answer move :: (poller.perform handle move).answers handle rest

variable {view : σ → τ} {bytes : Nat} {poller : Poller σ} {other : Poller τ}

/-- A poller over another view of the line answers a move in the same way. -/
theorem Mirrors.answer (keeps : Line.View view) (mirrors : poller.Mirrors view bytes other)
    (move : Move ε) : other.answer move = poller.answer move := by
  cases move with
  | start => exact congrArg Answer.done (mirrors.start keeps).1
  | slowTick => exact congrArg Answer.ticked (mirrors.slowTick keeps).1
  | fastTick => exact congrArg Answer.collected (mirrors.collect keeps).1
  | setScale quantity scale => exact congrArg Answer.done (mirrors.setScale quantity scale).1
  | setConversion quantity conversion =>
      exact congrArg Answer.done (mirrors.setConversion quantity conversion).1
  | line event => rfl

/-- Pollers that mirror each other answer a whole run in the same way. -/
theorem Mirrors.answers {handle : ε → σ → Served σ Unit} {handleOther : ε → τ → Served τ Unit}
    (keeps : Line.View view)
    (shows : ∀ event line, (handle event line).Shows view (handleOther event (view line)))
    (mirrors : poller.Mirrors view bytes other) (moves : List (Move ε)) :
    other.answers handleOther moves = poller.answers handle moves := by
  induction moves generalizing poller other with
  | nil => rfl
  | cons move rest ih =>
      simp only [Poller.answers, mirrors.answer keeps move,
        ih (mirrors.perform keeps shows move)]

/-- A start that sends no unlock frame does nothing but throw away what was received. -/
theorem exists_start_eq_emptied (unasked : poller.options.unlock.onStartup = false) :
    ∃ log, poller.start.2 = poller.emptied log := by
  have effect := poller.startEffect
  generalize poller.start = result at effect ⊢
  cases effect with
  | plain log => exact ⟨log, rfl⟩
  | unlocking before after result asked => exact absurd asked (Bool.eq_false_iff.mp unasked)

end Poller

/-- Throwing everything away takes its usual form: what the line counts is consumed. -/
def Line.DiscardsUsually (σ : Type) [Line σ] : Prop :=
  ∀ line : σ,
    (Line.discardAll line).answer = (Line.available line).answer ∧
    (Line.discardAll line).line =
      Line.consume (Line.available line).line (Line.available line).answer

namespace Boxed

variable [Line σ]

/-- What an event does to a line in a box. -/
def handle (apply : ε → σ → Served σ Unit) (event : ε) (boxed : Boxed σ) :
    Served (Boxed σ) Unit :=
  serve (apply event boxed.line)

/-- On every run a poller on a line in a box returns what a poller on the line itself returns, and
is left in the same state with the same line in its box. Only the logs may differ. -/
def Transparent (σ : Type) [Line σ] : Prop :=
  ∀ (ε : Type) (apply : ε → σ → Served σ Unit) (line : σ) (table : Table) (options : Options)
    (moves : List (Move ε)),
    let plain := Poller.new line table options
    let boxed := Poller.new (Boxed.mk line) table options
    boxed.answers (handle apply) moves = plain.answers apply moves ∧
      (plain.run apply moves).Mirrors Boxed.mk 0 (boxed.run (handle apply) moves)

/-- A line whose discarding is the usual one is seen through the box. -/
theorem view (usual : Line.DiscardsUsually σ) : Line.View (Boxed.mk : σ → Boxed σ) where
  send _ _ := ⟨rfl, rfl⟩
  available _ := ⟨rfl, rfl⟩
  discardAll line := by
    obtain ⟨answer, onward⟩ := usual line
    exact ⟨answer.symm, congrArg Boxed.mk onward.symm⟩
  peek? _ _ := rfl
  consume _ _ := rfl

/-- A line whose discarding is the usual one can be boxed unnoticed. -/
theorem transparent_of_usual (usual : Line.DiscardsUsually σ) : Transparent σ := by
  intro ε apply line table options moves plain boxed
  have shows (event : ε) (line : σ) :
      (apply event line).Shows Boxed.mk (handle apply event (Boxed.mk line)) := ⟨rfl, rfl⟩
  have mirrors : plain.Mirrors Boxed.mk 0 boxed := ⟨[], rfl⟩
  exact ⟨mirrors.answers (view usual) shows moves, mirrors.run (view usual) shows moves⟩

/-- A line that discards in its own way is noticed when it is boxed. -/
theorem usual_of_transparent (transparent : Transparent σ) : Line.DiscardsUsually σ := by
  intro line
  let unasked : Options := { Options.standard with unlock.onStartup := false }
  obtain ⟨-, log, mirrored⟩ := transparent Empty Empty.elim line .reference unasked [.start]
  -- The state after a start shows what was thrown away: the line, and how much it was.
  obtain ⟨plainLog, plain⟩ := (Poller.new line .reference unasked).exists_start_eq_emptied rfl
  obtain ⟨boxedLog, boxed⟩ :=
    (Poller.new (Boxed.mk line) .reference unasked).exists_start_eq_emptied rfl
  have states : (Poller.new (Boxed.mk line) .reference unasked).emptied boxedLog =
      ((Poller.new line .reference unasked).emptied plainLog).mirrored Boxed.mk 0 log :=
    (boxed.symm.trans mirrored).trans (congrArg (Poller.mirrored Boxed.mk 0 log) plain)
  have count : 0 + (Line.available line).answer = 0 + (Line.discardAll line).answer :=
    congrArg (·.progress.counters.discarded) states
  have onward : Boxed.mk
      (Line.consume (Line.available line).line (Line.available line).answer) =
        Boxed.mk (Line.discardAll line).line := congrArg (·.line) states
  refine ⟨?_, ?_⟩
  · omega
  · exact (congrArg Boxed.line onward).symm

/-- **Boxing.** A box is transparent for exactly the lines that throw everything away in the usual
form. How a line sends a frame makes no difference. -/
theorem transparent_iff (σ : Type) [Line σ] : Transparent σ ↔ Line.DiscardsUsually σ :=
  ⟨usual_of_transparent, transparent_of_usual⟩

end Boxed

/-- A line with a port behind it that hands over at most four bytes at a time. Throwing everything
away also purges the port. -/
structure Purging where
  received : List UInt8
  waiting : List UInt8

instance : Line Purging where
  sendByte line _ := ⟨.ok (), line, []⟩
  available line :=
    let received := line.received ++ line.waiting.take 4
    ⟨received.length, ⟨received, line.waiting.drop 4⟩, []⟩
  peek? line offset := line.received[offset]?
  consume line count := { line with received := line.received.drop count }
  discardAll line := ⟨line.received.length + line.waiting.length, ⟨[], []⟩, []⟩

/-- What waits at the port is from before the start and ends in a voltage reply. -/
def Purging.stale : Purging :=
  ⟨[], [0, 0, 0, 0, 0, 0, 0, 0, 0x29, 0x10, 0x00, 0x54]⟩

/-- How far a poller gets in the first round of a run. -/
def Poller.firstRound {σ : Type} [Line σ] (handle : Empty → σ → Served σ Unit) (line : σ) :
    Progress :=
  ((Poller.new line .reference .standard).run handle [.start, .slowTick, .fastTick]).progress

namespace Boxed

/-- Without the box the stale reply is thrown away before the first request. -/
theorem firstRound_stale : let progress := Poller.firstRound Empty.elim Purging.stale
    progress.counters.discarded = 12 ∧ progress.counters.good = 0 := by
  decide +kernel

/-- Inside the box the stale reply survives and is taken for an answer. -/
theorem firstRound_boxed_stale :
    let progress := Poller.firstRound (handle Empty.elim) (Boxed.mk Purging.stale)
    progress.counters.discarded = 8 ∧ progress.counters.good = 1 := by
  decide +kernel

/-- With a voltage reply among what waits at a port from before the start, a poller on the line
itself throws it away and waits for an answer. A poller on the line in a box throws away only what
was handed over, and takes the old reply for the answer to its first request. -/
theorem keeps_purged :
    let plain := Poller.firstRound Empty.elim Purging.stale
    let boxed := Poller.firstRound (handle Empty.elim) (Boxed.mk Purging.stale)
    (plain.counters.discarded = 12 ∧ plain.counters.good = 0) ∧
      (boxed.counters.discarded = 8 ∧ boxed.counters.good = 1) ∧
      ¬ ∀ (σ : Type) [Line σ], Transparent σ := by
  refine ⟨firstRound_stale, firstRound_boxed_stale, fun transparent => ?_⟩
  obtain ⟨log, mirrored⟩ := (transparent Purging Empty Empty.elim .stale .reference .standard
    [.start, .slowTick, .fastTick]).2
  have good : (Poller.firstRound (handle Empty.elim) (Boxed.mk Purging.stale)).counters.good =
      (Poller.firstRound Empty.elim Purging.stale).counters.good :=
    congrArg (·.progress.counters.good) mirrored
  rw [firstRound_boxed_stale.2, firstRound_stale.2] at good
  exact absurd good (by decide)

end Boxed

end MeterPoll
