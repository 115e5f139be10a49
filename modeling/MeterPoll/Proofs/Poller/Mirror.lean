import MeterPoll.Proofs.Poller.Run

/-!
# Lines that a poller cannot tell apart

A poller sees nothing of its line but the answers to its operations. If a view of one line as
another keeps all of them (`Line.View`), then a poller on the first line, seen through it, is a
poller on the second one, and stays so on every run (`Poller.Mirrors.run`). Neither what a poller
has logged nor how many bytes it has thrown away has a bearing on what it does, so both are left
open.
-/

namespace MeterPoll

variable {σ τ ε : Type}

/-- The second outcome is the first one, seen through `view`. -/
def Served.Shows {α : Type} (view : σ → τ) (first : Served σ α) (second : Served τ α) : Prop :=
  second.answer = first.answer ∧ second.line = view first.line

/-- Frames sent byte by byte show what their bytes show. -/
theorem Served.shows_sendEach {view : σ → τ} {sendByte : σ → UInt8 → Served σ (Except Fault Unit)}
    {sendOther : τ → UInt8 → Served τ (Except Fault Unit)}
    (shows : ∀ line byte, (sendByte line byte).Shows view (sendOther (view line) byte))
    (line : σ) (frame : List UInt8) :
    (sendEach sendByte line frame).Shows view (sendEach sendOther (view line) frame) := by
  induction frame generalizing line with
  | nil => exact ⟨rfl, rfl⟩
  | cons byte rest ih =>
      obtain ⟨answer, onward⟩ := shows line byte
      simp only [sendEach, answer]
      cases (sendByte line byte).answer with
      | error fault => exact ⟨rfl, onward⟩
      | ok done =>
          rw [onward]
          exact ih (sendByte line byte).line

/-- A view of one line as another that keeps all that a poller asks of a line. -/
structure Line.View [Line σ] [Line τ] (view : σ → τ) : Prop where
  send : ∀ line frame, (Line.send line frame).Shows view (Line.send (view line) frame)
  available : ∀ line, (Line.available line).Shows view (Line.available (view line))
  discardAll : ∀ line, (Line.discardAll line).Shows view (Line.discardAll (view line))
  peek? : ∀ line offset, Line.peek? (view line) offset = Line.peek? line offset
  consume : ∀ line count, Line.consume (view line) count = view (Line.consume line count)

/-- A line is a view of itself. -/
theorem Line.View.id [Line σ] : Line.View (fun line : σ => line) where
  send _ _ := ⟨rfl, rfl⟩
  available _ := ⟨rfl, rfl⟩
  discardAll _ := ⟨rfl, rfl⟩
  peek? _ _ := rfl
  consume _ _ := rfl

namespace Poller

/-- The poller with its line seen through `view`, with another log and more bytes thrown away. -/
def mirrored (view : σ → τ) (bytes : Nat) (log : List Event) (poller : Poller σ) : Poller τ :=
  { poller with
    line := view poller.line
    log
    progress.counters.discarded := poller.progress.counters.discarded + bytes }

/-- The second poller is the first one with its line seen through `view`, whatever it has logged,
and has thrown away `bytes` more. -/
def Mirrors (view : σ → τ) (bytes : Nat) (poller : Poller σ) (other : Poller τ) : Prop :=
  ∃ log, other = poller.mirrored view bytes log

/-- The same answers on pollers that mirror one another. -/
def MirrorsBoth {α : Type} (view : σ → τ) (bytes : Nat) (first : α × Poller σ)
    (second : α × Poller τ) : Prop :=
  second.1 = first.1 ∧ first.2.Mirrors view bytes second.2

variable {view : σ → τ} {bytes : Nat} {poller : Poller σ} {other : Poller τ}

/-- The log of the second poller is its own. -/
theorem Mirrors.of_eq (same : other = poller.mirrored view bytes other.log) :
    poller.Mirrors view bytes other :=
  ⟨other.log, same⟩

/-- Both may log what they like. -/
theorem Mirrors.note (mirrors : poller.Mirrors view bytes other) (event event' : Event) :
    (poller.note event).Mirrors view bytes (other.note event') := by
  obtain ⟨log, rfl⟩ := mirrors
  exact ⟨_, rfl⟩

theorem Mirrors.register (mirrors : poller.Mirrors view bytes other) :
    other.register = poller.register := by
  obtain ⟨log, rfl⟩ := mirrors
  rfl

theorem Mirrors.line (mirrors : poller.Mirrors view bytes other) :
    other.line = view poller.line := by
  obtain ⟨log, rfl⟩ := mirrors
  rfl

theorem Mirrors.options (mirrors : poller.Mirrors view bytes other) :
    other.options = poller.options := by
  obtain ⟨log, rfl⟩ := mirrors
  rfl

theorem Mirrors.awaiting (mirrors : poller.Mirrors view bytes other) :
    other.progress.awaiting = poller.progress.awaiting := by
  obtain ⟨log, rfl⟩ := mirrors
  rfl

theorem Mirrors.ticks (mirrors : poller.Mirrors view bytes other) :
    other.ticks = poller.ticks := by
  obtain ⟨log, rfl⟩ := mirrors
  rfl

theorem Mirrors.unlockDue (mirrors : poller.Mirrors view bytes other) :
    other.unlockDue = poller.unlockDue := by
  obtain ⟨log, rfl⟩ := mirrors
  rfl

theorem Mirrors.acts (mirrors : poller.Mirrors view bytes other) : other.acts = poller.acts := by
  obtain ⟨log, rfl⟩ := mirrors
  rfl

/-- Outcomes of the lines that show the same keep the mirror. -/
theorem Mirrors.goOn {α : Type} (mirrors : poller.Mirrors view bytes other) {first : Served σ α}
    {second : Served τ α} (shows : first.Shows view second) :
    (poller.goOn first).Mirrors view bytes (other.goOn second) := by
  obtain ⟨log, rfl⟩ := mirrors
  refine ⟨second.events.reverse ++ log, ?_⟩
  unfold Poller.goOn mirrored
  rw [shows.2]

/-- Both calibrate a scale alike. -/
theorem Mirrors.setScale (mirrors : poller.Mirrors view bytes other) (quantity : Quantity)
    (scale : Float) :
    MirrorsBoth view bytes (poller.setScale quantity scale) (other.setScale quantity scale) := by
  obtain ⟨log, rfl⟩ := mirrors
  have table : (poller.mirrored view bytes log).table = poller.table := rfl
  unfold Poller.setScale
  rw [table]
  cases poller.table.setScale quantity scale with
  | error fault => exact ⟨rfl, log, rfl⟩
  | ok calibrated => exact ⟨rfl, _, rfl⟩

theorem Mirrors.setConversion (mirrors : poller.Mirrors view bytes other) (quantity : Quantity)
    (conversion : Conversion) :
    MirrorsBoth view bytes (poller.setConversion quantity conversion)
      (other.setConversion quantity conversion) := by
  obtain ⟨log, rfl⟩ := mirrors
  have table : (poller.mirrored view bytes log).table = poller.table := rfl
  unfold Poller.setConversion
  rw [table]
  cases poller.table.setConversion quantity conversion with
  | error fault => exact ⟨rfl, log, rfl⟩
  | ok calibrated => exact ⟨rfl, _, rfl⟩

variable [Line σ] [Line τ]

/-- Both throw away as many bytes. -/
theorem Mirrors.discard (keeps : Line.View view) (mirrors : poller.Mirrors view bytes other) :
    MirrorsBoth view bytes poller.discard other.discard := by
  obtain ⟨log, rfl⟩ := mirrors
  obtain ⟨answer, line⟩ := keeps.discardAll poller.line
  refine ⟨answer, (Line.discardAll (view poller.line)).events.reverse ++ log, ?_⟩
  simp only [Poller.discard, Poller.goOn, mirrored, answer, line, Nat.add_right_comm]

theorem Mirrors.flush (keeps : Line.View view) (mirrors : poller.Mirrors view bytes other) :
    poller.flush.Mirrors view bytes other.flush := by
  obtain ⟨answer, onward⟩ := mirrors.discard keeps
  unfold Poller.flush
  simp only [answer]
  split_ifs
  · exact onward
  · exact onward.note _ _
  · exact onward.note _ _

/-- Both send the unlock frame, or neither can. -/
theorem Mirrors.sendUnlock (keeps : Line.View view) (mirrors : poller.Mirrors view bytes other) :
    MirrorsBoth view bytes poller.sendUnlock other.sendUnlock := by
  have shows := keeps.send poller.line
    (Frame.unlock poller.options.unlock.register poller.options.unlock.key)
  have onward := mirrors.goOn shows
  unfold Poller.sendUnlock
  simp only [mirrors.options, mirrors.line, shows.1]
  cases (Line.send poller.line
    (Frame.unlock poller.options.unlock.register poller.options.unlock.key)).answer with
  | error fault => exact ⟨rfl, onward⟩
  | ok done =>
      obtain ⟨log, onward⟩ := onward
      simp only [onward]
      exact ⟨rfl, _, rfl⟩

/-- Both start polling alike. -/
theorem Mirrors.start (keeps : Line.View view) (mirrors : poller.Mirrors view bytes other) :
    MirrorsBoth view bytes poller.start other.start := by
  obtain ⟨answer, discarded⟩ := mirrors.discard keeps
  unfold Poller.start
  simp only [answer]
  -- The note on what was thrown away makes no difference to what follows.
  have noted : (if poller.discard.1 = 0 then poller.discard.2
      else poller.discard.2.note (.startupDiscarded poller.discard.1)).Mirrors view bytes
        (if poller.discard.1 = 0 then other.discard.2
          else other.discard.2.note (.startupDiscarded poller.discard.1)) := by
    split_ifs
    · exact discarded
    · exact discarded.note _ _
  revert noted
  generalize (if poller.discard.1 = 0 then poller.discard.2
    else poller.discard.2.note (.startupDiscarded poller.discard.1)) = first
  generalize (if poller.discard.1 = 0 then other.discard.2
    else other.discard.2.note (.startupDiscarded poller.discard.1)) = second
  intro noted
  rw [noted.options]
  split_ifs
  · obtain ⟨sent, onward⟩ := noted.sendUnlock keeps
    simp only [sent]
    cases first.sendUnlock.1 with
    | error fault => exact ⟨rfl, onward⟩
    | ok done => exact ⟨rfl, onward.note _ _⟩
  · exact ⟨rfl, noted.note _ _⟩

/-- Both see the same reply. -/
theorem Line.View.peekReply (keeps : Line.View view) (line : σ) :
    Poller.peekReply (view line) = Poller.peekReply line := by
  simp only [Poller.peekReply, keeps.peek?]

/-- Both handle a reply alike. -/
theorem Mirrors.settle (keeps : Line.View view) (mirrors : poller.Mirrors view bytes other)
    (reply : Reply) : MirrorsBoth view bytes (poller.settle reply) (other.settle reply) := by
  obtain ⟨log, rfl⟩ := mirrors
  have register : (poller.mirrored view bytes log).register = poller.register := rfl
  simp only [Poller.settle, register]
  cases reply.decode poller.register.address with
  | ok raw => exact ⟨rfl, .of_eq (by simp only [mirrored, Poller.note, keeps.consume])⟩
  | error mismatch => exact ⟨rfl, .of_eq (by simp only [mirrored, Poller.note, keeps.consume])⟩

/-- Both find the same when they look for a reply. -/
theorem Mirrors.collect (keeps : Line.View view) (mirrors : poller.Mirrors view bytes other) :
    MirrorsBoth view bytes poller.collect other.collect := by
  obtain ⟨answer, line⟩ := keeps.available poller.line
  have onward := mirrors.goOn ⟨answer, line⟩
  have seen : peekReply (other.goOn (Line.available (view poller.line))).line =
      peekReply (poller.goOn (Line.available poller.line)).line := by
    rw [onward.line, Line.View.peekReply keeps]
  unfold Poller.collect
  simp only [mirrors.awaiting, mirrors.line, answer, seen]
  split_ifs
  · exact ⟨rfl, mirrors⟩
  · exact ⟨rfl, onward⟩
  · cases peekReply (poller.goOn (Line.available poller.line)).line with
    | error count => exact ⟨rfl, onward⟩
    | ok reply => exact onward.settle keeps reply

/-- What a miss makes of a poller that has thrown away what it received. -/
def missed (poller : Poller σ) (log : List Event) : Choice × Poller σ :=
  if poller.options.maxRetries ≤ poller.progress.consecutive + 1 then
    (⟨false, some poller.register.address⟩, { poller with
      log
      lastFault := some (.noReply poller.register.address (poller.progress.consecutive + 1))
      progress.awaiting := false
      progress.consecutive := 0
      progress.index := poller.table.next poller.progress.index
      progress.counters.misses := poller.progress.counters.misses + 1
      progress.counters.abandoned := poller.progress.counters.abandoned + 1 })
  else
    (⟨true, none⟩, { poller with
      log
      progress.awaiting := false
      progress.consecutive := poller.progress.consecutive + 1
      progress.counters.misses := poller.progress.counters.misses + 1 })

/-- A miss throws away what was received and then counts, but for the log. -/
theorem miss_eq (poller : Poller σ) : ∃ log, poller.miss = poller.discard.2.missed log := by
  by_cases spent : poller.options.maxRetries ≤ poller.progress.consecutive + 1
  · exact ⟨_, (if_pos spent : poller.miss = _).trans (if_pos spent : _ = _).symm⟩
  · exact ⟨_, (if_neg spent : poller.miss = _).trans (if_neg spent : _ = _).symm⟩

/-- Misses mirror one another as soon as the pollers do so with what was received thrown away. -/
theorem mirrorsBoth_miss (discarded : poller.discard.2.Mirrors view bytes other.discard.2) :
    MirrorsBoth view bytes poller.miss other.miss := by
  obtain ⟨first, missed⟩ := poller.miss_eq
  obtain ⟨second, otherMissed⟩ := other.miss_eq
  obtain ⟨log, discarded⟩ := discarded
  rw [missed, otherMissed, discarded]
  by_cases spent : poller.discard.2.options.maxRetries ≤ poller.discard.2.progress.consecutive + 1
  · have otherSpent : (poller.discard.2.mirrored view bytes log).options.maxRetries ≤
        (poller.discard.2.mirrored view bytes log).progress.consecutive + 1 := spent
    rw [Poller.missed, if_pos spent, Poller.missed, if_pos otherSpent]
    exact ⟨rfl, second, rfl⟩
  · have otherLeft : ¬ (poller.discard.2.mirrored view bytes log).options.maxRetries ≤
        (poller.discard.2.mirrored view bytes log).progress.consecutive + 1 := spent
    rw [Poller.missed, if_neg spent, Poller.missed, if_neg otherLeft]
    exact ⟨rfl, second, rfl⟩

/-- Both choose the same register. -/
theorem Mirrors.choose (keeps : Line.View view) (mirrors : poller.Mirrors view bytes other) :
    MirrorsBoth view bytes poller.choose other.choose := by
  have missed := mirrorsBoth_miss (mirrors.discard keeps).2
  obtain ⟨log, rfl⟩ := mirrors
  have awaiting : (poller.mirrored view bytes log).progress.awaiting =
      poller.progress.awaiting := rfl
  have resume : (poller.mirrored view bytes log).resume = poller.resume := rfl
  unfold Poller.choose
  rw [awaiting, resume]
  split_ifs
  · exact missed
  · exact ⟨rfl, log, rfl⟩
  · exact ⟨rfl, log, rfl⟩

/-- Requests for the same choice mirror one another as soon as the pollers do so with what was
received thrown away. -/
theorem mirrorsBoth_request (keeps : Line.View view)
    (flushed : poller.flush.Mirrors view bytes other.flush) (choice : Choice) :
    MirrorsBoth view bytes (poller.request choice) (other.request choice) := by
  obtain ⟨answer, line⟩ := keeps.send poller.flush.line
    (Frame.request poller.flush.register.address)
  have onward := flushed.goOn ⟨answer, line⟩
  unfold Poller.request
  simp only [flushed.register, flushed.line, answer]
  cases (Line.send poller.flush.line (Frame.request poller.flush.register.address)).answer with
  | error fault => exact ⟨rfl, onward⟩
  | ok done =>
      obtain ⟨log, onward⟩ := onward
      simp only [onward]
      exact ⟨rfl, _, rfl⟩

/-- Both send the unlock frame in place of a request alike. -/
theorem mirrorsBoth_unlockInstead (keeps : Line.View view)
    (flushed : poller.flush.Mirrors view bytes other.flush) :
    MirrorsBoth view bytes poller.unlockInstead other.unlockInstead := by
  have held : ({ poller.flush with resume := true } : Poller σ).Mirrors view bytes
      { other.flush with resume := true } := by
    obtain ⟨log, flushed⟩ := flushed
    rw [flushed]
    exact ⟨log, rfl⟩
  obtain ⟨answer, onward⟩ := held.sendUnlock keeps
  exact ⟨congrArg (·.map fun _ => Tick.unlocked) answer, onward⟩

theorem unlockDue_flush (poller : Poller σ) : poller.flush.unlockDue = poller.unlockDue := by
  obtain ⟨log, flushed⟩ := poller.flush_eq
  rw [flushed]
  rfl

/-- Ticks that are acted on mirror one another as soon as the choices of a register are the same and
the pollers mirror one another with what was received thrown away. -/
theorem mirrorsBoth_act (keeps : Line.View view) (choice : other.choose.1 = poller.choose.1)
    (flushed : ({ poller.choose.2 with resume := false } : Poller σ).flush.Mirrors view bytes
      ({ other.choose.2 with resume := false } : Poller τ).flush) :
    MirrorsBoth view bytes poller.act other.act := by
  have due := flushed.unlockDue
  rw [unlockDue_flush, unlockDue_flush] at due
  unfold Poller.act
  simp only [due, choice]
  split_ifs
  · exact mirrorsBoth_unlockInstead keeps flushed
  · exact mirrorsBoth_request keeps flushed _

/-- Both take a turn alike. -/
theorem Mirrors.act (keeps : Line.View view) (mirrors : poller.Mirrors view bytes other) :
    MirrorsBoth view bytes poller.act other.act := by
  obtain ⟨choice, chosen⟩ := mirrors.choose keeps
  have free : ({ poller.choose.2 with resume := false } : Poller σ).Mirrors view bytes
      { other.choose.2 with resume := false } := by
    obtain ⟨log, chosen⟩ := chosen
    rw [chosen]
    exact ⟨log, rfl⟩
  exact mirrorsBoth_act keeps choice (free.flush keeps)

/-- Both take a tick alike. -/
theorem Mirrors.slowTick (keeps : Line.View view) (mirrors : poller.Mirrors view bytes other) :
    MirrorsBoth view bytes poller.slowTick other.slowTick := by
  have looked : poller.looked.Mirrors view bytes other.looked := by
    obtain ⟨log, collected⟩ := (mirrors.collect keeps).2
    unfold Poller.looked
    rw [collected, mirrors.ticks]
    exact ⟨log, rfl⟩
  rw [slowTick_eq, slowTick_eq, mirrors.acts]
  split_ifs
  · exact looked.act keeps
  · exact ⟨rfl, looked⟩

variable {handle : ε → σ → Served σ Unit} {handleOther : ε → τ → Served τ Unit}

/-- A move keeps the mirror, if what happens to the lines shows the same. -/
theorem Mirrors.perform (keeps : Line.View view)
    (shows : ∀ event line, (handle event line).Shows view (handleOther event (view line)))
    (mirrors : poller.Mirrors view bytes other) (move : Move ε) :
    (poller.perform handle move).Mirrors view bytes (other.perform handleOther move) := by
  cases move with
  | start => exact (mirrors.start keeps).2
  | slowTick => exact (mirrors.slowTick keeps).2
  | fastTick => exact (mirrors.collect keeps).2
  | setScale quantity scale => exact (mirrors.setScale quantity scale).2
  | setConversion quantity conversion => exact (mirrors.setConversion quantity conversion).2
  | line event =>
      unfold Poller.perform
      rw [mirrors.line]
      exact mirrors.goOn (shows event poller.line)

/-- **Lines that look alike are alike.** On the same moves two pollers go on mirroring one
another. -/
theorem Mirrors.run (keeps : Line.View view)
    (shows : ∀ event line, (handle event line).Shows view (handleOther event (view line)))
    (mirrors : poller.Mirrors view bytes other) (moves : List (Move ε)) :
    (poller.run handle moves).Mirrors view bytes (other.run handleOther moves) := by
  induction moves generalizing poller other with
  | nil => exact mirrors
  | cons move rest ih => exact ih (mirrors.perform keeps shows move)

end Poller

end MeterPoll
