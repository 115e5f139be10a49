import MeterPoll.Proofs.Meter.Answers
import MeterPoll.Proofs.Poller.Looks
import MeterPoll.Proofs.Poller.Mirror

/-!
# Stale bytes

What a receive queue holds when the scheduler acts is thrown away, by a miss or before the next
frame goes out, unless the look that comes first takes a reply from it. So a tick on a meter is a
tick on the same meter with nothing received (`Poller.mirrorsBoth_slowTick_cleared`), a request goes
out when the queue is empty (`Poller.queue_slowTick_of_requested`), and what was received earlier
has no part in what follows (`Poller.slowTick_isolated`).
-/

namespace MeterPoll

namespace Poller

/-- The poller on the same meter with another receive queue. -/
def withQueue (poller : Poller Meter) (queue : Queue) : Poller Meter :=
  { poller with line.queue := queue }

variable (poller : Poller Meter)

/-- The poller on the same meter with nothing in the receive queue. -/
def cleared : Poller Meter :=
  poller.withQueue poller.line.queue.clear

/-- With nothing received nothing is answered. -/
theorem not_answered_cleared : ¬ poller.cleared.Answered :=
  fun answered => Nat.not_succ_le_zero 3 answered.2

/-- Throwing away what was received, or finding nothing to throw away, differ in the count alone. -/
theorem mirrors_discard_cleared :
    poller.cleared.discard.2.Mirrors (fun line => line) poller.line.queue.length
      poller.discard.2 := by
  obtain ⟨log, discarded⟩ := poller.discard_eq
  obtain ⟨log', empty⟩ := poller.cleared.discard_eq
  refine .of_eq ?_
  rw [discarded, empty, emptied, emptied, Meter.discardAll_eq, Meter.discardAll_eq]
  rfl

theorem mirrors_flush_cleared :
    poller.cleared.flush.Mirrors (fun line => line) poller.line.queue.length poller.flush := by
  obtain ⟨log, flushed⟩ := poller.flush_eq
  obtain ⟨log', empty⟩ := poller.cleared.flush_eq
  refine .of_eq ?_
  rw [flushed, empty, emptied, emptied, Meter.discardAll_eq, Meter.discardAll_eq]
  rfl

/-- What is received is thrown away by a miss or else before the next frame is sent. -/
theorem mirrors_choose_cleared :
    poller.choose.1 = poller.cleared.choose.1 ∧
      ({ poller.cleared.choose.2 with resume := false } : Poller Meter).flush.Mirrors
        (fun line => line) poller.line.queue.length
        ({ poller.choose.2 with resume := false } : Poller Meter).flush := by
  have awaiting : poller.cleared.progress.awaiting = poller.progress.awaiting := rfl
  have resume : poller.cleared.resume = poller.resume := rfl
  unfold choose
  rw [awaiting, resume]
  split_ifs
  -- After a miss both queues are empty before the flush; otherwise the flush empties them.
  · obtain ⟨choice, log, missed⟩ := mirrorsBoth_miss poller.mirrors_discard_cleared
    refine ⟨choice, Mirrors.flush .id ?_⟩
    rw [missed]
    exact ⟨log, rfl⟩
  · exact ⟨rfl, mirrors_flush_cleared { poller with resume := false }⟩
  · exact ⟨rfl, mirrors_flush_cleared { poller with
      progress := poller.progress.advance poller.table
      resume := false }⟩

/-- Turns that begin with stale bytes and without differ in that count alone. -/
theorem mirrorsBoth_act_cleared :
    MirrorsBoth (fun line => line) poller.line.queue.length poller.cleared.act poller.act := by
  obtain ⟨choice, flushed⟩ := poller.mirrors_choose_cleared
  exact mirrorsBoth_act .id choice flushed

/-- Ticks do, too, if the stale bytes do not answer a request that is out. -/
theorem mirrorsBoth_slowTick_cleared (unanswered : ¬ poller.Answered) (acts : poller.acts = true) :
    MirrorsBoth (fun line => line) poller.line.queue.length poller.cleared.slowTick
      poller.slowTick := by
  have looked : poller.looked = { poller with ticks := poller.ticks + 1 } := by
    rw [Poller.looked, collect_of_not_answered unanswered]
  have clearedLooked : poller.cleared.looked =
      cleared { poller with ticks := poller.ticks + 1 } := by
    rw [Poller.looked, collect_of_not_answered poller.not_answered_cleared]
    rfl
  have clearedActs : poller.cleared.acts = true := acts
  rw [slowTick_eq, slowTick_eq, if_pos acts, if_pos clearedActs, looked, clearedLooked]
  exact mirrorsBoth_act_cleared _

/-- What follows the choice of a register throws away everything that is received. -/
theorem discarded_act_of_choose {σ : Type} [Line σ] (poller : Poller σ) :
    poller.act.2.progress.counters.discarded = poller.choose.2.progress.counters.discarded +
      (Line.discardAll poller.choose.2.line).answer := by
  have effect := poller.actEffect
  generalize poller.act = result at effect ⊢
  generalize poller.choose = choice at effect ⊢
  cases effect with
  | unlocked log onward due effect => cases effect; rfl
  | unlockFailed log fault onward due effect => cases effect; rfl
  | asked result undue effect => cases effect <;> rfl

/-- A tick that is acted on throws away what is received when it starts, and nothing else. -/
theorem discarded_act :
    poller.act.2.progress.counters.discarded =
      poller.progress.counters.discarded + poller.line.queue.length := by
  rw [discarded_act_of_choose, Meter.discardAll_eq]
  have effect := poller.chooseEffect
  generalize poller.choose = choice at effect ⊢
  cases effect with
  | gaveUp => rw [emptied, Meter.discardAll_eq]; rfl
  | retrying => rw [emptied, Meter.discardAll_eq]; rfl
  | resumed => rfl
  | advanced => rfl

/-- With nothing received, a tick throws nothing away. -/
theorem discarded_slowTick_cleared (acts : poller.acts = true) :
    poller.cleared.slowTick.2.progress.counters.discarded =
      poller.progress.counters.discarded := by
  have clearedActs : poller.cleared.acts = true := acts
  rw [slowTick_eq, if_pos clearedActs, discarded_act, Poller.looked,
    collect_of_not_answered poller.not_answered_cleared]
  rfl

/-- What a turn leaves that sends a request: the line was emptied before. -/
theorem act_of_requested {σ : Type} [Line σ] {poller : Poller σ} {register : UInt8}
    {retry : Bool} {abandoned : Option UInt8}
    (requested : poller.act.1 = .ok (.requested register retry abandoned)) :
    poller.act.2.progress.awaiting = true ∧ poller.act.2.register.address = register ∧
      poller.act.2.line = (Line.send (Line.discardAll poller.choose.2.line).line
        (Frame.request register)).line := by
  have effect := poller.actEffect
  generalize poller.act = result at effect requested ⊢
  cases effect with
  | unlocked => cases requested
  | unlockFailed => cases requested
  | asked result undue effect =>
      cases effect with
      | sent =>
          cases requested
          exact ⟨rfl, rfl, rfl⟩
      | unsent => cases requested

/-- Whatever a look and the choice of a register take from the receive queue, nothing is left in it
once everything is thrown away. -/
theorem line_discardAll_choose_looked :
    (Line.discardAll poller.looked.choose.2.line).line =
      { poller.line with queue := poller.line.queue.clear } := by
  have looked : (Line.discardAll poller.looked.line).line =
      { poller.line with queue := poller.line.queue.clear } := by
    have effect := poller.collectEffect
    unfold Poller.looked
    generalize poller.collect = result at effect ⊢
    cases effect <;> exact congrArg Served.line (Meter.discardAll_eq _)
  have effect := poller.looked.chooseEffect
  generalize poller.looked.choose = choice at effect ⊢
  cases effect with
  | gaveUp => exact (Meter.line_discardAll_discardAll _).trans looked
  | retrying => exact (Meter.line_discardAll_discardAll _).trans looked
  | resumed => exact looked
  | advanced => exact looked

/-- A request goes out when nothing is left in the receive queue. -/
theorem queue_slowTick_of_requested {register : UInt8} {retry : Bool} {abandoned : Option UInt8}
    (requested : poller.slowTick.1 = .ok (.requested register retry abandoned)) :
    poller.slowTick.2.line.queue =
      poller.line.queue.clear.push
        (poller.line.atOnce (poller.line.answerTo (Frame.request register))) := by
  rw [slowTick_eq] at requested ⊢
  split_ifs at requested ⊢
  · rw [(act_of_requested requested).2.2, line_discardAll_choose_looked, Meter.send_withQueue]
  · cases requested

/-- Two ticks that are acted on, with queues of a kind but different bytes in them, of which no
reply can be taken, differ in the count of the bytes that they throw away and in nothing else. -/
theorem slowTick_withQueue {queue : Queue} (capacity : queue.capacity = poller.line.queue.capacity)
    (overruns : queue.overruns = poller.line.queue.overruns)
    (few : poller.progress.awaiting = true →
      poller.line.queue.length < Frame.replyLength ∧ queue.length < Frame.replyLength)
    (acted : poller.slowTick.1 ≠ .ok .skipped) :
    let other := poller.withQueue queue
    other.slowTick.1 = poller.slowTick.1 ∧ ∃ after : Poller Meter,
      after.progress.counters.discarded = poller.progress.counters.discarded ∧
      after.Mirrors (fun line => line) poller.line.queue.length poller.slowTick.2 ∧
      after.Mirrors (fun line => line) queue.length other.slowTick.2 := by
  intro other
  have acts : poller.acts = true := acts_of_acted acted
  have alike : other.cleared = poller.cleared := by
    have same : queue.clear = poller.line.queue.clear := Queue.ext rfl capacity overruns
    change poller.withQueue queue.clear = poller.withQueue poller.line.queue.clear
    rw [same]
  have unanswered : ¬ poller.Answered := fun answered =>
    Nat.not_le.mpr (few answered.1).1 answered.2
  have otherUnanswered : ¬ other.Answered := fun answered =>
    Nat.not_le.mpr (few answered.1).2 answered.2
  obtain ⟨outcome, mirrors⟩ := poller.mirrorsBoth_slowTick_cleared unanswered acts
  obtain ⟨otherOutcome, otherMirrors⟩ := other.mirrorsBoth_slowTick_cleared otherUnanswered acts
  rw [alike] at otherOutcome otherMirrors
  exact ⟨otherOutcome.trans outcome.symm, poller.cleared.slowTick.2,
    poller.discarded_slowTick_cleared acts, mirrors, otherMirrors⟩

/-- **Stale bytes.** After a request the receive queue holds what the meter answers to it, up to the
capacity, and nothing that was received before. What the queue holds before a tick that is acted on
makes no other difference than to the count of the bytes that are thrown away, neither to the tick
nor to any look for a reply after it, as long as no reply can be taken from it. -/
theorem slowTick_isolated (poller : Poller Meter) :
    (∀ register retry abandoned,
      poller.slowTick.1 = .ok (.requested register retry abandoned) →
      poller.slowTick.2.line.queue.bytes =
        (poller.line.atOnce (poller.line.answerTo (Frame.request register))).take
          poller.line.queue.capacity) ∧
    ∀ queue : Queue, queue.capacity = poller.line.queue.capacity →
      queue.overruns = poller.line.queue.overruns →
      (poller.progress.awaiting = true →
        poller.line.queue.length < Frame.replyLength ∧ queue.length < Frame.replyLength) →
      poller.slowTick.1 ≠ .ok .skipped →
      let after := poller.slowTick.2
      let other := (poller.withQueue queue).slowTick
      other.1 = poller.slowTick.1 ∧
        after.progress.counters.discarded =
          poller.progress.counters.discarded + poller.line.queue.length ∧
        (∃ log, other.2 = { after with
          log
          progress.counters.discarded := poller.progress.counters.discarded + queue.length }) ∧
        ∀ moves, (other.2.run Handling.apply moves).collect.1 =
          (after.run Handling.apply moves).collect.1 := by
  refine ⟨fun register retry abandoned requested => ?_, ?_⟩
  · rw [poller.queue_slowTick_of_requested requested]
    exact List.nil_append _
  · intro queue capacity overruns few acted after other
    obtain ⟨outcome, common, discarded, mirrors, otherMirrors⟩ :=
      poller.slowTick_withQueue capacity overruns few acted
    have shows (event : Handling) (meter : Meter) :
        (event.apply meter).Shows (fun line => line) (event.apply meter) := ⟨rfl, rfl⟩
    refine ⟨outcome, ?_, ?_, fun moves => ?_⟩
    · obtain ⟨log, same⟩ := mirrors
      have here : after = common.mirrored (fun line => line) poller.line.queue.length log := same
      rw [here, ← discarded]
      rfl
    · obtain ⟨log, same⟩ := mirrors
      obtain ⟨otherLog, otherSame⟩ := otherMirrors
      have here : after = common.mirrored (fun line => line) poller.line.queue.length log := same
      have there : other.2 = common.mirrored (fun line => line) queue.length otherLog := otherSame
      refine ⟨otherLog, ?_⟩
      rw [here, there, ← discarded]
      rfl
    · have first := ((mirrors.run .id shows moves).collect .id).1
      have second := ((otherMirrors.run .id shows moves).collect .id).1
      exact second.trans first.symm

/-- Noise before the first request is gone when the reply comes. -/
example :
    (new (Meter.reference.inject [0xFF, 0x29, 0x10, 0x00, 0x7E]).line .reference
      .standard).slowTick.2.line.queue.bytes = (Reply.encode 0x08 0x291000).toList := by
  decide +kernel

end Poller

end MeterPoll
