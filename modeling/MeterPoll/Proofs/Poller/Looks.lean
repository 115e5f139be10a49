import MeterPoll.Proofs.Meter.Handling
import MeterPoll.Proofs.Poller.Run
import MeterPoll.Proofs.Poller.Verdict

/-!
# Looking for replies on a meter

A look takes a complete reply from the receive queue and leaves everything else for later, so that
a second look finds nothing more (`Poller.collect_collect`) and the next tick of the scheduler,
which looks first, finds the same reply without it (`Poller.slowTick_collect`). In between only more
bytes can arrive, which does not matter as long as they fit (`Poller.collect_perform`). No move
takes back the count of the bytes that were lost (`Poller.overruns_le_run`).
-/

namespace MeterPoll

namespace Poller

/-! ### Looking at a meter -/

/-- A request is out and there are enough bytes for its reply. -/
def Answered (poller : Poller Meter) : Prop :=
  poller.progress.awaiting = true ∧ Frame.replyLength ≤ poller.line.queue.length

variable {poller other : Poller Meter} {handling : Handling}

/-- What happens to a meter does not change a reply that has arrived in full. -/
theorem peekReply_apply (handling : Handling) {meter : Meter}
    (enough : Frame.replyLength ≤ meter.queue.length) :
    peekReply (handling.apply meter).line = peekReply meter := by
  have same (offset : Nat) (inside : offset < Frame.replyLength) :
      Line.peek? (handling.apply meter).line offset = Line.peek? meter offset := by
    change (handling.apply meter).line.queue.peek? offset = meter.queue.peek? offset
    rw [handling.queue_apply]
    exact Queue.peek?_push (Nat.lt_of_lt_of_le inside enough) _
  unfold peekReply
  rw [same 0 (by decide), same 1 (by decide), same 2 (by decide), same 3 (by decide)]

/-- A look takes the reply that has arrived. -/
theorem Answered.collect (answered : poller.Answered) :
    ∃ reply, peekReply poller.line = .ok reply ∧ poller.collect = poller.settle reply := by
  obtain ⟨out, enough⟩ := answered
  obtain ⟨reply, rest, bytes⟩ := Reply.exists_toList_append enough
  have faces : poller.Faces reply := faces_of_bytes bytes
  exact ⟨reply, faces.2, faces.collect out⟩

/-- A look that finds no whole reply changes nothing. -/
theorem collect_of_not_answered (unanswered : ¬ poller.Answered) : poller.collect.2 = poller := by
  unfold Poller.collect
  cases out : poller.progress.awaiting with
  | false => rfl
  | true =>
      have short : (Line.available poller.line).answer < Frame.replyLength :=
        Nat.lt_of_not_le fun enough => unanswered ⟨out, enough⟩
      simp only [Bool.not_true, Bool.false_eq_true, if_false, short, if_true]
      rfl

/-- Once a reply is handled, no request is out that could be answered. -/
theorem not_answered_settle (poller : Poller Meter) (reply : Reply) :
    ¬ (poller.settle reply).2.Answered := by
  have calm : (poller.settle reply).2.progress.awaiting = false := by
    simp only [settle]
    cases reply.decode poller.register.address <;> rfl
  rintro ⟨out, _⟩
  rw [calm] at out
  exact Bool.false_ne_true out

/-- A second look finds nothing more. -/
theorem collect_collect (poller : Poller Meter) :
    poller.collect.2.collect.2 = poller.collect.2 := by
  by_cases answered : poller.Answered
  · obtain ⟨reply, _, taken⟩ := answered.collect
    rw [taken]
    exact collect_of_not_answered (poller.not_answered_settle reply)
  · rw [collect_of_not_answered answered, collect_of_not_answered answered]

/-- A look loses no bytes. -/
theorem overruns_collect (poller : Poller Meter) :
    poller.collect.2.line.queue.overruns = poller.line.queue.overruns := by
  have effect := poller.collectEffect
  generalize poller.collect = result at effect ⊢
  cases effect <;> rfl

/-! ### Events between two looks -/

/-- Taking bytes and being handled can be swapped as long as what arrives fits. -/
theorem apply_consume {meter : Meter} (fits : meter.queue.excess (handling.arriving meter) = 0)
    {count : Nat} (enough : count ≤ meter.queue.length) :
    handling.apply (Line.consume meter count) =
      ⟨(), Line.consume (handling.apply meter).line count, []⟩ := by
  change handling.apply { meter with queue := meter.queue.consume count } =
    ⟨(), { (handling.apply meter).line with
      queue := (handling.apply meter).line.queue.consume count }, []⟩
  rw [handling.apply_withQueue, Queue.pushEvents_of_fits (Queue.excess_consume fits count),
    handling.queue_apply, Queue.consume_push fits enough]

/-- A reply can be handled before an event or after it, if the event finds room. -/
theorem settle_perform (reply : Reply)
    (fits : poller.line.queue.excess (handling.arriving poller.line) = 0)
    (enough : Frame.replyLength ≤ poller.line.queue.length) :
    ((poller.perform Handling.apply (.line handling)).settle reply).2 =
      (poller.settle reply).2.perform Handling.apply (.line handling) := by
  have swapped := apply_consume fits enough
  have silent : (handling.apply poller.line).events = [] :=
    (handling.events_apply poller.line).trans (Queue.pushEvents_of_fits fits)
  have register : (poller.perform Handling.apply (.line handling)).register = poller.register := rfl
  simp only [settle, register]
  cases reply.decode poller.register.address with
  | ok raw =>
      simp only [perform, goOn, note, swapped, silent]
      rfl
  | error mismatch =>
      simp only [perform, goOn, note, swapped, silent]
      rfl

/-- A reply that has arrived is still there after an event. -/
theorem Answered.perform (answered : poller.Answered) (handling : Handling) :
    (poller.perform Handling.apply (.line handling)).Answered := by
  refine ⟨answered.1, Nat.le_trans answered.2 ?_⟩
  change _ ≤ (handling.apply poller.line).line.queue.length
  rw [handling.queue_apply]
  exact Queue.length_le_push _ _

/-- A poller that has looked for a reply or not. -/
def Ahead (poller other : Poller Meter) : Prop :=
  other = poller ∨ other = poller.collect.2

/-- An event after a look is a look after the event, or the look found nothing. -/
theorem ahead_perform (fits : poller.line.queue.excess (handling.arriving poller.line) = 0) :
    (poller.perform Handling.apply (.line handling)).Ahead
      (poller.collect.2.perform Handling.apply (.line handling)) := by
  by_cases answered : poller.Answered
  · obtain ⟨reply, seen, taken⟩ := answered.collect
    obtain ⟨again, seenAgain, takenAgain⟩ := (answered.perform handling).collect
    have same : again = reply := by
      have unchanged := peekReply_apply handling answered.2
      change peekReply (handling.apply poller.line).line = .ok again at seenAgain
      rw [unchanged, seen] at seenAgain
      exact (Except.ok.inj seenAgain).symm
    refine .inr ?_
    rw [taken, takenAgain, same, settle_perform reply fits answered.2]
  · exact .inl (by rw [collect_of_not_answered answered])

/-- A look before an event makes no difference to a look after it. -/
theorem collect_perform (fits : poller.line.queue.excess (handling.arriving poller.line) = 0) :
    (poller.collect.2.perform Handling.apply (.line handling)).collect.2 =
      (poller.perform Handling.apply (.line handling)).collect.2 := by
  rcases ahead_perform fits with same | looked
  · rw [same]
  · rw [looked, collect_collect]

/-- A tick looks for a reply itself, so that a look before it makes no difference. -/
theorem slowTick_collect (poller : Poller Meter) : poller.collect.2.slowTick = poller.slowTick := by
  have looked : poller.collect.2.looked = poller.looked := by
    unfold Poller.looked
    rw [collect_collect, poller.steady_collect.ticks]
  rw [slowTick_eq, slowTick_eq, poller.acts_collect, looked]

/-! ### Losses -/

/-- The line only sees that a frame is sent. -/
theorem UnlockEffect.exists_line_eq {σ : Type} [Line σ] {poller : Poller σ}
    {result : Except Fault Unit × Poller σ} (effect : poller.UnlockEffect result) :
    ∃ frame, result.2.line = (Line.send poller.line frame).line := by
  cases effect <;> exact ⟨_, rfl⟩

/-- The line only sees that it is emptied and that a frame is sent. -/
theorem RequestEffect.exists_line_eq {σ : Type} [Line σ] {poller : Poller σ} {choice : Choice}
    {result : Except Fault Tick × Poller σ} (effect : RequestEffect choice poller result) :
    ∃ frame, result.2.line = (Line.send (Line.discardAll poller.line).line frame).line := by
  cases effect <;> exact ⟨_, rfl⟩

theorem UnlockEffect.overruns_le {result : Except Fault Unit × Poller Meter}
    (effect : poller.UnlockEffect result) :
    poller.line.queue.overruns ≤ result.2.line.queue.overruns := by
  obtain ⟨frame, line⟩ := effect.exists_line_eq
  rw [line]
  exact poller.line.overruns_le_send frame

/-- A request never brings lost bytes back. -/
theorem RequestEffect.overruns_le {choice : Choice} {result : Except Fault Tick × Poller Meter}
    (effect : RequestEffect choice poller result) :
    poller.line.queue.overruns ≤ result.2.line.queue.overruns := by
  obtain ⟨frame, line⟩ := effect.exists_line_eq
  rw [line]
  exact (Line.discardAll poller.line).line.overruns_le_send frame

theorem overruns_le_act (poller : Poller Meter) :
    poller.line.queue.overruns ≤ poller.act.2.line.queue.overruns := by
  have chosen : poller.line.queue.overruns ≤ poller.choose.2.line.queue.overruns := by
    have effect := poller.chooseEffect
    generalize poller.choose = choice at effect ⊢
    cases effect <;> exact Nat.le_refl _
  refine Nat.le_trans chosen ?_
  have effect := poller.actEffect
  generalize poller.act = result at effect ⊢
  generalize poller.choose = choice at effect ⊢
  cases effect with
  | unlocked log onward due effect => exact effect.overruns_le
  | unlockFailed log fault onward due effect => exact effect.overruns_le
  | asked result undue effect => exact effect.overruns_le

theorem overruns_le_slowTick (poller : Poller Meter) :
    poller.line.queue.overruns ≤ poller.slowTick.2.line.queue.overruns := by
  rw [← poller.overruns_collect, poller.slowTick_eq]
  split_ifs
  · exact poller.looked.overruns_le_act
  · exact Nat.le_refl _

theorem overruns_le_start (poller : Poller Meter) :
    poller.line.queue.overruns ≤ poller.start.2.line.queue.overruns := by
  have effect := poller.startEffect
  generalize poller.start = result at effect ⊢
  cases effect with
  | plain => exact Nat.le_refl _
  | unlocking before after result asked effect => exact effect.overruns_le

/-- A calibration loses no bytes. -/
theorem CalibrationEffect.overruns_eq {result : Except Fault Unit × Poller Meter}
    (effect : poller.CalibrationEffect result) :
    result.2.line.queue.overruns = poller.line.queue.overruns := by
  cases effect <;> rfl

theorem overruns_le_perform (poller : Poller Meter) (move : Move Handling) :
    poller.line.queue.overruns ≤ (poller.perform Handling.apply move).line.queue.overruns := by
  cases move with
  | start => exact poller.overruns_le_start
  | slowTick => exact poller.overruns_le_slowTick
  | fastTick => exact Nat.le_of_eq poller.overruns_collect.symm
  | setScale quantity scale =>
      exact Nat.le_of_eq (poller.setScale_effect quantity scale).overruns_eq.symm
  | setConversion quantity conversion =>
      exact Nat.le_of_eq (poller.setConversion_effect quantity conversion).overruns_eq.symm
  | line handling =>
      change _ ≤ (handling.apply poller.line).line.queue.overruns
      rw [handling.queue_apply]
      exact Nat.le_add_right _ _

/-- What a run has lost at one moment it has lost at the end. -/
theorem overruns_le_run (poller : Poller Meter) (moves : List (Move Handling)) :
    poller.line.queue.overruns ≤ (poller.run Handling.apply moves).line.queue.overruns := by
  induction moves generalizing poller with
  | nil => exact Nat.le_refl _
  | cons move rest ih => exact Nat.le_trans (poller.overruns_le_perform move) (ih _)

end Poller

end MeterPoll
