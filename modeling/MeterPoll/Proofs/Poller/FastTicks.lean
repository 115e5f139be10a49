import MeterPoll.Proofs.Poller.Looks

/-!
# Fast ticks

The collector may run as often as the host can. On a meter that makes no difference to the scheduler
as long as the receive queue loses nothing: two runs that differ in their fast ticks only are the
same to everyone who looks right after the ticks of the scheduler
(`Poller.scheduled_eq_of_retimed`). In between the two pollers are the same but for a reply that one
of them has taken already (`Poller.Alike`).
-/

namespace MeterPoll

variable {ε : Type}

/-- Lists of ticks and events that differ in their fast ticks only. -/
inductive Retimed : List (Move ε) → List (Move ε) → Prop
  | nil : Retimed [] []
  | fastLeft {first second : List (Move ε)} (rest : Retimed first second) :
      Retimed (.fastTick :: first) second
  | fastRight {first second : List (Move ε)} (rest : Retimed first second) :
      Retimed first (.fastTick :: second)
  | slowTick {first second : List (Move ε)} (rest : Retimed first second) :
      Retimed (.slowTick :: first) (.slowTick :: second)
  | line (event : ε) {first second : List (Move ε)} (rest : Retimed first second) :
      Retimed (.line event :: first) (.line event :: second)

/-- The moves but for the fast ticks. -/
def withoutFast : List (Move ε) → List (Move ε)
  | [] => []
  | .fastTick :: rest => withoutFast rest
  | move :: rest => move :: withoutFast rest

namespace Retimed

variable {first second : List (Move ε)}

/-- Retiming is symmetric. -/
theorem symm (retimed : Retimed first second) : Retimed second first := by
  induction retimed with
  | nil => exact .nil
  | fastLeft _ ih => exact .fastRight ih
  | fastRight _ ih => exact .fastLeft ih
  | slowTick _ ih => exact .slowTick ih
  | line event _ ih => exact .line event ih

/-- Such lists are the same without their fast ticks. -/
theorem withoutFast_eq (retimed : Retimed first second) :
    withoutFast first = withoutFast second := by
  induction retimed with
  | nil => rfl
  | fastLeft _ ih => exact ih
  | fastRight _ ih => exact ih
  | slowTick _ ih => exact congrArg (.slowTick :: ·) ih
  | line event _ ih => exact congrArg (.line event :: ·) ih

end Retimed

namespace Poller

/-- What each tick of the scheduler returned on a run, and the poller right after it. -/
def scheduled {σ : Type} [Line σ] (handle : ε → σ → Served σ Unit) (poller : Poller σ) :
    List (Move ε) → List (Except Fault Tick × Poller σ)
  | [] => []
  | .slowTick :: rest => poller.slowTick :: poller.slowTick.2.scheduled handle rest
  | move :: rest => (poller.perform handle move).scheduled handle rest

/-- The receive queue lost nothing on a run. -/
def Lossless (poller : Poller Meter) (moves : List (Move Handling)) : Prop :=
  (poller.run Handling.apply moves).line.queue.overruns = poller.line.queue.overruns

instance (poller : Poller Meter) (moves : List (Move Handling)) :
    Decidable (poller.Lossless moves) :=
  inferInstanceAs (Decidable (_ = _))

variable {poller other : Poller Meter} {handling : Handling}

/-- A run that loses nothing does so neither on its first move nor later. -/
theorem Lossless.cons {move : Move Handling} {rest : List (Move Handling)}
    (lossless : poller.Lossless (move :: rest)) :
    (poller.perform Handling.apply move).line.queue.overruns = poller.line.queue.overruns ∧
      (poller.perform Handling.apply move).Lossless rest := by
  have first := poller.overruns_le_perform move
  have others := (poller.perform Handling.apply move).overruns_le_run rest
  unfold Lossless at lossless ⊢
  change ((poller.perform Handling.apply move).run Handling.apply rest).line.queue.overruns =
    poller.line.queue.overruns at lossless
  constructor <;> omega

/-- What a run that loses nothing begins with finds room. -/
theorem Lossless.fits {rest : List (Move Handling)}
    (lossless : poller.Lossless (.line handling :: rest)) :
    poller.line.queue.excess (handling.arriving poller.line) = 0 := by
  have same := lossless.cons.1
  change (handling.apply poller.line).line.queue.overruns = _ at same
  rw [handling.queue_apply, Queue.overruns_push] at same
  exact Nat.add_eq_left.mp same

/-- Two pollers that are the same once they have looked for a reply. -/
def Alike (poller other : Poller Meter) : Prop :=
  poller.collect.2 = other.collect.2

/-- A poller is like itself after a look. -/
theorem Ahead.alike (ahead : poller.Ahead other) : poller.Alike other := by
  rcases ahead with rfl | rfl
  · rfl
  · exact poller.collect_collect.symm

/-- A tick of the scheduler, which looks first, makes like pollers the same. -/
theorem Alike.slowTick (alike : poller.Alike other) : poller.slowTick = other.slowTick :=
  calc poller.slowTick
    _ = poller.collect.2.slowTick := poller.slowTick_collect.symm
    _ = other.collect.2.slowTick := by rw [alike]
    _ = other.slowTick := other.slowTick_collect

/-- Like pollers stay so through an event for which both have room. -/
theorem Alike.line (alike : poller.Alike other)
    (fits : poller.line.queue.excess (handling.arriving poller.line) = 0)
    (otherFits : other.line.queue.excess (handling.arriving other.line) = 0) :
    (poller.perform Handling.apply (.line handling)).Alike
      (other.perform Handling.apply (.line handling)) :=
  calc (poller.perform Handling.apply (.line handling)).collect.2
    _ = (poller.collect.2.perform Handling.apply (.line handling)).collect.2 :=
      (collect_perform fits).symm
    _ = (other.collect.2.perform Handling.apply (.line handling)).collect.2 := by rw [alike]
    _ = (other.perform Handling.apply (.line handling)).collect.2 := collect_perform otherFits

variable {first second : List (Move Handling)}

/-- Like pollers are scheduled alike on retimed runs that lose nothing. -/
theorem Alike.scheduled (alike : poller.Alike other) (retimed : Retimed first second)
    (lossless : poller.Lossless first) (otherLossless : other.Lossless second) :
    poller.scheduled Handling.apply first = other.scheduled Handling.apply second := by
  -- The two pollers stay alike; a tick of the scheduler makes them the same.
  induction retimed generalizing poller other with
  | nil => rfl
  | fastLeft _ ih =>
      have looked : (poller.perform Handling.apply .fastTick).Alike other :=
        poller.collect_collect.trans alike
      exact ih looked lossless.cons.2 otherLossless
  | fastRight _ ih =>
      have looked : poller.Alike (other.perform Handling.apply .fastTick) :=
        alike.trans other.collect_collect.symm
      exact ih looked lossless otherLossless.cons.2
  | slowTick _ ih =>
      have same := alike.slowTick
      have onward : poller.slowTick.2.Alike other.slowTick.2 := by rw [same]; rfl
      have rest := ih onward lossless.cons.2 otherLossless.cons.2
      change poller.slowTick :: _ = other.slowTick :: _
      rw [rest, same]
  | line event _ ih =>
      exact ih (alike.line lossless.fits otherLossless.fits) lossless.cons.2 otherLossless.cons.2

/-- Looking for a reply loses nothing. -/
theorem Ahead.overruns_eq (ahead : poller.Ahead other) :
    other.line.queue.overruns = poller.line.queue.overruns := by
  rcases ahead with rfl | rfl
  · rfl
  · exact poller.overruns_collect

/-- A poller that looks once more is still ahead. -/
theorem Ahead.fastTick (ahead : poller.Ahead other) : poller.Ahead other.collect.2 := by
  rcases ahead with rfl | rfl
  · exact .inr rfl
  · exact .inr poller.collect_collect

/-- A poller stays ahead through an event for which the other one has room. -/
theorem Ahead.line (ahead : poller.Ahead other)
    (fits : poller.line.queue.excess (handling.arriving poller.line) = 0) :
    (poller.perform Handling.apply (.line handling)).Ahead
      (other.perform Handling.apply (.line handling)) := by
  rcases ahead with rfl | rfl
  · exact .inl rfl
  · exact ahead_perform fits

/-- A first move that loses nothing in front of a run that does not either. -/
theorem Lossless.of_cons {move : Move Handling} {rest : List (Move Handling)}
    (kept : (poller.perform Handling.apply move).line.queue.overruns = poller.line.queue.overruns)
    (lossless : (poller.perform Handling.apply move).Lossless rest) :
    poller.Lossless (move :: rest) :=
  lossless.trans kept

/-- Where nothing is lost without fast ticks nothing is lost with them, since a look only makes
room. -/
theorem Ahead.lossless (ahead : poller.Ahead other) (retimed : Retimed first second)
    (lossless : poller.Lossless (withoutFast first)) : other.Lossless first := by
  -- Here `poller` runs without fast ticks and `other` with them.
  induction retimed generalizing poller other with
  | nil => rfl
  | fastLeft _ ih => exact .of_cons other.overruns_collect (ih ahead.fastTick lossless)
  | fastRight _ ih => exact ih ahead lossless
  | slowTick _ ih =>
      obtain ⟨kept, rest⟩ := lossless.cons
      have same : (other.perform Handling.apply .slowTick) =
          poller.perform Handling.apply .slowTick :=
        congrArg Prod.snd ahead.alike.slowTick.symm
      refine .of_cons ?_ ?_
      · rw [same, kept, ahead.overruns_eq]
      · rw [same]
        exact ih (.inl rfl) rest
  | line event _ ih =>
      obtain ⟨kept, rest⟩ := lossless.cons
      have onward := ahead.line lossless.fits
      exact .of_cons (by rw [onward.overruns_eq, kept, ahead.overruns_eq]) (ih onward rest)

/-- **Fast ticks make no difference to the scheduler.** From any poller over a meter, two runs of
ticks and events that differ in their fast ticks only have the same outcome on every tick of the
scheduler and the same poller, with its whole meter, right after it, if the receive queue loses
nothing without fast ticks, or on neither of the two runs. -/
theorem scheduled_eq_of_retimed (poller : Poller Meter) {first second : List (Move Handling)}
    (retimed : Retimed first second)
    (lossless : poller.Lossless (withoutFast first) ∨
      poller.Lossless first ∧ poller.Lossless second) :
    poller.scheduled Handling.apply first = poller.scheduled Handling.apply second := by
  have itself : poller.Ahead poller := .inl rfl
  rcases lossless with plain | ⟨firstLossless, secondLossless⟩
  · have secondPlain : poller.Lossless (withoutFast second) := by
      rw [← retimed.withoutFast_eq]
      exact plain
    exact itself.alike.scheduled retimed (itself.lossless retimed plain)
      (itself.lossless retimed.symm secondPlain)
  · exact itself.alike.scheduled retimed firstLossless secondLossless

/-- A reply that comes in two pieces with noise behind it is taken by a fast tick or by the next
tick of the scheduler. -/
theorem scheduled_eq_reference :
    let poller := new Meter.reference.withManualDelivery .reference .standard
    poller.scheduled Handling.apply [.slowTick, .line (.deliverBytes 3), .fastTick, .line .deliver,
        .fastTick, .line (.inject [0xFF]), .slowTick] =
      poller.scheduled Handling.apply [.slowTick, .fastTick, .line (.deliverBytes 3),
        .line .deliver, .line (.inject [0xFF]), .slowTick] :=
  scheduled_eq_of_retimed _
    (.slowTick (.fastRight (.line _ (.fastLeft (.line _ (.fastLeft (.line _ (.slowTick .nil))))))))
    (.inl (by decide))

end Poller

end MeterPoll
