import Mathlib.Algebra.GroupWithZero.Nat
import MeterPoll.Proofs.Poller.FastTicks

/-!
# Answers that arrive in pieces

Nobody can tell how an answer was cut on its way. The receive queue stores and loses the same bytes
whether they arrive at once or in two pieces, a meter that delivers its answer in pieces ends up
like one that delivers it at once (`Meter.deliverEach_eq`), and a poller that looks in between as
often as it likes is the same after its next look, as long as nothing is lost
(`Poller.arrivals_unobservable`).
-/

namespace MeterPoll

namespace Queue

/-- What finds no room comes from the first bytes or from those that follow them. -/
theorem excess_append (queue : Queue) (first second : List UInt8) :
    queue.excess (first ++ second) = queue.excess first + (queue.push first).excess second := by
  unfold excess
  rw [room_push, List.length_append]
  omega

/-- Pieces are stored as far as the whole is. -/
theorem storable_append (queue : Queue) (first second : List UInt8) :
    queue.storable (first ++ second) =
      queue.storable first + (queue.push first).storable second := by
  unfold storable
  rw [room_push, List.length_append]
  omega

end Queue

namespace Meter

/-- Delivers waiting bytes in pieces of these sizes. -/
def deliverEach (meter : Meter) (counts : List Nat) : Meter :=
  counts.foldl (fun between count => (between.deliverBytes count).line) meter

/-- Two deliveries are one. -/
theorem line_deliverBytes_add (meter : Meter) (first second : Nat) :
    (meter.deliverBytes (first + second)).line =
      ((meter.deliverBytes first).line.deliverBytes second).line := by
  unfold deliverBytes inject
  simp only [List.take_add, Queue.push_append, List.drop_drop]

/-- A delivery of no bytes changes nothing. -/
theorem line_deliverBytes_zero (meter : Meter) : (meter.deliverBytes 0).line = meter := by
  unfold deliverBytes inject
  simp only [List.take_zero, Queue.push_nil, List.drop_zero]

/-- Deliveries one after the other are one of all their bytes. -/
theorem deliverEach_eq (meter : Meter) (counts : List Nat) :
    meter.deliverEach counts = (meter.deliverBytes counts.sum).line := by
  induction counts generalizing meter with
  | nil => exact meter.line_deliverBytes_zero.symm
  | cons count rest ih =>
      calc deliverEach (meter.deliverBytes count).line rest
        _ = ((meter.deliverBytes count).line.deliverBytes rest.sum).line := ih _
        _ = (meter.deliverBytes (count :: rest).sum).line := by
          rw [List.sum_cons, line_deliverBytes_add]

/-- Everything that waits is delivered by a delivery of as much, or of more. -/
theorem deliver_eq (meter : Meter) {count : Nat} (all : meter.pending.length ≤ count) :
    meter.deliver = meter.deliverBytes count := by
  unfold deliver deliverBytes
  rw [List.take_length, List.drop_length, List.take_of_length_le all, List.drop_of_length_le all]

end Meter

namespace Poller

/-- What happens while an answer arrives: some of its bytes come, or the poller looks for it. -/
inductive Arrival where
  | piece (count : Nat)
  | look
  deriving DecidableEq, Repr

namespace Arrival

def move : Arrival → Move Handling
  | piece count => .line (.deliverBytes count)
  | look => .fastTick

def count : Arrival → Nat
  | piece count => count
  | look => 0

/-- How many bytes come. -/
def total (arrivals : List Arrival) : Nat :=
  (arrivals.map count).sum

theorem total_cons (arrival : Arrival) (rest : List Arrival) :
    total (arrival :: rest) = arrival.count + total rest :=
  List.sum_cons

end Arrival

variable {poller : Poller Meter} {first second : Nat}

/-- The receive queue has room for so many bytes of the waiting answer. -/
def Roomy (poller : Poller Meter) (count : Nat) : Prop :=
  poller.line.queue.excess (poller.line.pending.take count) = 0

/-- The poller after a delivery. -/
def delivered (poller : Poller Meter) (count : Nat) : Poller Meter :=
  poller.perform Handling.apply (.line (.deliverBytes count))

/-- A delivery for which there is room changes the meter and nothing else: no loss is logged. -/
theorem delivered_of_roomy {count : Nat} (roomy : poller.Roomy count) :
    poller.delivered count = { poller with line := (poller.line.deliverBytes count).line } := by
  have silent : (poller.line.deliverBytes count).events = [] :=
    Queue.pushEvents_of_fits roomy
  change poller.goOn (poller.line.deliverBytes count) = _
  unfold goOn
  rw [silent]
  rfl

/-- Where there is room for two deliveries at once there is room for one after the other. -/
theorem Roomy.split (roomy : poller.Roomy (first + second)) :
    poller.Roomy first ∧ (poller.delivered first).Roomy second := by
  unfold Roomy at roomy
  rw [List.take_add, Queue.excess_append] at roomy
  exact Nat.add_eq_zero_iff.mp roomy

/-- Two deliveries for which there is room are one. -/
theorem delivered_delivered (roomy : poller.Roomy (first + second)) :
    (poller.delivered first).delivered second = poller.delivered (first + second) := by
  obtain ⟨sooner, later⟩ := roomy.split
  rw [delivered_of_roomy later, delivered_of_roomy sooner, delivered_of_roomy roomy,
    Meter.line_deliverBytes_add]

/-- A look only makes room. -/
theorem Roomy.collect {count : Nat} (roomy : poller.Roomy count) :
    poller.collect.2.Roomy count := by
  have effect := poller.collectEffect
  generalize poller.collect = result at effect ⊢
  cases effect with
  | idle => exact roomy
  | waiting => exact roomy
  | accepted => exact Queue.excess_consume roomy _
  | rejected => exact Queue.excess_consume roomy _

/-- A delivery of no bytes leaves the poller as it is. -/
theorem delivered_zero (poller : Poller Meter) : poller.delivered 0 = poller := by
  have roomy : poller.Roomy 0 := Nat.zero_sub _
  rw [delivered_of_roomy roomy, Meter.line_deliverBytes_zero]

/-- Pieces with looks between them come to one delivery, but for a look. -/
theorem Roomy.run {arrivals : List Arrival}
    (roomy : poller.Roomy (Arrival.total arrivals)) :
    (poller.run Handling.apply (arrivals.map Arrival.move)).Alike
      (poller.delivered (Arrival.total arrivals)) := by
  -- A look is moved behind the deliveries that follow it, where the last look makes up for it.
  induction arrivals generalizing poller with
  | nil => exact congrArg (·.collect.2) poller.delivered_zero.symm
  | cons arrival rest ih =>
      rw [Arrival.total_cons] at roomy ⊢
      cases arrival with
      | piece count =>
          rw [← delivered_delivered roomy]
          exact ih roomy.split.2
      | look =>
          rw [Arrival.count, Nat.zero_add] at roomy ⊢
          exact (ih roomy.collect).trans (collect_perform roomy)

/-- **Nobody can tell how an answer was cut.** The receive queue stores and loses the same bytes in
two pieces as in one, and a meter that delivers its answer in pieces ends up like one that delivers
as much at once. If one delivery loses nothing, a poller that looks any number of times while the
pieces arrive is the same after one more look as after one delivery and one look. -/
theorem arrivals_unobservable :
    (∀ (queue : Queue) (first second : List UInt8),
      queue.push (first ++ second) = (queue.push first).push second ∧
        queue.storable (first ++ second) =
          queue.storable first + (queue.push first).storable second) ∧
    (∀ (meter : Meter) (counts : List Nat),
      meter.deliverEach counts = (meter.deliverBytes counts.sum).line) ∧
    (∀ (meter : Meter) (count : Nat), meter.pending.length ≤ count →
      meter.deliver = meter.deliverBytes count) ∧
    ∀ (poller : Poller Meter) (arrivals : List Arrival) (total : Nat),
      total = Arrival.total arrivals →
      (poller.line.deliverBytes total).line.queue.overruns = poller.line.queue.overruns →
      (poller.run Handling.apply (arrivals.map Arrival.move)).fastTick.2 =
        (poller.perform Handling.apply (.line (.deliverBytes total))).fastTick.2 := by
  refine ⟨?_, Meter.deliverEach_eq, ?_, ?_⟩
  · intro queue first second
    exact ⟨queue.push_append first second, queue.storable_append first second⟩
  · intro meter count all
    exact meter.deliver_eq all
  · rintro poller arrivals total rfl lossless
    have roomy : poller.Roomy (Arrival.total arrivals) := Nat.add_eq_left.mp lossless
    exact roomy.run

/-- A reply that comes in three pieces, and is looked for before, between and after them. -/
theorem arrivals_unobservable_reference :
    let asked := (new Meter.reference.withManualDelivery .reference .standard).slowTick.2
    let arrivals := [.look, .piece 1, .look, .look, .piece 2, .piece 1, .look]
    (asked.line.deliverBytes 4).line.queue.overruns = asked.line.queue.overruns ∧
      (asked.run Handling.apply (arrivals.map Arrival.move)).fastTick.2 =
        (asked.perform Handling.apply (.line (.deliverBytes 4))).fastTick.2 ∧
      (asked.perform Handling.apply (.line (.deliverBytes 4))).fastTick.2.progress.counters.good =
        1 := by
  intro asked arrivals
  have lossless : (asked.line.deliverBytes 4).line.queue.overruns = asked.line.queue.overruns := by
    decide
  exact ⟨lossless, arrivals_unobservable.2.2.2 asked arrivals 4 rfl lossless, by decide⟩

end Poller

end MeterPoll
