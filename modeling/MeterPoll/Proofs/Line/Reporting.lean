import Mathlib.Algebra.GroupWithZero.Nat
import MeterPoll.Proofs.Bench.Journal
import MeterPoll.Proofs.Event.Shown

/-!
# Lines that report their losses

A line may log on its own. One that logs the bytes it loses and nothing else (`Line.Reporting`) can
be held against its log: the losses in the fields of the logged events are the losses it counts. A
simulated meter on faulty wires is such a line, whatever is done to it (`Bench.reporting`,
`Bench.Access.reports`).
-/

namespace MeterPoll

variable {σ α β : Type}

/-- The operation on `line` logged nothing but the bytes that it lost, and all of these. -/
structure Served.Reports (lost : σ → Nat) (line : σ) (served : Served σ α) : Prop where
  kind : ∀ event ∈ served.events, event.kind = .overrun
  lost : lost served.line = lost line + (served.events.map Event.dropped).sum

namespace Served.Reports

variable {lost : σ → Nat} {line : σ}

/-- An operation that logs nothing and loses nothing. -/
theorem quiet {answer : α} {onward : σ} (same : lost onward = lost line) :
    (⟨answer, onward, []⟩ : Served σ α).Reports lost line where
  kind := by simp
  lost := by simpa using same

/-- One operation after another. -/
theorem append {first : Served σ α} {second : Served σ β} (before : first.Reports lost line)
    (after : second.Reports lost first.line) :
    (⟨second.answer, second.line, first.events ++ second.events⟩ : Served σ β).Reports lost
      line where
  kind event member := (List.mem_append.mp member).elim (before.kind event) (after.kind event)
  lost := by
    rw [after.lost, before.lost, List.map_append, List.sum_append, Nat.add_assoc]

/-- A frame sent byte by byte reports what its bytes report. -/
theorem sendEach {sendByte : σ → UInt8 → Served σ (Except Fault Unit)}
    (reports : ∀ line byte, (sendByte line byte).Reports lost line) (line : σ)
    (frame : List UInt8) : (sendEach sendByte line frame).Reports lost line := by
  induction frame generalizing line with
  | nil => exact .quiet rfl
  | cons byte rest ih =>
      have first := reports line byte
      simp only [MeterPoll.sendEach]
      cases answered : (sendByte line byte).answer with
      | error fault => exact ⟨first.kind, first.lost⟩
      | ok done => exact first.append (ih _)

end Served.Reports

/-- A line that logs the bytes that it lost and nothing else, whatever a poller does with it. -/
structure Line.Reporting [Line σ] (lost : σ → Nat) : Prop where
  send : ∀ line frame, (Line.send line frame).Reports lost line
  available : ∀ line, (Line.available line).Reports lost line
  discardAll : ∀ line, (Line.discardAll line).Reports lost line
  consume : ∀ line count, lost (Line.consume line count) = lost line

/-- A queue logs the arriving bytes that it has no room for. -/
theorem Queue.reports_push (queue : Queue) (arriving : List UInt8) :
    (⟨(), queue.push arriving, queue.pushEvents arriving⟩ : Served Queue Unit).Reports
      Queue.overruns queue := by
  by_cases fits : queue.excess arriving = 0
  · rw [Queue.pushEvents_of_fits fits]
    exact .quiet (by rw [Queue.overruns_push, fits, Nat.add_zero])
  · have logged : queue.pushEvents arriving =
      [.overrun (queue.excess arriving) queue.capacity] := if_neg fits
    rw [logged]
    exact ⟨by simp [Event.kind], by simp [Event.dropped_eq]⟩

namespace Meter

/-- A meter that injects bytes reports those its queue has no room for. -/
theorem reports_inject (meter : Meter) (bytes : List UInt8) :
    (meter.inject bytes).Reports (·.queue.overruns) meter :=
  have pushed := meter.queue.reports_push bytes
  ⟨pushed.kind, pushed.lost⟩

/-- A command makes the meter report the lost bytes of its answer. -/
theorem reports_obey (meter : Meter) (command : Command) :
    (meter.obey command).Reports (·.queue.overruns) meter := by
  cases command with
  | unlock => exact .quiet rfl
  | read register =>
      unfold obey
      split_ifs
      · have injected := reports_inject
          { meter with requests := register :: meter.requests, script := meter.script.tail }
          ((meter.modeFor register).answer register (meter.registers register))
        exact ⟨injected.kind, injected.lost⟩
      · exact .quiet rfl

/-- Many commands report what each of them does. -/
theorem reports_obeyAll (meter : Meter) (commands : List Command) :
    (meter.obeyAll commands).Reports (·.queue.overruns) meter := by
  induction commands generalizing meter with
  | nil => exact .quiet rfl
  | cons command rest ih => exact (meter.reports_obey command).append (ih _)

/-- A byte received by the meter reports what the completed commands do. -/
theorem reports_receive (meter : Meter) (byte : UInt8) :
    (meter.receive byte).Reports (·.queue.overruns) meter :=
  have obeyed := reports_obeyAll
    { meter with
      sent := byte :: meter.sent
      inbox := (Command.scan (meter.inbox ++ [byte])).2 }
    (Command.scan (meter.inbox ++ [byte])).1
  ⟨obeyed.kind, obeyed.lost⟩

end Meter

namespace Bench

/-- The received bytes that did not fit the queue. -/
def lost (bench : Bench) : Nat :=
  bench.meter.queue.overruns

/-- A byte that gets through the wires reports as the meter does. -/
theorem reports_pass (bench : Bench) (byte : UInt8) : (bench.pass byte).Reports lost bench :=
  have received := bench.meter.reports_receive byte
  ⟨received.kind, received.lost⟩

/-- A byte that the wires refuse reports nothing. -/
theorem reports_sendByte (bench : Bench) (byte : UInt8) :
    (Line.sendByte bench byte).Reports lost bench := by
  obtain ⟨meter, sendFailure, peekLimit⟩ := bench
  cases sendFailure with
  | none => exact reports_pass ⟨meter, none, peekLimit⟩ byte
  | some failure =>
      obtain ⟨after, fault⟩ := failure
      cases after with
      | zero => exact .quiet rfl
      | succ after =>
          have passed := reports_pass ⟨meter, some ⟨after, fault⟩, peekLimit⟩ byte
          exact ⟨passed.kind, passed.lost⟩

/-- A simulated meter on faulty wires logs its losses and nothing else. -/
theorem reporting : Line.Reporting lost where
  send := .sendEach reports_sendByte
  available _ := .quiet rfl
  discardAll _ := .quiet rfl
  consume _ _ := rfl

/-- Handling the meter or the wires reports the bytes that are lost by it. -/
theorem Handling.reports (handling : Handling) (bench : Bench) :
    (handling.apply bench).Reports lost bench := by
  cases handling with
  | meter handling =>
      have pushed := bench.meter.queue.reports_push (handling.arriving bench.meter)
      refine ⟨?_, ?_⟩
      · change ∀ event ∈ (handling.apply bench.meter).events, event.kind = .overrun
        rw [handling.events_apply]
        exact pushed.kind
      · change (handling.apply bench.meter).line.queue.overruns =
          _ + ((handling.apply bench.meter).events.map Event.dropped).sum
        rw [handling.events_apply, handling.queue_apply]
        exact pushed.lost
  | failSending failure => exact .quiet rfl
  | limitPeeks limit => exact .quiet rfl

/-- All that may happen on the wires while a poller is there: the meter is handled, and somebody
else uses the line. -/
inductive Access where
  | handle (handling : Handling)
  | sendByte (byte : UInt8)
  | send (bytes : List UInt8)
  | consume (count : Nat)
  | discardAll
  | clearHistory

def Access.apply : Access → Bench → Served Bench Unit
  | handle handling, bench => handling.apply bench
  | sendByte byte, bench =>
    let sent := Line.sendByte bench byte
    ⟨(), sent.line, sent.events⟩
  | send bytes, bench =>
    let sent := Line.send bench bytes
    ⟨(), sent.line, sent.events⟩
  | consume count, bench => ⟨(), Line.consume bench count, []⟩
  | discardAll, bench =>
    let discarded := Line.discardAll bench
    ⟨(), discarded.line, discarded.events⟩
  | clearHistory, bench => ⟨(), { bench with meter := bench.meter.clearHistory }, []⟩

/-- Everything else that may happen on the wires reports its losses as well. -/
theorem Access.reports (access : Access) (bench : Bench) :
    (access.apply bench).Reports lost bench := by
  cases access with
  | handle handling => exact handling.reports bench
  | sendByte byte =>
      have sent := bench.reports_sendByte byte
      exact ⟨sent.kind, sent.lost⟩
  | send bytes =>
      have sent := reporting.send bench bytes
      exact ⟨sent.kind, sent.lost⟩
  | consume count => exact .quiet rfl
  | discardAll => exact .quiet rfl
  | clearHistory => exact .quiet rfl

end Bench

end MeterPoll
