import Mathlib.Tactic.Common
import MeterPoll.Proofs.Meter.Handling

/-!
# What a meter answers

The bytes with which a meter answers a frame (`Meter.answerTo`) depend on what the frame is for and
on the registers, modes and script of the meter, and not on its receive queue. If answers are
delivered at once they are pushed into the queue, otherwise the queue stays as it is, and nothing
else about the meter depends on the queue (`Meter.send_withQueue`).
-/

namespace MeterPoll

/-- The register that is asked for. -/
def Command.register? : Command → Option UInt8
  | read register => some register
  | unlock => none

namespace Meter

/-- The bytes with which a meter answers several commands. -/
def answers (meter : Meter) : List Command → List UInt8
  | [] => []
  | .unlock :: rest => meter.answers rest
  | .read register :: rest =>
    (meter.modeFor register).answer register (meter.registers register) ++
      answers { meter with script := meter.script.tail } rest

/-- The bytes with which a meter answers the bytes that are sent to it. -/
def answerTo (meter : Meter) : List UInt8 → List UInt8
  | [] => []
  | byte :: rest =>
    meter.answers (Command.scan (meter.inbox ++ [byte])).1 ++
      (meter.receive byte).line.answerTo rest

/-- What of an answer reaches the receive queue without being delivered by hand. -/
def atOnce (meter : Meter) (answer : List UInt8) : List UInt8 :=
  if meter.immediate then answer else []

/-- Two answers reach the queue one after the other. -/
theorem atOnce_append (meter : Meter) (first second : List UInt8) :
    meter.atOnce (first ++ second) = meter.atOnce first ++ meter.atOnce second := by
  unfold atOnce
  split_ifs
  · rfl
  · rfl

/-- The answers depend on the registers, the modes and the script alone. -/
theorem answers_congr (first second : Meter) (registers : first.registers = second.registers)
    (modes : first.modes = second.modes) (script : first.script = second.script)
    (commands : List Command) : first.answers commands = second.answers commands := by
  induction commands generalizing first second with
  | nil => rfl
  | cons command rest ih =>
      cases command with
      | unlock => exact ih first second registers modes script
      | read register =>
          have later := ih { first with script := first.script.tail }
            { second with script := second.script.tail } registers modes
            (congrArg List.tail script)
          simp only [answers, modeFor, registers, modes, script] at later ⊢
          rw [later]

/-- A read request takes a mode off the script, and its answer arrives or waits. -/
theorem line_obey_read (meter : Meter) (register : UInt8) :
    (meter.obey (.read register)).line = { meter with
      requests := register :: meter.requests
      script := meter.script.tail
      queue := meter.queue.push (meter.atOnce (meter.answers [.read register]))
      pending := meter.pending ++
        if meter.immediate then [] else meter.answers [.read register] } := by
  simp only [obey, answers, atOnce, List.append_nil]
  split_ifs
  · simp only [inject, List.append_nil]
  · simp only [Queue.push_nil]

theorem immediate_obey (meter : Meter) (command : Command) :
    (meter.obey command).line.immediate = meter.immediate := by
  cases command with
  | unlock => rfl
  | read register => rw [line_obey_read]

theorem inbox_obey (meter : Meter) (command : Command) :
    (meter.obey command).line.inbox = meter.inbox := by
  cases command with
  | unlock => rfl
  | read register => rw [line_obey_read]

/-- The first command is answered before the rest, by the meter as it was. -/
theorem answers_cons (meter : Meter) (command : Command) (rest : List Command) :
    meter.answers (command :: rest) =
      meter.answers [command] ++ (meter.obey command).line.answers rest := by
  cases command with
  | unlock => exact answers_congr meter (meter.obey .unlock).line rfl rfl rfl rest
  | read register =>
      have later : answers { meter with script := meter.script.tail } rest =
          (meter.obey (.read register)).line.answers rest := by
        rw [line_obey_read]
        apply answers_congr
        · rfl
        · rfl
        · rfl
      simp only [answers, List.append_nil, later]

/-- A command does the same whatever is queued, and its answer goes behind that. -/
theorem obey_withQueue (meter : Meter) (queue : Queue) (command : Command) :
    (obey { meter with queue } command).line =
      { (meter.obey command).line with
        queue := queue.push (meter.atOnce (meter.answers [command])) } := by
  cases command with
  | unlock =>
      simp only [answers, atOnce, ite_self, Queue.push_nil]
      rfl
  | read register =>
      rw [line_obey_read, line_obey_read]
      rfl

/-- Many commands do the same whatever is queued. -/
theorem obeyAll_withQueue (meter : Meter) (queue : Queue) (commands : List Command) :
    (obeyAll { meter with queue } commands).line =
      { (meter.obeyAll commands).line with
        queue := queue.push (meter.atOnce (meter.answers commands)) } := by
  induction commands generalizing meter queue with
  | nil =>
      simp only [answers, atOnce, ite_self, Queue.push_nil]
      rfl
  | cons command rest ih =>
      have kept : (meter.obey command).line.atOnce = meter.atOnce := by
        unfold atOnce
        rw [immediate_obey]
      calc (obeyAll (obey { meter with queue } command).line rest).line
        _ = (obeyAll { (meter.obey command).line with
              queue := queue.push (meter.atOnce (meter.answers [command])) } rest).line := by
          rw [obey_withQueue]
        _ = { (meter.obeyAll (command :: rest)).line with
              queue := (queue.push (meter.atOnce (meter.answers [command]))).push
                (meter.atOnce ((meter.obey command).line.answers rest)) } := by
          rw [ih, kept]
          rfl
        _ = _ := by
          rw [meter.answers_cons command rest, atOnce_append, Queue.push_append]

theorem immediate_obeyAll (meter : Meter) (commands : List Command) :
    (meter.obeyAll commands).line.immediate = meter.immediate := by
  induction commands generalizing meter with
  | nil => rfl
  | cons command rest ih => exact (ih _).trans (meter.immediate_obey command)

theorem immediate_receive (meter : Meter) (byte : UInt8) :
    (meter.receive byte).line.immediate = meter.immediate :=
  immediate_obeyAll _ _

/-- A received byte does the same whatever is queued. -/
theorem receive_withQueue (meter : Meter) (queue : Queue) (byte : UInt8) :
    (receive { meter with queue } byte).line =
      { (meter.receive byte).line with
        queue := queue.push (meter.atOnce
          (meter.answers (Command.scan (meter.inbox ++ [byte])).1)) } := by
  let filed : Meter := { meter with
    sent := byte :: meter.sent
    inbox := (Command.scan (meter.inbox ++ [byte])).2 }
  have same := answers_congr filed meter rfl rfl rfl (Command.scan (meter.inbox ++ [byte])).1
  have obeyed := filed.obeyAll_withQueue queue (Command.scan (meter.inbox ++ [byte])).1
  rw [same] at obeyed
  exact obeyed

/-- A meter does the same on a frame whatever its receive queue holds, and adds its answer. -/
theorem send_withQueue (meter : Meter) (queue : Queue) (frame : List UInt8) :
    (Line.send { meter with queue } frame).line =
      { (Line.send meter frame).line with
        queue := queue.push (meter.atOnce (meter.answerTo frame)) } := by
  induction frame generalizing meter queue with
  | nil =>
      simp only [answerTo, atOnce, ite_self, Queue.push_nil]
      rfl
  | cons byte rest ih =>
      have kept : (meter.receive byte).line.atOnce = meter.atOnce := by
        unfold atOnce
        rw [immediate_receive]
      calc (Line.send (receive { meter with queue } byte).line rest).line
        _ = { (Line.send (meter.receive byte).line rest).line with
              queue := (queue.push (meter.atOnce
                (meter.answers (Command.scan (meter.inbox ++ [byte])).1))).push
                (meter.atOnce ((meter.receive byte).line.answerTo rest)) } := by
          rw [receive_withQueue, ih, kept]
        _ = _ := by
          rw [answerTo, atOnce_append, Queue.push_append]
          rfl

theorem immediate_send (meter : Meter) (frame : List UInt8) :
    (Line.send meter frame).line.immediate = meter.immediate := by
  change (sendEach Line.sendByte meter frame).line.immediate = meter.immediate
  induction frame generalizing meter with
  | nil => rfl
  | cons byte rest ih => exact (ih _).trans (meter.immediate_receive byte)

/-- Discarding everything clears the receive queue. -/
theorem discardAll_eq (meter : Meter) :
    Line.discardAll meter =
      ⟨meter.queue.length, { meter with queue := meter.queue.clear }, []⟩ := by
  have cleared : meter.queue.consume meter.queue.length = meter.queue.clear :=
    Queue.ext List.drop_length rfl rfl
  change (⟨_, { meter with queue := meter.queue.consume meter.queue.length }, _⟩ :
    Served Meter Nat) = _
  rw [cleared]

/-- There is nothing left to discard a second time. -/
theorem line_discardAll_discardAll (meter : Meter) :
    (Line.discardAll (Line.discardAll meter).line).line = (Line.discardAll meter).line := by
  rw [discardAll_eq, discardAll_eq]
  rfl

end Meter

end MeterPoll
