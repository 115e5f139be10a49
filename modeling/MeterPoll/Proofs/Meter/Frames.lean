import Mathlib.Tactic.Common
import Mathlib.Tactic.IntervalCases
import MeterPoll.Proofs.Meter.Answers
import MeterPoll.Table

/-!
# Frames on their way to a meter

A meter that is between two frames takes in the bytes of the next one without doing anything until
the frame is complete, does what the frame says, and is between two frames again
(`Meter.line_send`). This holds of every frame that spells a command (`Command.Spells`): of unlock
frames with any key (`Command.spells_unlock`) and of requests for any register but the one through
which writes are unlocked (`Command.spells_request`).
-/

namespace MeterPoll

namespace Register

/-- A request keeps the address of a register that can be polled. -/
theorem Sound.readAddress {register : Register} (sound : register.Sound) :
    Frame.readAddress register.address = register.address := by
  have clear : register.address &&& 0x80 = 0 := by simpa [hasWriteBit] using sound.1
  calc register.address &&& 0x7F
    _ = (register.address &&& 0x7F) ||| (register.address &&& 0x80) := by
      rw [clear, UInt8.or_zero]
    _ = register.address &&& (0x7F ||| 0x80) :=
      (UInt8.toBitVec_inj.mp BitVec.and_or_distrib_left).symm
    _ = register.address := UInt8.and_neg_one

end Register

namespace Command

/-- The frame is one command, and none of its beginnings is anything but the start of a frame. -/
structure Spells (command : Command) (frame : List UInt8) : Prop where
  whole : scan frame = ([command], [])
  part : ∀ count < frame.length, scan (frame.take count) = ([], frame.take count)

/-- The unlock frame is the unlock command, with any key. -/
theorem spells_unlock (key : UInt8) :
    unlock.Spells (Frame.unlock Frame.unlockRegister key) where
  whole := rfl
  part count short := by
    change count < 6 at short
    interval_cases count <;> rfl

/-- A request is the command to read its register, unless it names the one for unlocking. -/
theorem spells_request {address : UInt8}
    (other : Frame.readAddress address ≠ Frame.unlockRegister) :
    (read (Frame.readAddress address)).Spells (Frame.request address) where
  whole := by
    have same : Frame.readAddress (Frame.readAddress address) = Frame.readAddress address := by
      unfold Frame.readAddress
      rw [UInt8.and_assoc]
      rfl
    simp only [Frame.request, scan, ne_eq, not_true_eq_false, if_false, other, same]
  part count short := by
    change count < 2 at short
    interval_cases count <;> rfl

end Command

namespace Meter

/-- A meter takes every frame. -/
theorem answer_send (meter : Meter) (frame : List UInt8) :
    (Line.send meter frame).answer = .ok () := by
  change (sendEach Line.sendByte meter frame).answer = .ok ()
  induction frame generalizing meter with
  | nil => rfl
  | cons byte rest ih => exact ih (meter.receive byte).line

variable {meter : Meter} {command : Command} {frame : List UInt8}

/-- What is left of a frame of which a meter has taken in the start completes it. -/
theorem line_send_rest (spells : command.Spells frame) {part rest : List UInt8}
    (split : frame = part ++ rest) (more : rest ≠ []) (started : meter.inbox = part) :
    (Line.send meter rest).line =
      (obey { meter with inbox := [], sent := rest.reverse ++ meter.sent } command).line := by
  induction rest generalizing part meter with
  | nil => exact absurd rfl more
  | cons byte rest ih =>
      have onward : (Line.send meter (byte :: rest)).line =
          (Line.send (meter.receive byte).line rest).line := rfl
      rw [onward]
      cases rest with
      | nil =>
          have whole := spells.whole
          rw [split] at whole
          change (meter.receive byte).line = _
          unfold receive
          rw [started, whole]
          rfl
      | cons next others =>
          rw [List.append_cons] at split
          have beginning : frame.take (part ++ [byte]).length = part ++ [byte] := by
            rw [split, List.take_left]
          have short : (part ++ [byte]).length < frame.length := by
            rw [split]
            simp only [List.length_append, List.length_cons]
            omega
          have scanned := spells.part _ short
          rw [beginning] at scanned
          have received : (meter.receive byte).line =
              { meter with sent := byte :: meter.sent, inbox := part ++ [byte] } := by
            unfold receive
            rw [started, scanned]
            rfl
          rw [received, ih split (List.cons_ne_nil _ _) rfl]
          simp only [List.reverse_cons, List.append_assoc, List.cons_append, List.nil_append]

/-- A meter that is between two frames does what the next one says. -/
theorem line_send (spells : command.Spells frame) (between : meter.inbox = []) :
    (Line.send meter frame).line =
      (obey { meter with sent := frame.reverse ++ meter.sent } command).line := by
  have some : frame ≠ [] := by
    rintro rfl
    have whole := spells.whole
    cases whole
  rw [line_send_rest spells (List.nil_append frame).symm some between]
  have same : ({ meter with inbox := [], sent := frame.reverse ++ meter.sent } : Meter) =
      { meter with sent := frame.reverse ++ meter.sent } := by
    rw [← between]
  rw [same]

end Meter

end MeterPoll
