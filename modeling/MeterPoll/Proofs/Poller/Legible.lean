import MeterPoll.Proofs.Meter.Frames
import MeterPoll.Proofs.Poller.Run

/-!
# Frames that a meter can tell apart

A meter knows unlock frames by their register. If the poller sends them for that register and never
asks for it, and the meter is between two frames (`Poller.Legible`), the meter takes every request
for a request (`Poller.Legible.line_request`) and every unlock frame for an unlock frame
(`Poller.Legible.line_unlock`), and is between two frames again after every tick.
-/

namespace MeterPoll

namespace Poller

/-- A meter can tell the frames of the poller apart, and is between two of them. -/
structure Legible (poller : Poller Meter) : Prop where
  between : poller.line.inbox = []
  unlocks : poller.options.unlock.register = Frame.unlockRegister
  reads : Frame.unlockRegister ∉ poller.table.addresses

namespace Legible

variable {poller after : Poller Meter}

theorem same (legible : poller.Legible) (between : after.line.inbox = poller.line.inbox)
    (options : after.options = poller.options)
    (addresses : after.table.addresses = poller.table.addresses) : after.Legible where
  between := between.trans legible.between
  unlocks := by rw [options, legible.unlocks]
  reads := by rw [addresses]; exact legible.reads

/-- A request spells the command to read its register. -/
theorem request_eq (legible : poller.Legible) :
    Frame.request poller.register.address = [Frame.head, poller.register.address] ∧
      (Command.read poller.register.address).Spells (Frame.request poller.register.address) := by
  have member : poller.register ∈ poller.table.entries := List.get_mem ..
  have address := (poller.table.sound _ member).readAddress
  have other : Frame.readAddress poller.register.address ≠ Frame.unlockRegister := by
    rw [address]
    intro same
    exact legible.reads (List.mem_map.mpr ⟨_, member, same⟩)
  have spells := Command.spells_request other
  rw [address] at spells
  exact ⟨congrArg ([Frame.head, ·]) address, spells⟩

/-- Sending a request, with everything received thrown away first. -/
theorem line_request (legible : poller.Legible) :
    let meter : Meter := { poller.line with
      queue := poller.line.queue.clear
      sent := (Frame.request poller.register.address).reverse ++ poller.line.sent }
    (Line.send (Line.discardAll poller.line).line (Frame.request poller.register.address)).line =
      (meter.obey (.read poller.register.address)).line := by
  have between : (Line.discardAll poller.line).line.inbox = [] := legible.between
  rw [Meter.line_send legible.request_eq.2 between, Meter.discardAll_eq]

/-- An unlock frame spells the command to unlock and leaves the meter between two frames. -/
theorem line_unlock (legible : poller.Legible) :
    let frame := Frame.unlock poller.options.unlock.register poller.options.unlock.key
    (Line.send poller.line frame).line = { poller.line with
      sent := frame.reverse ++ poller.line.sent
      unlocks := poller.line.unlocks + 1 } := by
  have spells := Command.spells_unlock poller.options.unlock.key
  rw [← legible.unlocks] at spells
  exact Meter.line_send spells legible.between

theorem collect (legible : poller.Legible) : poller.collect.2.Legible := by
  have effect := poller.collectEffect
  generalize poller.collect = result at effect ⊢
  cases effect <;> exact legible.same rfl rfl rfl

theorem looked (legible : poller.Legible) : poller.looked.Legible :=
  legible.collect.same rfl rfl rfl

theorem choose (legible : poller.Legible) : poller.choose.2.Legible := by
  have effect := poller.chooseEffect
  generalize poller.choose = result at effect ⊢
  cases effect <;> exact legible.same rfl rfl rfl

/-- An unlock frame is taken, and leaves the meter between two frames. -/
theorem unlock (legible : poller.Legible) {result : Except Fault Unit × Poller Meter}
    (effect : poller.UnlockEffect result) : result.1 = .ok () ∧ result.2.Legible := by
  cases effect with
  | unsent fault log refused =>
      rw [Meter.answer_send] at refused
      cases refused
  | sent log =>
      refine ⟨rfl, legible.same ?_ rfl rfl⟩
      rw [legible.line_unlock]

/-- Polling starts between two frames, with or without an unlock frame. -/
theorem start (legible : poller.Legible) : poller.start.2.Legible := by
  have effect := poller.startEffect
  generalize poller.start = result at effect ⊢
  cases effect with
  | plain => exact legible.same rfl rfl rfl
  | unlocking before after result asked effect =>
      have emptied : (poller.emptied before).Legible := legible.same rfl rfl rfl
      exact (emptied.unlock effect).2.same rfl rfl rfl

/-- A request is taken, and leaves the meter between two frames. -/
theorem request (legible : poller.Legible) {choice : Choice}
    {result : Except Fault Tick × Poller Meter} (effect : RequestEffect choice poller result) :
    result.1 = .ok (.requested poller.register.address choice.retry choice.abandoned) ∧
      result.2.Legible := by
  cases effect with
  | unsent fault log refused =>
      rw [Meter.answer_send] at refused
      cases refused
  | sent log =>
      refine ⟨rfl, legible.same ?_ rfl rfl⟩
      rw [legible.line_request, Meter.inbox_obey]

/-- A turn leaves the meter between two frames, whatever it sends. -/
theorem act (legible : poller.Legible) : poller.act.2.Legible := by
  have chosen := legible.choose
  have effect := poller.actEffect
  generalize poller.act = result at effect ⊢
  generalize poller.choose = choice at effect chosen
  have held (log : List Event) :
      ({ choice.2.emptied log with resume := true } : Poller Meter).Legible :=
    chosen.same rfl rfl rfl
  cases effect with
  | unlocked log onward due effect => exact ((held log).unlock effect).2
  | unlockFailed log fault onward due effect => exact ((held log).unlock effect).2
  | asked result undue effect =>
      have free : ({ choice.2 with resume := false } : Poller Meter).Legible :=
        chosen.same rfl rfl rfl
      exact (free.request effect).2

/-- A tick leaves the meter between two frames. -/
theorem slowTick (legible : poller.Legible) : poller.slowTick.2.Legible := by
  rw [slowTick_eq]
  split_ifs
  · exact legible.looked.act
  · exact legible.looked

end Legible

end Poller

end MeterPoll
