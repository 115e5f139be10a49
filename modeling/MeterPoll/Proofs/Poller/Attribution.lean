import MeterPoll.Proofs.Meter.Frames
import MeterPoll.Proofs.Meter.Handling
import MeterPoll.Proofs.Poller.Provenance
import MeterPoll.Proofs.Poller.Verdict
import MeterPoll.Proofs.Reply.Damage

/-!
# Replies of other registers

Replies do not say which register they are from, so a late reply may be in front of a poller that
has gone on to another register. The check byte tells the registers of a table apart, and it tells a
reply from the same reply with one byte changed. Such a reply is rejected and leaves every reading
as it is (`Poller.attribution_run`).
-/

namespace MeterPoll

namespace Register

/-- The registers of a table can be read. -/
theorem Sound.address_lt {register : Register} (sound : register.Sound) :
    register.address < 0x80 := by
  rw [← sound.readAddress, UInt8.lt_iff_toNat_lt, Frame.toNat_readAddress]
  exact Nat.mod_lt _ (by decide)

end Register

namespace Poller

variable {σ ε : Type} [Line σ]

/-- A reply with a wrong check byte is rejected, and no reading changes. -/
theorem Faces.rejected {poller : Poller σ} {reply : Reply} (faces : poller.Faces reply)
    (out : poller.progress.awaiting = true) (refused : reply.Refused poller.register.address) :
    ∃ mismatch, mismatch.expected ≠ mismatch.actual ∧
      poller.collect.1 = .rejected (.checksum poller.register.address mismatch) ∧
      poller.collect.2.readings = poller.readings := by
  obtain ⟨mismatch, wrong, different⟩ := refused
  have here : (poller.goOn (Line.available poller.line)).register = poller.register := rfl
  refine ⟨mismatch, different, ?_, ?_⟩
  · rw [faces.collect out, answer_settle]
    unfold Collected.ofReply
    rw [here, wrong]
  · rw [faces.collect out]
    unfold settle
    simp only [here, wrong]
    rfl

/-- **No reading from a reply of another register, nor from a damaged one.** A reply that is accepted
for a register is accepted for those with the same low 7 bits and no others, and not with any one of
its bytes changed. So on every run from the start, when the first bytes on the line are a reply that
was encoded for another register than the one that was asked last, or one that was changed in one
byte, the poller rejects it and keeps all its readings. -/
theorem attribution_run (handle : ε → σ → Served σ Unit) (line : σ) (table : Table)
    (options : Options) (moves : List (Move ε)) :
    (∀ first second (reply : Reply), reply.Accepted first →
      (reply.Accepted second ↔ first.toNat % 0x80 = second.toNat % 0x80)) ∧
    (∀ address (reply damaged : Reply), reply.Accepted address → reply.Damaged damaged →
      damaged.Refused address) ∧
    let poller := (new line table options).run handle moves
    let history := (new line table options).history handle moves
    poller.progress.awaiting = true →
      ∃ request earlier, history = .request request :: earlier ∧ request.fate = .out ∧
        request.register = poller.register.address ∧
        ∀ reply : Reply, poller.Faces reply → reply.Wrong request.register →
          ∃ mismatch, mismatch.expected ≠ mismatch.actual ∧
            poller.fastTick.1 = .rejected (.checksum request.register mismatch) ∧
            poller.fastTick.2.readings = poller.readings ∧
            poller.slowTick.2.readings = poller.readings := by
  refine ⟨fun _ _ _ => Reply.accepted_iff_of_accepted, fun _ _ _ valid damage =>
    damage.refused valid, ?_⟩
  intro poller history out
  have tracks : Tracks table options.atLeastOne poller history :=
    invariant_tracks.run handle moves _ _ (tracks_new line table options)
  obtain ⟨request, earlier, recorded, pending, register⟩ := tracks.exists_asked out
  refine ⟨request, earlier, recorded, pending, register, fun reply faces wrong => ?_⟩
  rw [register] at wrong ⊢
  have readable : poller.register.address < 0x80 :=
    (poller.table.sound _ (List.get_mem ..)).address_lt
  obtain ⟨mismatch, different, rejected, readings⟩ :=
    faces.rejected out (wrong.refused readable)
  exact ⟨mismatch, different, rejected, readings,
    poller.table_readings_slowTick.2.trans readings⟩

/-- The reply of the power register comes late, when the voltage is asked for. -/
theorem attribution_run_late :
    let late := Reply.encode 0x0A 73200
    let moves : List (Move Handling) := [.line (.setMode 0x08 (.raw late.toList)), .start, .slowTick]
    let poller := (new Meter.reference .reference .standard).run Handling.apply moves
    poller.progress.awaiting = true ∧ poller.Faces late ∧ late.Wrong 0x08 ∧
      ∃ mismatch, mismatch.expected ≠ mismatch.actual ∧
        poller.fastTick.1 = .rejected (.checksum 0x08 mismatch) ∧
        poller.fastTick.2.readings = poller.readings ∧
        poller.slowTick.2.readings = poller.readings := by
  intro late moves poller
  have out : poller.progress.awaiting = true := by decide +kernel
  have bytes : poller.line.queue.bytes = late.toList ++ [] := by decide +kernel
  have address : poller.register.address = 0x08 := by decide +kernel
  have wrong : late.Wrong 0x08 := .foreign 0x0A 73200 (by decide) (by decide)
  have rejects := (attribution_run Handling.apply Meter.reference .reference .standard moves).2.2
  -- From here on the state of the poller is not to be computed any more.
  have reached : (new Meter.reference .reference .standard).run Handling.apply moves = poller := rfl
  rw [reached] at rejects
  clear_value poller
  obtain ⟨request, earlier, recorded, _, register, rejected⟩ := rejects out
  rw [register, address] at rejected
  exact ⟨out, faces_of_bytes bytes, wrong, rejected late (faces_of_bytes bytes) wrong⟩

end Poller

end MeterPoll
