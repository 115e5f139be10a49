import Mathlib.Tactic.Common
import MeterPoll.Frame

/-!
# Replies that do not fit

The check byte of a reply covers the register that was asked for and the data. A reply that is
accepted for one register is accepted for exactly the registers with the same low 7 bits
(`Reply.accepted_iff_of_accepted`), and a reply with one byte changed is refused
(`Reply.Damaged.refused`). So no reply that was sent for another register, and none that was damaged
in one byte on the way, passes for a reply of a register that can be polled (`Reply.Wrong.refused`).
-/

namespace MeterPoll

namespace Frame

variable {first second high middle low : UInt8}

/-- Clearing the write bit keeps an address modulo 0x80. -/
theorem toNat_readAddress (address : UInt8) :
    (readAddress address).toNat = address.toNat % 0x80 := by
  rw [readAddress, UInt8.toNat_and]
  exact Nat.and_two_pow_sub_one_eq_mod address.toNat 7

/-- Addresses are requested alike exactly if they differ in the write bit at most. -/
theorem readAddress_eq_iff :
    readAddress first = readAddress second ↔ first.toNat % 0x80 = second.toNat % 0x80 := by
  rw [← UInt8.toNat_inj, toNat_readAddress, toNat_readAddress]

/-- Two registers call for one check byte exactly if they are requested alike. -/
theorem checksum_eq_iff : checksum first high middle low = checksum second high middle low ↔
    readAddress first = readAddress second := by
  unfold checksum
  rw [UInt8.not_inj, UInt8.add_left_inj, UInt8.add_left_inj, UInt8.add_left_inj,
    UInt8.add_right_inj]

end Frame

namespace Reply

/-- A reply that is accepted for a register. -/
def Accepted (address : UInt8) (reply : Reply) : Prop :=
  ∃ raw, decode address reply = .ok raw

/-- A reply that is not, because it has another check byte than it should. -/
def Refused (address : UInt8) (reply : Reply) : Prop :=
  ∃ mismatch, decode address reply = .error mismatch ∧ mismatch.expected ≠ mismatch.actual

/-- The reply with one of its bytes changed to another. -/
inductive Damaged (reply : Reply) : Reply → Prop where
  | high (byte : UInt8) (other : byte ≠ reply.high) : Damaged reply { reply with high := byte }
  | middle (byte : UInt8) (other : byte ≠ reply.middle) :
      Damaged reply { reply with middle := byte }
  | low (byte : UInt8) (other : byte ≠ reply.low) : Damaged reply { reply with low := byte }
  | check (byte : UInt8) (other : byte ≠ reply.check) : Damaged reply { reply with check := byte }

/-- A reply that should not pass for one of this register: it was sent for another register that can
be polled, or one of its bytes was changed. -/
inductive Wrong (address : UInt8) : Reply → Prop where
  | foreign (other : UInt8) (raw : UInt32) (readable : other < 0x80) (different : other ≠ address) :
      Wrong address (encode other raw)
  | damaged (reply damaged : Reply) (valid : reply.Accepted address)
      (damage : reply.Damaged damaged) : Wrong address damaged

variable {address first second : UInt8} {reply damaged : Reply}

/-- A reply is accepted exactly if its check byte is the expected one. -/
theorem accepted_iff : reply.Accepted address ↔ reply.expectedCheck address = reply.check := by
  unfold Accepted decode
  by_cases right : reply.expectedCheck address = reply.check
  · simp only [if_pos right]
    exact ⟨fun _ => right, fun _ => ⟨_, rfl⟩⟩
  · simp only [if_neg right]
    exact ⟨fun ⟨_, accepted⟩ => (nomatch accepted), fun same => absurd same right⟩

/-- A reply is refused exactly if its check byte is another one. -/
theorem refused_iff : reply.Refused address ↔ reply.expectedCheck address ≠ reply.check := by
  unfold Refused decode
  by_cases right : reply.expectedCheck address = reply.check
  · simp only [if_pos right]
    exact ⟨fun ⟨_, refused, _⟩ => (nomatch refused), fun wrong => absurd right wrong⟩
  · simp only [if_neg right]
    exact ⟨fun _ => right, fun wrong => ⟨_, rfl, wrong⟩⟩

/-- A reply is either accepted or refused. -/
theorem refused_iff_not_accepted : reply.Refused address ↔ ¬ reply.Accepted address := by
  rw [refused_iff, accepted_iff]

/-- A reply for one register is accepted for those that are requested alike. -/
theorem accepted_iff_of_accepted (accepted : reply.Accepted first) :
    reply.Accepted second ↔ first.toNat % 0x80 = second.toNat % 0x80 := by
  rw [accepted_iff] at accepted
  rw [accepted_iff, ← accepted, ← Frame.readAddress_eq_iff, eq_comm]
  exact Frame.checksum_eq_iff

/-- A changed byte of the data changes the sum, and a changed check byte does not match it. -/
theorem Damaged.refused (damage : reply.Damaged damaged) (valid : reply.Accepted address) :
    damaged.Refused address := by
  rw [accepted_iff] at valid
  rw [refused_iff]
  intro same
  cases damage with
  | high byte other =>
      have sums : Frame.checksum address byte reply.middle reply.low =
          Frame.checksum address reply.high reply.middle reply.low := same.trans valid.symm
      unfold Frame.checksum at sums
      rw [UInt8.not_inj, UInt8.add_left_inj, UInt8.add_left_inj, UInt8.add_right_inj] at sums
      exact other sums
  | middle byte other =>
      have sums : Frame.checksum address reply.high byte reply.low =
          Frame.checksum address reply.high reply.middle reply.low := same.trans valid.symm
      unfold Frame.checksum at sums
      rw [UInt8.not_inj, UInt8.add_left_inj, UInt8.add_right_inj] at sums
      exact other sums
  | low byte other =>
      have sums : Frame.checksum address reply.high reply.middle byte =
          Frame.checksum address reply.high reply.middle reply.low := same.trans valid.symm
      unfold Frame.checksum at sums
      rw [UInt8.not_inj, UInt8.add_right_inj] at sums
      exact other sums
  | check byte other =>
      have checks : reply.check = byte := valid.symm.trans same
      exact other checks.symm

/-- A reply is accepted for the register that it was encoded for. -/
theorem accepted_encode (address : UInt8) (raw : UInt32) : (encode address raw).Accepted address :=
  ⟨_, decode_encode address raw⟩

/-- A reply that should not pass is refused. -/
theorem Wrong.refused (wrong : reply.Wrong address) (readable : address < 0x80) :
    reply.Refused address := by
  cases wrong with
  | foreign other raw otherReadable different =>
      rw [refused_iff_not_accepted, accepted_iff_of_accepted (accepted_encode other raw)]
      rw [UInt8.lt_iff_toNat_lt] at readable otherReadable
      change address.toNat < 0x80 at readable
      change other.toNat < 0x80 at otherReadable
      rw [Nat.mod_eq_of_lt readable, Nat.mod_eq_of_lt otherReadable]
      exact fun same => different (UInt8.toNat.inj same)
  | damaged _ _ valid damage => exact damage.refused valid

end Reply

end MeterPoll
