import Mathlib.Tactic.Common
import MeterPoll.Proofs.Register.Reading

/-!
# Replies there and back

A reply carries the low 24 bits of what it was encoded from, and the replies that are accepted for a
register are those that were encoded for it (`Reply.decode_eq_ok_iff`). A register reads a content
as the one integer in its range that agrees with the content modulo 2^24
(`Register.reading_eq_iff`), so every integer of the range, and no other, arrives as it was sent
(`Reply.roundTrip`).
-/

namespace MeterPoll

namespace Register

/-- The range of a register. -/
def Holds (register : Register) (integer : Int) : Prop :=
  if register.signed then -0x800000 ≤ integer ∧ integer < 0x800000
  else 0 ≤ integer ∧ integer < 0x1000000

variable {register : Register} {integer other : Int}

/-- What a register reads is in its range. -/
theorem holds_reading (register : Register) (raw : UInt32) :
    register.Holds (register.reading raw) := by
  have bounds := register.reading_bounds raw
  unfold Holds
  unfold span at bounds
  split_ifs at bounds ⊢
  · omega
  · exact bounds

/-- Integers of the range that agree modulo 2^24 are the same. -/
theorem Holds.eq_of_emod (first : register.Holds integer) (second : register.Holds other)
    (same : integer % span = other % span) : integer = other := by
  unfold Holds at first second
  unfold span at same
  split_ifs at first second
  · omega
  · omega

/-- What a register reads is determined by its range and by the content modulo 2 ^ 24. -/
theorem reading_eq_iff {raw : UInt32} : register.reading raw = integer ↔
    register.Holds integer ∧ integer % span = (raw.toNat : Int) % span := by
  constructor
  · rintro rfl
    exact ⟨register.holds_reading raw, register.emod_reading raw⟩
  · rintro ⟨held, same⟩
    exact (register.holds_reading raw).eq_of_emod held ((register.emod_reading raw).trans same.symm)

end Register

namespace Reply

/-- The low 24 bits of an integer in two's complement. -/
def lowBits (integer : Int) : UInt32 :=
  UInt32.ofNat (integer % 0x1000000).toNat

/-- The low bits of an integer as a number. -/
theorem toNat_lowBits (integer : Int) :
    ((lowBits integer).toNat : Int) = integer % 0x1000000 := by
  rw [lowBits, UInt32.toNat_ofNat']
  omega

/-- A reply spells 24 bits. -/
theorem toNat_content_lt (reply : Reply) : reply.content.toNat < 0x1000000 := by
  have high := reply.high.toNat_lt
  have middle := reply.middle.toNat_lt
  have low := reply.low.toNat_lt
  rw [toNat_content]
  omega

/-- An encoded reply spells the low 24 bits. -/
theorem content_encode (address : UInt8) (raw : UInt32) :
    (encode address raw).content = raw % 0x1000000 := by
  apply UInt32.toNat.inj
  rw [toNat_content_encode, UInt32.toNat_mod]
  rfl

/-- The replies that are accepted are the encodings of contents of 24 bits. -/
theorem decode_eq_ok_iff {address : UInt8} {reply : Reply} {raw : UInt32} :
    decode address reply = .ok raw ↔ raw.toNat < 0x1000000 ∧ encode address raw = reply := by
  constructor
  · intro accepted
    have encoded := eq_encode_of_decode accepted
    have content : (encode address raw).content = raw := by
      rw [encoded, decode_encode] at accepted
      exact Except.ok.inj accepted
    refine ⟨?_, encoded.symm⟩
    rw [← content]
    exact toNat_content_lt _
  · rintro ⟨short, rfl⟩
    rw [decode_encode, content_encode]
    congr 1
    apply UInt32.toNat.inj
    rw [UInt32.toNat_mod]
    exact Nat.mod_eq_of_lt short

/-- A reply decodes to the low 24 bits of what it was encoded from. -/
theorem decode_encode_eq (address : UInt8) (raw : UInt32) :
    decode address (encode address raw) = .ok (raw % 0x1000000) := by
  rw [decode_encode, content_encode]

/-- **Replies there and back.** A reply decodes to the low 24 bits of what it was encoded from,
nothing but encodings is accepted, and a register reads an integer back from a reply exactly if the
integer is in its range. -/
theorem roundTrip (address : UInt8) (raw : UInt32) (reply : Reply) (register : Register)
    (integer : Int) :
    decode address (encode address raw) = .ok (raw % 0x1000000) ∧
      (decode address reply = .ok raw ↔ raw.toNat < 0x1000000 ∧ encode address raw = reply) ∧
      ((∃ content, decode address reply = .ok content) ↔
        ∃ content, encode address content = reply) ∧
      ((decode address (encode address (lowBits integer))).map register.reading = .ok integer ↔
        register.Holds integer) := by
  refine ⟨decode_encode_eq address raw, decode_eq_ok_iff, ?_, ?_⟩
  · constructor
    · rintro ⟨content, accepted⟩
      exact ⟨content, (decode_eq_ok_iff.mp accepted).2⟩
    · rintro ⟨content, rfl⟩
      exact ⟨_, decode_encode_eq address content⟩
  · have arrives : (integer % Register.span) =
        ((lowBits integer % 0x1000000).toNat : Int) % Register.span := by
      have bits := toNat_lowBits integer
      rw [UInt32.toNat_mod]
      unfold Register.span
      change integer % 0x1000000 = (((lowBits integer).toNat % 0x1000000 : Nat) : Int) % 0x1000000
      omega
    rw [decode_encode_eq, Except.map, Except.ok.injEq, Register.reading_eq_iff]
    exact ⟨And.left, fun held => ⟨held, arrives⟩⟩

/-- The most negative content of a signed register. -/
example : (decode 0x0A (encode 0x0A (lowBits (-0x800000)))).map
    { Register.unsigned 0x0A .power 0.005 with signed := true }.reading = .ok (-0x800000) := by
  decide +kernel

end Reply

end MeterPoll
