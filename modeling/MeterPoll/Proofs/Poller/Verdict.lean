import MeterPoll.Meter
import MeterPoll.Proofs.Poller.Effects

/-!
# What a look comes to

A look settles the request that is out with the reply in front of it (`Poller.Faces.collect`), and
its answer depends on the register that was asked and on that reply alone (`Poller.answer_settle`).
On a meter the reply in front is what the first bytes of the receive queue spell, so that the answer
is a function of the bytes in the queue (`Poller.answer_collect`).
-/

namespace MeterPoll

/-- Enough bytes start with a reply. -/
theorem Reply.exists_toList_append {bytes : List UInt8}
    (enough : Frame.replyLength ≤ bytes.length) :
    ∃ (reply : Reply) (rest : List UInt8), bytes = reply.toList ++ rest := by
  match bytes, enough with
  | high :: middle :: low :: check :: rest, _ => exact ⟨⟨high, middle, low, check⟩, rest, rfl⟩
  | [], enough | [_], enough | [_, _], enough | [_, _, _], enough =>
      simp [Frame.replyLength] at enough

namespace Collected

/-- What a reply comes to for the register that was asked. -/
def ofReply (register : Register) (noise : UInt32) (reply : Reply) : Collected :=
  match reply.decode register.address with
  | .ok raw => .accepted register.quantity raw (register.value raw noise)
  | .error mismatch => .rejected (.checksum register.address mismatch)

/-- What received bytes come to for the register that was asked. -/
def ofBytes (register : Register) (noise : UInt32) : List UInt8 → Collected
  | high :: middle :: low :: check :: _ => ofReply register noise ⟨high, middle, low, check⟩
  | bytes => .waiting bytes.length

/-- Fewer bytes than a reply has are waited for. -/
theorem ofBytes_of_short {register : Register} {noise : UInt32} {bytes : List UInt8}
    (short : bytes.length < Frame.replyLength) :
    ofBytes register noise bytes = .waiting bytes.length := by
  match bytes, short with
  | [], _ => rfl
  | [_], _ => rfl
  | [_, _], _ => rfl
  | [_, _, _], _ => rfl

/-- The first bytes are taken for the reply, whatever follows them. -/
@[simp] theorem ofBytes_append (register : Register) (noise : UInt32) (reply : Reply)
    (rest : List UInt8) :
    ofBytes register noise (reply.toList ++ rest) = ofReply register noise reply := rfl

end Collected

namespace Poller

variable {σ : Type} [Line σ]

/-- The first bytes on the line are all there and can be seen, and they are those of the reply. -/
def Faces (poller : Poller σ) (reply : Reply) : Prop :=
  Frame.replyLength ≤ (Line.available poller.line).answer ∧
    peekReply (Line.available poller.line).line = .ok reply

/-- A look for a reply finds the one that the poller faces. -/
theorem Faces.collect {poller : Poller σ} {reply : Reply} (faces : poller.Faces reply)
    (out : poller.progress.awaiting = true) :
    poller.collect = (poller.goOn (Line.available poller.line)).settle reply := by
  obtain ⟨enough, seen⟩ := faces
  have found : peekReply (poller.goOn (Line.available poller.line)).line = .ok reply := seen
  unfold Poller.collect
  simp only [out, Bool.not_true, Bool.false_eq_true, if_false, if_neg (Nat.not_lt.mpr enough),
    found]

/-- What the handling of a reply returns. -/
theorem answer_settle (poller : Poller σ) (reply : Reply) :
    (poller.settle reply).1 = .ofReply poller.register poller.options.noise reply := by
  simp only [settle, Collected.ofReply]
  cases reply.decode poller.register.address <;> rfl

section OnMeter

variable {poller : Poller Meter}

/-- A poller on a meter faces the reply that stands first in the receive queue. -/
theorem faces_of_bytes {reply : Reply} {rest : List UInt8}
    (bytes : poller.line.queue.bytes = reply.toList ++ rest) : poller.Faces reply := by
  have seen (offset : Nat) : Line.peek? poller.line offset = (reply.toList ++ rest)[offset]? :=
    congrArg (·[offset]?) bytes
  constructor
  · change Frame.replyLength ≤ poller.line.queue.bytes.length
    rw [bytes, List.length_append, Reply.length_toList]
    exact Nat.le_add_right _ _
  · change peekReply poller.line = _
    simp only [peekReply, seen]
    rfl

/-- The answer of a look is a function of the received bytes. -/
theorem answer_collect (out : poller.progress.awaiting = true) :
    poller.collect.1 =
      .ofBytes poller.register poller.options.noise poller.line.queue.bytes := by
  by_cases short : poller.line.queue.bytes.length < Frame.replyLength
  · rw [Collected.ofBytes_of_short short]
    have counted : (Line.available poller.line).answer < Frame.replyLength := short
    unfold collect
    simp only [out, Bool.not_true, Bool.false_eq_true, if_false, if_pos counted]
    rfl
  · obtain ⟨reply, rest, bytes⟩ := Reply.exists_toList_append (Nat.le_of_not_lt short)
    rw [(faces_of_bytes bytes).collect out, answer_settle, bytes, Collected.ofBytes_append]
    rfl

end OnMeter

end Poller

end MeterPoll
