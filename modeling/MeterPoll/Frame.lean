/-!
# Frames on the wire

The three frames of the protocol. A read request names a register with its write bit clear. A reply
carries the register's three bytes and a check byte, into which the head of the request and the
register are folded although the reply does not repeat them, so a reply can only be validated
against the register that was asked for. The unlock frame makes the device accept writes.
Main facts: a reply encoded for a register decodes for it to the low 24 bits of the content
(`Reply.decode_encode`), and a reply that decodes is the encoding of what it decodes to
(`Reply.eq_encode_of_decode`).
-/

namespace MeterPoll

namespace Frame

/-- The first byte of every frame sent to the device. -/
def head : UInt8 := 0x6A

/-- A register address with the write bit clear. -/
def readAddress (register : UInt8) : UInt8 :=
  register &&& 0x7F

/-- A request to read a register. -/
def request (register : UInt8) : List UInt8 :=
  [head, readAddress register]

/-- The register through which writes are unlocked. -/
def unlockRegister : UInt8 := 0x52

/-- The key that unlocks writes. -/
def unlockKey : UInt8 := 0x32

/-- The frame that unlocks writes. It ends in the plain sum of its bytes. -/
def unlock (register key : UInt8) : List UInt8 :=
  [head, register, 0, 0, key, head + register + key]

/-- The number of bytes of a reply. -/
def replyLength : Nat := 4

/-- The number of bytes of an unlock frame. -/
def unlockLength : Nat := 6

/-- The check byte of a reply: the complement of the sum of the request and the data. -/
def checksum (register high middle low : UInt8) : UInt8 :=
  ~~~(head + readAddress register + high + middle + low)

/-- The 24 bits that three data bytes spell, the most significant byte first. -/
def compose (high middle low : UInt8) : UInt32 :=
  UInt32.ofNat (high.toNat * 0x10000 + middle.toNat * 0x100 + low.toNat)

/-- The bits of a word that a register can hold. -/
def rawMask : UInt32 := 0x00FFFFFF

/-- The bit that is the sign of a signed content. -/
def signBit : UInt32 := 0x800000

/-- The low 24 bits as a signed word: a sign bit that is set is copied into the upper byte. -/
def signExtend (raw : UInt32) : Int32 :=
  let content := raw &&& rawMask
  if content &&& signBit != 0 then (content ||| 0xFF000000).toInt32 else content.toInt32

/-- The number that three data bytes spell. -/
theorem toNat_compose (high middle low : UInt8) :
    (compose high middle low).toNat =
      high.toNat * 0x10000 + middle.toNat * 0x100 + low.toNat := by
  have highLt := high.toNat_lt
  have middleLt := middle.toNat_lt
  have lowLt := low.toNat_lt
  rw [compose, UInt32.toNat_ofNat']
  omega

end Frame

/-- A check byte that is not the one the requested register calls for. -/
structure Mismatch where
  expected : UInt8
  actual : UInt8
  deriving DecidableEq, Repr

/-- The reply to a read request: the content of the register and the check byte. -/
structure Reply where
  high : UInt8
  middle : UInt8
  low : UInt8
  check : UInt8
  deriving DecidableEq, Repr

namespace Reply

/-- The bytes in the order in which they are sent. -/
def toList (reply : Reply) : List UInt8 :=
  [reply.high, reply.middle, reply.low, reply.check]

/-- The 24 bits the three data bytes spell. -/
def content (reply : Reply) : UInt32 :=
  Frame.compose reply.high reply.middle reply.low

/-- The reply of a device whose register holds `raw`. Only the low 24 bits are sent. -/
def encode (register : UInt8) (raw : UInt32) : Reply :=
  let high := UInt8.ofNat (raw.toNat / 0x10000)
  let middle := UInt8.ofNat (raw.toNat / 0x100)
  let low := UInt8.ofNat raw.toNat
  ⟨high, middle, low, Frame.checksum register high middle low⟩

/-- The check byte a reply to a request for `register` must have. -/
def expectedCheck (register : UInt8) (reply : Reply) : UInt8 :=
  Frame.checksum register reply.high reply.middle reply.low

/-- The content of a reply to a request for `register`, if its check byte is right. -/
def decode (register : UInt8) (reply : Reply) : Except Mismatch UInt32 :=
  if reply.expectedCheck register = reply.check then .ok reply.content
  else .error ⟨reply.expectedCheck register, reply.check⟩

/-- A reply with a wrong check byte in place of the right one. -/
def corrupt (reply : Reply) : Reply :=
  { reply with check := ~~~reply.check }

/-- A reply has as many bytes as are looked for. -/
@[simp] theorem length_toList (reply : Reply) : reply.toList.length = Frame.replyLength := rfl

/-- The content of a reply as a number. -/
theorem toNat_content (reply : Reply) : reply.content.toNat =
    reply.high.toNat * 0x10000 + reply.middle.toNat * 0x100 + reply.low.toNat :=
  Frame.toNat_compose reply.high reply.middle reply.low

/-- Of an encoded content only the low 24 bits arrive. -/
theorem toNat_content_encode (register : UInt8) (raw : UInt32) :
    (encode register raw).content.toNat = raw.toNat % 0x1000000 := by
  simp only [toNat_content, encode, UInt8.toNat_ofNat']
  omega

/-- A device's reply is accepted for the register that was asked for. -/
theorem decode_encode (register : UInt8) (raw : UInt32) :
    decode register (encode register raw) = .ok (encode register raw).content :=
  if_pos rfl

/-- Three data bytes put together are taken apart again by encoding them. -/
theorem encode_compose (register high middle low : UInt8) :
    encode register (Frame.compose high middle low) =
      ⟨high, middle, low, Frame.checksum register high middle low⟩ := by
  have content := Frame.toNat_compose high middle low
  have highLt := high.toNat_lt
  have middleLt := middle.toNat_lt
  have lowLt := low.toNat_lt
  have highEq : UInt8.ofNat ((Frame.compose high middle low).toNat / 0x10000) = high := by
    rw [content]; apply UInt8.toNat.inj; simp only [UInt8.toNat_ofNat']; omega
  have middleEq : UInt8.ofNat ((Frame.compose high middle low).toNat / 0x100) = middle := by
    rw [content]; apply UInt8.toNat.inj; simp only [UInt8.toNat_ofNat']; omega
  have lowEq : UInt8.ofNat (Frame.compose high middle low).toNat = low := by
    rw [content]; apply UInt8.toNat.inj; simp only [UInt8.toNat_ofNat']; omega
  simp only [encode, highEq, middleEq, lowEq]

/-- Only encodings are accepted. -/
theorem eq_encode_of_decode {register : UInt8} {reply : Reply} {raw : UInt32}
    (accepted : decode register reply = .ok raw) : reply = encode register raw := by
  unfold decode at accepted
  split at accepted
  case isFalse => cases accepted
  case isTrue right =>
    cases accepted
    obtain ⟨high, middle, low, check⟩ := reply
    rw [content, encode_compose]
    exact congrArg _ right.symm

end Reply

end MeterPoll
