import MeterPoll.CommandLine.Plan
import MeterPoll.Proofs.Text.Numeral

/-!
# Bytes on the command line

A byte is written as a decimal numeral, or as a hexadecimal one behind `0x` or `0X`, of a number of
at most 255 (`CommandLine.readByte_eq_ok_iff`). Frames are printed so that they can be read again
(`CommandLine.readFrame_hexFrame`), and a printed reply reads as one that is accepted for its
register with its three data bytes (`CommandLine.bytes_readable`).
-/

namespace MeterPoll

namespace CommandLine

/-- The texts that stand for a byte. -/
inductive WritesByte (byte : UInt8) : List Char → Prop where
  | decimal (cs : List Char) (numeral : Text.Numeral 10 byte.toNat cs) : WritesByte byte cs
  | hexadecimal (mark : Char) (cs : List Char) (marked : mark = 'x' ∨ mark = 'X')
      (numeral : Text.Numeral 16 byte.toNat cs) : WritesByte byte ('0' :: mark :: cs)

variable {s : String} {byte : UInt8}

/-- A byte that is read is the number that is read, which is at most 255. -/
theorem byte_eq_ok_iff {cs : List Char} {radix : Nat} (positive : 0 < radix)
    (message : Text.IntegerFault → String) :
    (match Text.readNat radix 255 cs with
      | .ok number => .ok (UInt8.ofNat number)
      | .error fault => .error (message fault) : Except String UInt8) = .ok byte ↔
        Text.Numeral radix byte.toNat cs := by
  have small := byte.toNat_lt
  cases read : Text.readNat radix 255 cs with
  | error fault =>
      refine iff_of_false nofun fun numeral => ?_
      have accepted : Text.readNat radix 255 cs = .ok byte.toNat :=
        (Text.readNat_eq_ok_iff positive).mpr ⟨numeral, by omega⟩
      rw [read] at accepted
      cases accepted
  | ok number =>
      obtain ⟨numeral, within⟩ := (Text.readNat_eq_ok_iff positive).mp read
      rw [Except.ok.injEq]
      constructor
      · rintro rfl
        rwa [UInt8.toNat_ofNat_of_lt' (Nat.lt_succ_of_le within)]
      · intro other
        have accepted : Text.readNat radix 255 cs = .ok byte.toNat :=
          (Text.readNat_eq_ok_iff positive).mpr ⟨other, by omega⟩
        rw [read, Except.ok.injEq] at accepted
        rw [accepted, UInt8.ofNat_toNat]

/-- Behind a mark the text is read in hexadecimal. -/
theorem readByte_of_marked {mark : Char} {cs : List Char} (marked : mark = 'x' ∨ mark = 'X')
    (starts : s.toList = '0' :: mark :: cs) :
    readByte s = .ok byte ↔ Text.Numeral 16 byte.toNat cs := by
  unfold readByte
  rw [starts]
  rcases marked with rfl | rfl <;> exact byte_eq_ok_iff (by decide) _

/-- A text without a mark is read as a decimal numeral. -/
theorem readByte_of_unmarked
    (unmarked : ∀ mark cs, mark = 'x' ∨ mark = 'X' → s.toList ≠ '0' :: mark :: cs) :
    readByte s = .ok byte ↔ Text.Numeral 10 byte.toNat s.toList := by
  unfold readByte
  split
  next cs starts => exact absurd starts (unmarked 'x' cs (.inl rfl))
  next cs starts => exact absurd starts (unmarked 'X' cs (.inr rfl))
  next => exact byte_eq_ok_iff (by decide) _

/-- No decimal numeral begins like a hexadecimal one. -/
theorem not_numeral_marked {mark : Char} {cs : List Char} {number : Nat}
    (marked : mark = 'x' ∨ mark = 'X') : ¬ Text.Numeral 10 number ('0' :: mark :: cs) := by
  intro numeral
  cases numeral with
  | bare _ _ spells =>
      obtain ⟨-, _, -, -, spells, -⟩ := Text.spells_cons_iff.mp spells
      obtain ⟨value, -, digit, -⟩ := Text.spells_cons_iff.mp spells
      rcases marked with rfl | rfl
      · exact Text.not_digit_of_unread rfl digit
      · exact Text.not_digit_of_unread rfl digit

/-- A byte is read from the texts that stand for it, and from nothing else. -/
theorem readByte_eq_ok_iff : readByte s = .ok byte ↔ WritesByte byte s.toList := by
  by_cases marked : ∃ mark cs, (mark = 'x' ∨ mark = 'X') ∧ s.toList = '0' :: mark :: cs
  · obtain ⟨mark, cs, marked, starts⟩ := marked
    rw [readByte_of_marked marked starts, starts]
    constructor
    · exact .hexadecimal mark cs marked
    · intro writes
      cases writes with
      | decimal _ numeral => exact absurd numeral (not_numeral_marked marked)
      | hexadecimal _ _ _ numeral => exact numeral
  · rw [readByte_of_unmarked fun mark cs prefixed starts => marked ⟨mark, cs, prefixed, starts⟩]
    constructor
    · exact .decimal s.toList
    · intro writes
      generalize starts : s.toList = cs at writes
      cases writes with
      | decimal _ numeral => exact numeral
      | hexadecimal mark cs prefixed => exact absurd ⟨mark, cs, prefixed, starts⟩ marked

/-- Any number of zeros may stand before the digits, but the value has to fit a byte. -/
example : (readByte "0X+000fF").toOption = some 0xFF ∧ (readByte "+0255").toOption = some 255 ∧
    (readByte "0x100").toOption = none ∧ (readByte "+").toOption = none := by
  decide +kernel

/-! ### Printed frames -/

/-- Reads a printed frame: the pieces between spaces as bytes in hexadecimal. -/
def readFrame (text : String) : Except String (List UInt8) :=
  (text.toList.splitOn ' ').mapM fun piece => readByte (String.ofList ('0' :: 'x' :: piece))

/-- An upper-case digit has the value it was made for. -/
theorem digit_hexDigitUpper {value : Nat} (small : value < 16) :
    Text.Digit (Text.hexDigitUpper value) value := by
  unfold Text.Digit
  interval_cases value <;> decide

/-- A byte in two digits is a hexadecimal numeral of its number. -/
theorem numeral_hexByteUpper (byte : UInt8) :
    Text.Numeral 16 byte.toNat (Text.hexByteUpper byte).toList := by
  have small := byte.toNat_lt
  have high : byte.toNat / 16 < 16 := by omega
  have low : byte.toNat % 16 < 16 := Nat.mod_lt _ (by decide)
  rw [Text.hexByteUpper, String.toList_ofList]
  refine .bare _ nofun ⟨[byte.toNat / 16, byte.toNat % 16], ?_, ?_, ?_⟩
  · exact .cons (digit_hexDigitUpper high) (.cons (digit_hexDigitUpper low) .nil)
  · simp [high, low]
  · change byte.toNat % 16 + 16 * (byte.toNat / 16 + 16 * 0) = byte.toNat
    omega

/-- No digit is the separator of frames. -/
theorem space_not_mem_hexByteUpper (byte : UInt8) : ' ' ∉ (Text.hexByteUpper byte).toList := by
  have small := byte.toNat_lt
  have apart {value : Nat} (below : value < 16) : ' ' ≠ Text.hexDigitUpper value := fun same =>
    Text.not_digit_of_unread rfl (same ▸ digit_hexDigitUpper below)
  rw [Text.hexByteUpper, String.toList_ofList]
  simp only [List.mem_cons, List.not_mem_nil, or_false, not_or]
  exact ⟨apart (by omega), apart (Nat.mod_lt _ (by decide))⟩

/-- A byte in two digits is read again behind the mark. -/
theorem readByte_hexByteUpper (byte : UInt8) :
    readByte (String.ofList ('0' :: 'x' :: (Text.hexByteUpper byte).toList)) = .ok byte := by
  rw [readByte_eq_ok_iff, String.toList_ofList]
  exact .hexadecimal 'x' _ (.inl rfl) (numeral_hexByteUpper byte)

/-- Bytes that are printed as a frame are read again. -/
theorem readFrame_hexFrame {bytes : List UInt8} (nonempty : bytes ≠ []) :
    readFrame (Text.hexFrame bytes) = .ok bytes := by
  have pieces : (Text.hexFrame bytes).toList.splitOn ' ' =
      bytes.map fun byte => (Text.hexByteUpper byte).toList := by
    rw [Text.hexFrame, String.toList_intercalate, List.map_map]
    refine List.splitOn_intercalate ' ' ?_ (by simpa using nonempty)
    intro piece among
    obtain ⟨byte, -, rfl⟩ := List.mem_map.mp among
    exact space_not_mem_hexByteUpper byte
  rw [readFrame, pieces]
  clear pieces nonempty
  induction bytes with
  | nil => rfl
  | cons byte rest ih =>
      rw [List.map_cons, List.mapM_cons, readByte_hexByteUpper, ih]
      rfl

/-- What is printed of the request for a register. -/
def requestLine (register : UInt8) : String :=
  "request:  " ++ Text.hexFrame (Frame.request register) ++ "\n"

/-- Printing frames is a failure exactly for a number of data bytes other than none and three. -/
theorem printFrames_fails_iff (register : UInt8) (data : List UInt8) :
    (∃ failure, printFrames register data = .failed (requestLine register) failure) ↔
      data.length ≠ 0 ∧ data.length ≠ 3 := by
  have succeeds {output : String} {failure : Failure} :
      Ending.success output ≠ .failed (requestLine register) failure := fun same =>
    absurd (congrArg Ending.code same) Nat.zero_ne_one
  unfold printFrames
  split
  next =>
    refine iff_of_false ?_ (by simp)
    rintro ⟨_, same⟩
    exact succeeds same
  next =>
    refine iff_of_false ?_ (by simp)
    rintro ⟨_, same⟩
    exact succeeds same
  next some three =>
    refine iff_of_true ⟨_, rfl⟩ ⟨mt List.length_eq_zero_iff.mp some, ?_⟩
    intro length
    obtain ⟨high, middle, low, rfl⟩ := List.length_eq_three.mp length
    exact three high middle low rfl

/-- **Bytes and printed frames.** A byte is read from exactly the texts that stand for it, and a
printed frame is read as the bytes it was printed from. Behind the request for a register stands,
given three data bytes, a reply that is read as one which the register accepts with these bytes.
Another number of data bytes than none and three is a failure. -/
theorem bytes_readable :
    (∀ s byte, readByte s = .ok byte ↔ WritesByte byte s.toList) ∧
    (∀ bytes ≠ [], readFrame (Text.hexFrame bytes) = .ok bytes) ∧
    (∀ register high middle low, ∃ (text : String) (reply : Reply),
      printFrames register [high, middle, low] =
        .success (requestLine register ++ "response: " ++ text ++ "\n") ∧
      readFrame text = .ok reply.toList ∧
      reply.decode register = .ok reply.content ∧
      reply.high = high ∧ reply.middle = middle ∧ reply.low = low) ∧
    ∀ register data,
      (∃ failure, printFrames register data = .failed (requestLine register) failure) ↔
        data.length ≠ 0 ∧ data.length ≠ 3 := by
  refine ⟨fun s byte => readByte_eq_ok_iff, fun bytes => readFrame_hexFrame, ?_,
    printFrames_fails_iff⟩
  intro register high middle low
  let reply := Reply.encode register (Frame.compose high middle low)
  have read : readFrame (Text.hexFrame reply.toList) = .ok reply.toList := readFrame_hexFrame nofun
  have accepted : reply.decode register = .ok reply.content := Reply.decode_encode register _
  have bytes : reply = ⟨high, middle, low, Frame.checksum register high middle low⟩ :=
    Reply.encode_compose register high middle low
  refine ⟨Text.hexFrame reply.toList, reply, rfl, read, accepted, ?_, ?_, ?_⟩
  · rw [bytes]
  · rw [bytes]
  · rw [bytes]

end CommandLine

end MeterPoll
