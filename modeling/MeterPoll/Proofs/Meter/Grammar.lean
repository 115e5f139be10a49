import Mathlib.Tactic.Common
import MeterPoll.Meter

/-!
# The grammar of what is sent to a meter

What a stream of bytes tells a meter can be said without a parser: bytes before the head of a frame
mean nothing, the head and the register of unlocking are an unlock frame together with any four
bytes, and the head and any other byte are a request (`Command.Reads`). Every stream is read in
exactly one way, which is the one that the meter's search finds (`Command.reads_iff`), and the start
of a frame that is left over can be read on when more arrives (`Command.Reads.append`).
-/

namespace MeterPoll

namespace Command

/-- The bytes are the start of a frame that is not complete. -/
def Begun (bytes : List UInt8) : Prop :=
  bytes = [] ∨ bytes = [Frame.head] ∨
    ∃ part, bytes = Frame.head :: Frame.unlockRegister :: part ∧ bytes.length < Frame.unlockLength

/-- The bytes hold these commands and end in the start of a frame. -/
inductive Reads : List UInt8 → List Command → List UInt8 → Prop where
  | begun {bytes : List UInt8} (begun : Begun bytes) : Reads bytes [] bytes
  | noise {byte : UInt8} {rest : List UInt8} {commands : List Command} {left : List UInt8}
      (noise : byte ≠ Frame.head) (onward : Reads rest commands left) :
      Reads (byte :: rest) commands left
  | unlock {a b c d : UInt8} {next : List UInt8} {commands : List Command} {left : List UInt8}
      (onward : Reads next commands left) :
      Reads (Frame.head :: Frame.unlockRegister :: a :: b :: c :: d :: next)
        (unlock :: commands) left
  | read {register : UInt8} {more : List UInt8} {commands : List Command} {left : List UInt8}
      (other : register ≠ Frame.unlockRegister) (onward : Reads more commands left) :
      Reads (Frame.head :: register :: more) (read (Frame.readAddress register) :: commands) left

variable {first second bytes left : List UInt8} {commands sooner later : List Command}

/-- The start of a frame is left over. -/
theorem scan_of_begun (begun : Begun bytes) : scan bytes = ([], bytes) := by
  obtain rfl | rfl | ⟨part, rfl, short⟩ := begun
  · rfl
  · rfl
  · match part with
    | [] | [_] | [_, _] | [_, _, _] => rfl
    | _ :: _ :: _ :: _ :: _ =>
        simp only [List.length_cons, Frame.unlockLength] at short
        omega

/-- Bytes in front of a frame are passed over. -/
theorem scan_noise {byte : UInt8} (noise : byte ≠ Frame.head) (rest : List UInt8) :
    scan (byte :: rest) = scan rest := by
  rw [scan.eq_def]
  exact if_pos noise

/-- A complete unlock frame is a command, whatever its last four bytes. -/
theorem scan_unlock (a b c d : UInt8) (next : List UInt8) :
    scan (Frame.head :: Frame.unlockRegister :: a :: b :: c :: d :: next) =
      (unlock :: (scan next).1, (scan next).2) := rfl

/-- A head and another register are a command to read it. -/
theorem scan_read {register : UInt8} (other : register ≠ Frame.unlockRegister)
    (more : List UInt8) : scan (Frame.head :: register :: more) =
      (read (Frame.readAddress register) :: (scan more).1, (scan more).2) := by
  rw [scan.eq_def]
  exact (if_neg (not_not_intro rfl)).trans (if_neg other)

/-- The search finds the commands that the bytes hold. -/
theorem Reads.scan_eq (reads : Reads bytes commands left) : scan bytes = (commands, left) := by
  induction reads with
  | begun begun => exact scan_of_begun begun
  | noise noise onward ih => rw [scan_noise noise, ih]
  | unlock onward ih => rw [scan_unlock, ih]
  | read other onward ih => rw [scan_read other, ih]

/-- What a scan finds is what the bytes hold. -/
theorem reads_scan (bytes : List UInt8) : Reads bytes (scan bytes).1 (scan bytes).2 := by
  induction bytes using scan.induct with
  | case1 => exact .begun (.inl rfl)
  | case2 byte rest noise ih =>
      rw [scan_noise noise]
      exact .noise noise ih
  | case3 byte head =>
      obtain rfl := not_not.mp head
      exact .begun (.inr (.inl rfl))
  | case4 byte head a b c d next commands left found ih =>
      obtain rfl := not_not.mp head
      rw [scan_unlock]
      exact .unlock ih
  | case5 byte head part short =>
      obtain rfl := not_not.mp head
      have begun : Begun (Frame.head :: Frame.unlockRegister :: part) := by
        refine .inr (.inr ⟨part, rfl, ?_⟩)
        match part with
        | [] | [_] | [_, _] | [_, _, _] =>
            simp only [List.length_cons, List.length_nil, Frame.unlockLength]
            omega
        | a :: b :: c :: d :: next => exact (short a b c d next rfl).elim
      rw [scan_of_begun begun]
      exact .begun begun
  | case6 byte head register more other commands left found ih =>
      obtain rfl := not_not.mp head
      rw [scan_read other]
      exact .read other ih

/-- Every stream is read in one way. -/
theorem reads_iff :
    Reads bytes commands left ↔ commands = (scan bytes).1 ∧ left = (scan bytes).2 := by
  constructor
  · intro reads
    rw [reads.scan_eq]
    exact ⟨rfl, rfl⟩
  · rintro ⟨rfl, rfl⟩
    exact reads_scan bytes

/-- Bytes hold one sequence of commands and leave one start of a frame. -/
theorem Reads.unique {others : List Command} {rest : List UInt8}
    (reads : Reads bytes commands left) (other : Reads bytes others rest) :
    commands = others ∧ left = rest := by
  obtain ⟨rfl, rfl⟩ := reads_iff.mp reads
  obtain ⟨rfl, rfl⟩ := reads_iff.mp other
  exact ⟨rfl, rfl⟩

/-- What is left over is the start of a frame. -/
theorem Reads.begun_left (reads : Reads bytes commands left) : Begun left := by
  induction reads with
  | begun begun => exact begun
  | noise noise onward ih => exact ih
  | unlock onward ih => exact ih
  | read other onward ih => exact ih

/-- Bytes that arrive later are read after what the earlier ones left. -/
theorem Reads.append {last : List UInt8} (earlier : Reads first sooner left)
    (onward : Reads (left ++ second) later last) :
    Reads (first ++ second) (sooner ++ later) last := by
  induction earlier with
  | begun begun => exact onward
  | noise noise _ ih => exact .noise noise (ih onward)
  | unlock _ ih => exact .unlock (ih onward)
  | read other _ ih => exact .read other (ih onward)

/-- What the first complete frame after the noise says, and the bytes behind it. -/
def next? (bytes : List UInt8) : Option (Command × List UInt8) :=
  let frame := bytes.dropWhile (· ≠ Frame.head)
  match frame with
  | _ :: register :: more =>
    if register = Frame.unlockRegister then
      if frame.length < Frame.unlockLength then none
      else some (unlock, frame.drop Frame.unlockLength)
    else some (read (Frame.readAddress register), more)
  | _ => none

/-- The start of a frame has no noise in front of it. -/
theorem dropWhile_of_begun (begun : Begun bytes) :
    bytes.dropWhile (· ≠ Frame.head) = bytes := by
  obtain rfl | rfl | ⟨part, rfl, short⟩ := begun <;> rfl

/-- The start of a frame is no complete frame. -/
theorem next?_of_begun (begun : Begun bytes) : next? bytes = none := by
  obtain rfl | rfl | ⟨part, rfl, short⟩ := begun
  · rfl
  · rfl
  · exact if_pos short

theorem dropWhile_noise {byte : UInt8} (noise : byte ≠ Frame.head) (rest : List UInt8) :
    (byte :: rest).dropWhile (· ≠ Frame.head) = rest.dropWhile (· ≠ Frame.head) :=
  List.dropWhile_cons_of_pos (decide_eq_true noise)

/-- Noise does not change what the next frame is. -/
theorem next?_noise {byte : UInt8} (noise : byte ≠ Frame.head) (rest : List UInt8) :
    next? (byte :: rest) = next? rest := by
  unfold next?
  rw [dropWhile_noise noise]

/-- A complete unlock frame is the next frame if it stands in front. -/
theorem next?_unlock (a b c d : UInt8) (next : List UInt8) :
    next? (Frame.head :: Frame.unlockRegister :: a :: b :: c :: d :: next) =
      some (unlock, next) := by
  let frame := Frame.head :: Frame.unlockRegister :: a :: b :: c :: d :: next
  have long : ¬frame.length < Frame.unlockLength := by
    simp only [frame, List.length_cons, Frame.unlockLength]
    omega
  change (if frame.length < Frame.unlockLength then none else some (unlock, next)) = _
  rw [if_neg long]

/-- A complete request is read as one, whatever follows. -/
theorem next?_read {register : UInt8} (other : register ≠ Frame.unlockRegister)
    (more : List UInt8) : next? (Frame.head :: register :: more) =
      some (read (Frame.readAddress register), more) :=
  if_neg other

end Command

end MeterPoll
