import MeterPoll.Proofs.Poller.Mirror

/-!
# Bytes given to a line

A line together with every byte that was given to it and whether the line took it (`Tapped`). A
frame is given byte by byte up to the first one that the line does not take, so that either all of
it was taken or a beginning and not all (`Attempt`). A poller whose line sends frames in that way
anyway cannot tell whether it is tapped (`Tapped.view`).
-/

namespace MeterPoll

variable {σ ε : Type}

/-- A byte that was given to a line, and whether the line took it. -/
structure Given where
  byte : UInt8
  taken : Bool
  deriving DecidableEq, Repr

/-- A frame that was given to a line, whether it was sent, and the bytes that the line was given of
it: all, or those before the one that it refused and that one. -/
inductive Attempt : List UInt8 → Bool → List Given → Prop where
  | sent (frame : List UInt8) : Attempt frame true (frame.map (⟨·, true⟩))
  | refused (before : List UInt8) (byte : UInt8) (after : List UInt8) :
      Attempt (before ++ byte :: after) false (before.map (⟨·, true⟩) ++ [⟨byte, false⟩])

/-- A byte that is taken in front of an attempt makes one at the longer frame. -/
theorem Attempt.cons {frame : List UInt8} {sent : Bool} {bytes : List Given}
    (attempt : Attempt frame sent bytes) (byte : UInt8) :
    Attempt (byte :: frame) sent (⟨byte, true⟩ :: bytes) := by
  cases attempt with
  | sent => exact .sent (byte :: frame)
  | refused before refused after => exact .refused (byte :: before) refused after

/-- A frame was sent unless the line refused a byte of it. -/
theorem Attempt.sent_eq_false_iff {frame : List UInt8} {sent : Bool} {bytes : List Given}
    (attempt : Attempt frame sent bytes) :
    sent = false ↔ ∃ byte, ⟨byte, false⟩ ∈ bytes := by
  cases attempt with
  | sent =>
      refine ⟨nofun, ?_⟩
      rintro ⟨byte, member⟩
      obtain ⟨other, _, same⟩ := List.mem_map.mp member
      cases same
  | refused before byte after =>
      exact ⟨fun _ => ⟨byte, List.mem_append_right _ List.mem_cons_self⟩, fun _ => rfl⟩

/-- A line and the bytes that were given to it, the first one first. -/
structure Tapped (σ : Type) where
  line : σ
  given : List Given

namespace Tapped

def tap (line : σ) : Tapped σ :=
  ⟨line, []⟩

/-- Goes on with the line that an operation left. -/
def serve {α : Type} (tapped : Tapped σ) (served : Served σ α) : Served (Tapped σ) α :=
  ⟨served.answer, { tapped with line := served.line }, served.events⟩

def handle (apply : ε → σ → Served σ Unit) (event : ε) (tapped : Tapped σ) :
    Served (Tapped σ) Unit :=
  tapped.serve (apply event tapped.line)

variable [Line σ]

instance : Line (Tapped σ) where
  sendByte tapped byte :=
    let sent := Line.sendByte tapped.line byte
    ⟨sent.answer, ⟨sent.line, tapped.given ++ [⟨byte, sent.answer.isOk⟩]⟩, sent.events⟩
  available tapped := tapped.serve (Line.available tapped.line)
  peek? tapped offset := Line.peek? tapped.line offset
  consume tapped count := { tapped with line := Line.consume tapped.line count }
  discardAll tapped := tapped.serve (Line.discardAll tapped.line)

/-- Sending a frame is an attempt at it, which succeeds exactly if all bytes are taken. -/
theorem attempt_send (tapped : Tapped σ) (frame : List UInt8) :
    ∃ bytes, (Line.send tapped frame).line.given = tapped.given ++ bytes ∧
      Attempt frame (Line.send tapped frame).answer.isOk bytes := by
  change ∃ bytes, (sendEach Line.sendByte tapped frame).line.given = tapped.given ++ bytes ∧
    Attempt frame (sendEach Line.sendByte tapped frame).answer.isOk bytes
  induction frame generalizing tapped with
  | nil => exact ⟨[], (List.append_nil _).symm, .sent []⟩
  | cons byte rest ih =>
      have given : (Line.sendByte tapped byte).line.given =
          tapped.given ++ [⟨byte, (Line.sendByte tapped byte).answer.isOk⟩] := rfl
      simp only [sendEach]
      cases answer : (Line.sendByte tapped byte).answer with
      | error fault =>
          rw [answer] at given
          exact ⟨_, given, .refused [] byte rest⟩
      | ok done =>
          obtain ⟨bytes, later, attempt⟩ := ih (Line.sendByte tapped byte).line
          rw [answer] at given
          refine ⟨⟨byte, true⟩ :: bytes, ?_, attempt.cons byte⟩
          rw [later, given, List.append_assoc]
          rfl

/-- A tapped line is its line, if that sends byte by byte. -/
theorem view (bytewise : ∀ (line : σ) frame, Line.send line frame =
      sendEach Line.sendByte line frame) :
    Line.View (Tapped.line : Tapped σ → σ) where
  send tapped frame := by
    have shows (tapped : Tapped σ) (byte : UInt8) : (Line.sendByte tapped byte).Shows Tapped.line
        (Line.sendByte tapped.line byte) := ⟨rfl, rfl⟩
    rw [bytewise]
    exact Served.shows_sendEach shows tapped frame
  available _ := ⟨rfl, rfl⟩
  discardAll _ := ⟨rfl, rfl⟩
  peek? _ _ := rfl
  consume _ _ := rfl

end Tapped

end MeterPoll
