import MeterPoll.Proofs.Poller.Mirror

/-!
# Watching what is sent

A line together with the frames that were given to it and whether it took them (`Watched`). A poller
cannot tell whether its line is watched (`Watched.view`). The frames that the line took after it
took a given one are read off from the latest back (`takenSince`).
-/

namespace MeterPoll

variable {σ ε : Type}

/-- A frame that was given to a line, and whether the line took all of it. -/
structure Sending where
  frame : List UInt8
  taken : Bool
  deriving DecidableEq, Repr

/-- A line and the frames that were given to it, the latest first. -/
structure Watched (σ : Type) where
  line : σ
  sendings : List Sending

namespace Watched

def watch (line : σ) : Watched σ :=
  ⟨line, []⟩

/-- Goes on with the line that an operation left. -/
def serve {α : Type} (watched : Watched σ) (served : Served σ α) : Served (Watched σ) α :=
  ⟨served.answer, { watched with line := served.line }, served.events⟩

def handle (apply : ε → σ → Served σ Unit) (event : ε) (watched : Watched σ) :
    Served (Watched σ) Unit :=
  watched.serve (apply event watched.line)

variable [Line σ]

instance : Line (Watched σ) where
  sendByte watched byte := watched.serve (Line.sendByte watched.line byte)
  available watched := watched.serve (Line.available watched.line)
  peek? watched offset := Line.peek? watched.line offset
  consume watched count := { watched with line := Line.consume watched.line count }
  send watched frame :=
    let sent := Line.send watched.line frame
    ⟨sent.answer, ⟨sent.line, ⟨frame, sent.answer.isOk⟩ :: watched.sendings⟩, sent.events⟩
  discardAll watched := watched.serve (Line.discardAll watched.line)

/-- A frame that is taken is recorded as such. -/
theorem sendings_send_of_ok {watched : Watched σ} {frame : List UInt8}
    (taken : (Line.send watched frame).answer = .ok ()) :
    (Line.send watched frame).line.sendings = ⟨frame, true⟩ :: watched.sendings :=
  congrArg (⟨frame, Except.isOk ·⟩ :: watched.sendings) taken

theorem sendings_send_of_error {watched : Watched σ} {frame : List UInt8} {fault : Fault}
    (refused : (Line.send watched frame).answer = .error fault) :
    (Line.send watched frame).line.sendings = ⟨frame, false⟩ :: watched.sendings :=
  congrArg (⟨frame, Except.isOk ·⟩ :: watched.sendings) refused

/-- A watched line is its line. -/
theorem view : Line.View (Watched.line : Watched σ → σ) where
  send _ _ := ⟨rfl, rfl⟩
  available _ := ⟨rfl, rfl⟩
  discardAll _ := ⟨rfl, rfl⟩
  peek? _ _ := rfl
  consume _ _ := rfl

end Watched

/-- The frames that were taken after the latest `unlock` that was, the latest first. -/
def takenSince (unlock : List UInt8) (sendings : List Sending) : List Sending :=
  (sendings.filter (·.taken)).takeWhile (·.frame ≠ unlock)

/-- Refused frames do not count since an unlock frame. -/
theorem takenSince_refused (unlock frame : List UInt8) (earlier : List Sending) :
    takenSince unlock (⟨frame, false⟩ :: earlier) = takenSince unlock earlier := rfl

/-- An unlock frame that is taken begins the count anew. -/
theorem takenSince_self (unlock : List UInt8) (earlier : List Sending) :
    takenSince unlock (⟨unlock, true⟩ :: earlier) = [] := by
  simp only [takenSince, List.filter_cons_of_pos, List.takeWhile_cons, ne_eq, not_true_eq_false,
    decide_false, Bool.false_eq_true, if_false]

/-- Another frame that is taken is counted. -/
theorem takenSince_of_ne {unlock frame : List UInt8} (other : frame ≠ unlock)
    (earlier : List Sending) :
    takenSince unlock (⟨frame, true⟩ :: earlier) =
      ⟨frame, true⟩ :: takenSince unlock earlier := by
  simp only [takenSince, List.filter_cons_of_pos, List.takeWhile_cons, ne_eq, other,
    not_false_eq_true, decide_true, if_true]

/-- What is counted was sent and is no unlock frame. -/
theorem mem_of_mem_takenSince {unlock : List UInt8} {sendings : List Sending}
    {sending : Sending} (since : sending ∈ takenSince unlock sendings) :
    sending ∈ sendings ∧ sending.frame ≠ unlock := by
  constructor
  · have taken := (List.takeWhile_prefix _).subset since
    exact (List.mem_filter.mp taken).1
  · exact of_decide_eq_true (List.all_eq_true.mp List.all_takeWhile sending since)

end MeterPoll
