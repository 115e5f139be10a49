import MeterPoll.Proofs.Poller.Run

/-!
# The history of a run

What the scheduler did on each tick that it acted on, the latest first, and how each request ended:
it was answered by a reply that the collector accepted or rejected, or a later tick that was acted
on still found it without one. A history is written down from what the operations return. What
holds at the start and is kept by every operation holds at the end of every run
(`Poller.Invariant.run`).
-/

namespace MeterPoll

/-- How a request ended, if it did. -/
inductive Fate where
  /-- It waits for a reply. -/
  | out
  | accepted
  | rejected
  /-- A tick that was acted on found it without a reply. -/
  | missed
  deriving DecidableEq, Repr

/-- A request that was sent: the position in the rotation, the address and whether the register was
asked before without a reply. -/
structure Request where
  index : Nat
  register : UInt8
  retry : Bool
  fate : Fate
  deriving DecidableEq, Repr

/-- Ends a request that is out. -/
def Request.settle (fate : Fate) (request : Request) : Request :=
  if request.fate = .out then { request with fate } else request

/-- What the scheduler did on a tick that it acted on. -/
inductive Turn where
  | request (asked : Request)
  /-- The line did not take the request for the register at this position. -/
  | unsent (index : Nat)
  /-- An unlock frame took the place of a request, and the line took it or not. -/
  | unlock (sent : Bool)
  deriving DecidableEq, Repr

/-- The turns of a scheduler, the latest first. -/
abbrev History := List Turn

namespace Turn

def settle (fate : Fate) : Turn → Turn
  | .request asked => .request (asked.settle fate)
  | turn => turn

/-- The request of a turn, if one was sent. -/
def request? : Turn → Option Request
  | .request asked => some asked
  | _ => none

/-- Whether an unlock frame took the place of a request. -/
def IsUnlock : Turn → Prop
  | .unlock _ => True
  | _ => False

end Turn

namespace History

/-- The requests that were sent, the latest first. -/
def requests (history : History) : List Request :=
  history.filterMap Turn.request?

/-- How many requests ended in a way, or are out. -/
def count (history : History) (fate : Fate) : Nat :=
  history.requests.countP (·.fate = fate)

def settle (history : History) (fate : Fate) : History :=
  history.map (Turn.settle fate)

/-- The history after a look for a reply. -/
def look (history : History) : Collected → History
  | .accepted .. => history.settle .accepted
  | .rejected _ => history.settle .rejected
  | .idle | .waiting _ => history

@[simp] theorem requests_cons_request (asked : Request) (history : History) :
    requests (.request asked :: history) = asked :: history.requests := rfl

/-- Ending what is out changes the fates of requests and not their order. -/
@[simp] theorem requests_settle (history : History) (fate : Fate) :
    (history.settle fate).requests = history.requests.map (Request.settle fate) := by
  induction history with
  | nil => rfl
  | cons turn earlier ih =>
      cases turn with
      | request asked => exact congrArg (asked.settle fate :: ·) ih
      | unsent index => exact ih
      | unlock sent => exact ih

end History

namespace Poller

variable {σ ε : Type}

/-- The turn that a tick of the scheduler is, given whether an unlock frame was due. A tick that is
not acted on is none. -/
def turnOf (due : Bool) : Except Fault Tick × Poller σ → Option Turn
  | (.ok .skipped, _) => none
  | (.ok .unlocked, _) => some (.unlock true)
  | (.ok (.requested register retry _), onward) =>
    some (.request ⟨onward.progress.index, register, retry, .out⟩)
  | (.error _, onward) => some (if due then .unlock false else .unsent onward.progress.index)

variable [Line σ]

/-- The history after a move. A tick of the scheduler is a look for a reply, and if it is acted on,
what is still out then is missed. -/
def record (poller : Poller σ) (history : History) : Move ε → History
  | .fastTick => history.look poller.fastTick.1
  | .slowTick =>
    match turnOf poller.unlockDue poller.slowTick with
    | none => history.look poller.collect.1
    | some turn => turn :: (history.look poller.collect.1).settle .missed
  | .start | .setScale .. | .setConversion .. | .line _ => history

variable (handle : ε → σ → Served σ Unit)

/-- The history of a run that goes on from an earlier one. -/
def historyFrom (poller : Poller σ) (history : History) : List (Move ε) → History
  | [] => history
  | move :: rest => (poller.perform handle move).historyFrom (poller.record history move) rest

def history (poller : Poller σ) (moves : List (Move ε)) : History :=
  poller.historyFrom handle [] moves

/-- A predicate on pollers and their histories that every operation keeps. -/
structure Invariant (predicate : Poller σ → History → Prop) : Prop where
  looked : ∀ poller history, predicate poller history →
    predicate poller.collect.2 (history.look poller.collect.1)
  counted : ∀ poller history ticks, predicate poller history →
    predicate { poller with ticks } history
  acted : ∀ poller history turn, predicate poller history →
    turnOf poller.unlockDue poller.act = some turn →
      predicate poller.act.2 (turn :: history.settle .missed)
  started : ∀ poller history, predicate poller history → predicate poller.start.2 history
  calibrated : ∀ poller history table log, predicate poller history →
    table.addresses = poller.table.addresses → predicate { poller with table, log } history
  moved : ∀ poller history line log, predicate poller history →
    predicate { poller with line, log } history

/-- A turn always stands in the history. -/
theorem turnOf_act_isSome (poller : Poller σ) :
    (turnOf poller.unlockDue poller.act).isSome = true := by
  have effect := poller.actEffect
  generalize poller.act = result at effect ⊢
  cases effect with
  | unlocked => rfl
  | unlockFailed => rfl
  | asked _ _ sent => cases sent <;> rfl

namespace Invariant

variable {predicate : Poller σ → History → Prop}

/-- An invariant is kept by a tick, whether the tick is acted on or not. -/
theorem slowTick (invariant : Invariant predicate) (poller : Poller σ) (history : History)
    (holds : predicate poller history) :
    predicate poller.slowTick.2 (poller.record history (.slowTick : Move ε)) := by
  have looked : predicate poller.looked (history.look poller.collect.1) :=
    invariant.counted _ _ _ (invariant.looked poller history holds)
  unfold record
  rw [poller.slowTick_eq]
  split_ifs with acts
  · obtain ⟨turn, taken⟩ := Option.isSome_iff_exists.mp poller.looked.turnOf_act_isSome
    rw [← poller.unlockDue_looked, taken]
    exact invariant.acted _ _ turn looked taken
  · exact looked

/-- An invariant is kept by every move. -/
theorem perform (invariant : Invariant predicate) (poller : Poller σ) (history : History)
    (holds : predicate poller history) (move : Move ε) :
    predicate (poller.perform handle move) (poller.record history move) := by
  cases move with
  | start => exact invariant.started poller history holds
  | slowTick => exact invariant.slowTick poller history holds
  | fastTick => exact invariant.looked poller history holds
  | setScale quantity scale =>
      have effect := poller.setScale_effect quantity scale
      simp only [Poller.perform, record]
      generalize poller.setScale quantity scale = result at effect ⊢
      cases effect with
      | calibrated table log same => exact invariant.calibrated _ _ table log holds same
      | refused => exact holds
  | setConversion quantity conversion =>
      have effect := poller.setConversion_effect quantity conversion
      simp only [Poller.perform, record]
      generalize poller.setConversion quantity conversion = result at effect ⊢
      cases effect with
      | calibrated table log same => exact invariant.calibrated _ _ table log holds same
      | refused => exact holds
  | line event => exact invariant.moved poller history _ _ holds

/-- What holds at the start holds at the end of every run. -/
theorem run (invariant : Invariant predicate) (moves : List (Move ε)) (poller : Poller σ)
    (history : History) (holds : predicate poller history) :
    predicate (poller.run handle moves) (poller.historyFrom handle history moves) := by
  induction moves generalizing poller history with
  | nil => exact holds
  | cons move rest ih => exact ih _ _ (invariant.perform handle poller history holds move)

end Invariant

end Poller

end MeterPoll
