import MeterPoll.Proofs.Poller.History

/-!
# The order of turns

Which register a history calls for next, and whether as a retry (`History.due`): a register that
was missed is asked again until it has had all its tries, and after an answer, the last try or a
request that the line did not take the next one has its turn; unlock frames change nothing. A
history is lawful if every turn was for what the turns before it called for (`History.Lawful`).
Requests fall into bursts, each of them one that is no retry and the retries after it.
-/

namespace MeterPoll

namespace Turn

/-- Whether a turn is a request for the register at a position, sent or not. Whether it is a retry
can be told of those that were sent. -/
def AsksFor (index : Nat) (retry : Bool) : Turn → Prop
  | .request asked => asked.index = index ∧ asked.retry = retry
  | .unsent attempted => attempted = index
  | .unlock _ => False

end Turn

namespace History

/-- Adds a request to bursts, the latest of both first. A retry belongs to the latest burst. -/
def addToBursts (request : Request) : List (List Request) → List (List Request)
  | [] => [[request]]
  | burst :: others =>
    if request.retry then (request :: burst) :: others else [request] :: burst :: others

/-- The requests in bursts, the latest first. -/
def bursts (history : History) : List (List Request) :=
  history.requests.foldr addToBursts []

/-- How many requests the latest burst has. -/
def attempts (history : History) : Nat :=
  (history.bursts.headD []).length

/-- The position that comes next and whether the register there is asked again. -/
def due (table : Table) (maxRetries : Nat) : History → Nat × Bool
  | [] => (0, false)
  | .unlock _ :: earlier => due table maxRetries earlier
  | .unsent index :: _ => (table.next index, false)
  | .request asked :: earlier =>
    match asked.fate with
    | .accepted | .rejected => (table.next asked.index, false)
    | .missed | .out =>
      if attempts (.request asked :: earlier) < maxRetries then (asked.index, true)
      else (table.next asked.index, false)

/-- Nothing is out. -/
def Ended (history : History) : Prop :=
  ∀ request ∈ history.requests, request.fate ≠ .out

/-- Every turn was for what the turns before it called for and came when nothing was out any more.
What follows a request that the line did not take is another request. -/
inductive Lawful (table : Table) (maxRetries : Nat) : History → Prop
  | nil : Lawful table maxRetries []
  | request {history : History} (asked : Request) (lawful : Lawful table maxRetries history)
      (ended : history.Ended) (due : (asked.index, asked.retry) = history.due table maxRetries)
      (inside : asked.index < table.length)
      (register : asked.register = (table.get asked.index).address) :
      Lawful table maxRetries (.request asked :: history)
  | unsent {history : History} (index : Nat) (lawful : Lawful table maxRetries history)
      (ended : history.Ended) (due : index = (history.due table maxRetries).1) :
      Lawful table maxRetries (.unsent index :: history)
  | unlock {history : History} (sent : Bool) (lawful : Lawful table maxRetries history)
      (ended : history.Ended) (free : ∀ index earlier, history ≠ .unsent index :: earlier) :
      Lawful table maxRetries (.unlock sent :: history)

/-! ### Bursts -/

theorem bursts_cons_request (asked : Request) (history : History) :
    bursts (.request asked :: history) = addToBursts asked history.bursts := rfl

/-- The latest request stands first in the latest burst. -/
theorem bursts_cons_request_eq (asked : Request) (history : History) :
    ∃ rest others, bursts (.request asked :: history) = (asked :: rest) :: others := by
  rw [bursts_cons_request]
  cases history.bursts with
  | nil => exact ⟨[], [], rfl⟩
  | cons burst others =>
      unfold addToBursts
      split_ifs
      · exact ⟨burst, others, rfl⟩
      · exact ⟨[], burst :: others, rfl⟩

/-- A retry makes the latest burst longer, and any other request begins one. -/
theorem attempts_cons_request (asked : Request) (history : History) :
    attempts (.request asked :: history) = if asked.retry then history.attempts + 1 else 1 := by
  rw [attempts, bursts_cons_request]
  cases held : history.bursts with
  | nil => cases retried : asked.retry <;> simp [addToBursts, attempts, held]
  | cons burst others => cases retried : asked.retry <;> simp [addToBursts, attempts, held, retried]

/-- How often a register was asked does not depend on how the requests ended. -/
@[simp] theorem attempts_settle (history : History) (fate : Fate) :
    (history.settle fate).attempts = history.attempts := by
  induction history with
  | nil => rfl
  | cons turn earlier ih =>
      cases turn with
      | request asked =>
          have retry : (asked.settle fate).retry = asked.retry := by
            unfold Request.settle
            split_ifs <;> rfl
          change attempts (.request (asked.settle fate) :: settle earlier fate) = _
          rw [attempts_cons_request, attempts_cons_request, ih, retry]
      | unsent index => exact ih
      | unlock sent => exact ih

/-! ### Ends -/

/-- Once the request that is out is given a fate, nothing is out. -/
theorem ended_settle (history : History) {fate : Fate} (ended : fate ≠ .out) :
    (history.settle fate).Ended := by
  intro request member
  rw [requests_settle] at member
  obtain ⟨earlier, _, rfl⟩ := List.mem_map.mp member
  unfold Request.settle
  split_ifs with out
  · exact ended
  · exact out

/-- With nothing out there is nothing to end. -/
theorem Ended.settle_eq {history : History} (ended : history.Ended) (fate : Fate) :
    history.settle fate = history := by
  induction history with
  | nil => rfl
  | cons turn earlier ih =>
      cases turn with
      | request asked =>
          have now : asked.settle fate = asked := if_neg (ended asked List.mem_cons_self)
          have before := ih fun request member => ended request (List.mem_cons_of_mem _ member)
          change Turn.request (asked.settle fate) :: settle earlier fate = _
          rw [now, before]
      | unsent index => exact congrArg (Turn.unsent index :: ·) (ih ended)
      | unlock sent => exact congrArg (Turn.unlock sent :: ·) (ih ended)

/-- A fate is given to the latest request if it is out. -/
theorem settle_cons_request {earlier : History} (ended : earlier.Ended) {asked : Request}
    (out : asked.fate = .out) (fate : Fate) :
    settle (.request asked :: earlier) fate = .request { asked with fate } :: earlier := by
  have now : asked.settle fate = { asked with fate } := if_pos out
  change Turn.request (asked.settle fate) :: settle earlier fate = _
  rw [now, ended.settle_eq]

/-! ### What comes next -/

variable {table : Table} {maxRetries : Nat} {history : History}

/-- A miss changes nothing in what comes next, which was settled when the request went out. -/
@[simp] theorem due_settle_missed :
    (history.settle .missed).due table maxRetries = history.due table maxRetries := by
  induction history with
  | nil => rfl
  | cons turn earlier ih =>
      cases turn with
      | request asked =>
          have tries := attempts_settle (.request asked :: earlier) .missed
          change attempts (.request (asked.settle .missed) :: settle earlier .missed) = _ at tries
          change due table maxRetries
            (.request (asked.settle .missed) :: settle earlier .missed) = _
          simp only [due, tries]
          unfold Request.settle
          cases fate : asked.fate <;> simp [fate]
      | unsent index => rfl
      | unlock sent => exact ih

/-- Unlock frames do not change what is due. -/
theorem due_append_unlocks {between : History} (unlocks : ∀ turn ∈ between, turn.IsUnlock) :
    due table maxRetries (between ++ history) = history.due table maxRetries := by
  induction between with
  | nil => rfl
  | cons turn rest ih =>
      have here := unlocks turn List.mem_cons_self
      have others := ih fun turn member => unlocks turn (List.mem_cons_of_mem _ member)
      cases turn with
      | unlock sent => exact others
      | request asked => exact here.elim
      | unsent index => exact here.elim

/-- A register is asked again only after a try that was not answered, within the tries of its
burst. -/
theorem due_retry (retry : (history.due table maxRetries).2 = true) :
    ∃ request rest others, history.bursts = (request :: rest) :: others ∧
      request.index = (history.due table maxRetries).1 ∧
      (request.fate = .missed ∨ request.fate = .out) ∧ history.attempts < maxRetries := by
  induction history with
  | nil => cases retry
  | cons turn earlier ih =>
      cases turn with
      | unsent index => cases retry
      | unlock sent => exact ih retry
      | request asked =>
          obtain ⟨rest, others, latest⟩ := bursts_cons_request_eq asked earlier
          refine ⟨asked, rest, others, latest, ?_⟩
          have left (unanswered : asked.fate = .missed ∨ asked.fate = .out) :
              attempts (.request asked :: earlier) < maxRetries := by
            by_contra spent
            rcases unanswered with fate | fate <;> simp [due, fate, spent] at retry
          cases fate : asked.fate with
          | accepted => simp [due, fate] at retry
          | rejected => simp [due, fate] at retry
          | missed => exact ⟨by simp [due, fate, left (.inl fate)], .inl rfl, left (.inl fate)⟩
          | out => exact ⟨by simp [due, fate, left (.inr fate)], .inr rfl, left (.inr fate)⟩

/-! ### Lawful histories -/

namespace Lawful

/-- What came first of a lawful history is lawful. -/
theorem of_append {later earlier : History}
    (lawful : Lawful table maxRetries (later ++ earlier)) : Lawful table maxRetries earlier := by
  induction later with
  | nil => exact lawful
  | cons turn rest ih =>
      cases lawful with
      | request _ lawful => exact ih lawful
      | unsent _ lawful => exact ih lawful
      | unlock _ lawful => exact ih lawful

/-- When a turn begins, nothing is out. -/
theorem ended_of_cons {turn : Turn} (lawful : Lawful table maxRetries (turn :: history)) :
    history.Ended := by
  cases lawful <;> assumption

/-- Ending what is out keeps a history lawful, and what was due before is due. -/
theorem settle (lawful : Lawful table maxRetries history) (fate : Fate) :
    Lawful table maxRetries (history.settle fate) := by
  -- Only the latest turn can be out, so the turns before it stay as they are.
  cases lawful with
  | nil => exact .nil
  | request asked lawful ended due inside register =>
      change Lawful table maxRetries (.request (asked.settle fate) :: History.settle _ fate)
      rw [ended.settle_eq]
      unfold Request.settle
      split_ifs
      · exact .request _ lawful ended due inside register
      · exact .request asked lawful ended due inside register
  | unsent index lawful ended due =>
      change Lawful table maxRetries (.unsent index :: History.settle _ fate)
      rw [ended.settle_eq]
      exact .unsent index lawful ended due
  | unlock sent lawful ended free =>
      change Lawful table maxRetries (.unlock sent :: History.settle _ fate)
      rw [ended.settle_eq]
      exact .unlock sent lawful ended free

/-- A turn that is not for an unlock frame asks for what was due. -/
theorem asksFor {turn : Turn} (lawful : Lawful table maxRetries (turn :: history))
    (asks : ¬ turn.IsUnlock) :
    turn.AsksFor (history.due table maxRetries).1 (history.due table maxRetries).2 := by
  cases lawful with
  | request asked _ _ due =>
      rw [← due]
      exact ⟨rfl, rfl⟩
  | unsent index _ _ due => exact due
  | unlock sent => exact (asks trivial).elim

/-- No register is asked more often in a burst than it has tries. -/
theorem attempts_le (lawful : Lawful table maxRetries history) (positive : 1 ≤ maxRetries) :
    history.attempts ≤ maxRetries := by
  induction lawful with
  | nil => exact Nat.zero_le _
  | @request earlier asked _ _ due _ _ ih =>
      rw [attempts_cons_request]
      split_ifs with retried
      · have retry : (earlier.due table maxRetries).2 = true := by rw [← due, retried]
        obtain ⟨_, _, _, _, _, _, left⟩ := due_retry retry
        exact left
      · exact positive
  | unsent index _ _ _ ih => exact ih
  | unlock sent _ _ _ ih => exact ih

/-- Every request is for a register of the table, by its address. -/
theorem mem_requests (lawful : Lawful table maxRetries history) {request : Request}
    (member : request ∈ history.requests) :
    request.index < table.length ∧ request.register = (table.get request.index).address := by
  induction lawful with
  | nil => cases member
  | request asked _ _ _ inside register ih =>
      rcases List.mem_cons.mp member with rfl | before
      · exact ⟨inside, register⟩
      · exact ih before
  | unsent index _ _ _ ih => exact ih member
  | unlock sent _ _ _ ih => exact ih member

end Lawful

end History

end MeterPoll
