import MeterPoll.Proofs.Poller.Rotation

/-!
# Waiting for a turn

However a device behaves, a register waits for its turn only so long. After a request for one
position of the table, the position that comes `steps` later has its turn as soon as so many more
requests were sent as the positions on the way have tries (`History.Lawful.exists_turn`). So among
as many requests in a row as there are tries for the whole table every register has its turn
(`Poller.fair_run`). Unlock frames may come in between. A request that the line did not take may
not, since its register loses the turn.
-/

namespace MeterPoll

namespace Table

/-- Every address of a table is less than one round away from any position. -/
theorem exists_steps (table : Table) {address : UInt8} (member : address ∈ table.addresses)
    {index : Nat} (inside : index < table.length) :
    ∃ steps < table.length,
      (table.get ((index + steps) % table.length)).address = address := by
  obtain ⟨position, bound, there⟩ := List.getElem_of_mem member
  rw [length_addresses] at bound
  refine ⟨(position + (table.length - index)) % table.length, Nat.mod_lt _ table.length_pos, ?_⟩
  have round : (index + (position + (table.length - index)) % table.length) % table.length =
      position := by
    have around : index + (position + (table.length - index)) = position + table.length := by omega
    rw [Nat.add_mod_mod, around, Nat.add_mod_right, Nat.mod_eq_of_lt bound]
  have found := table.getElem?_addresses position
  rw [Nat.mod_eq_of_lt bound] at found
  rw [round]
  exact Option.some.inj (found.symm.trans (List.getElem?_eq_some_iff.mpr ⟨_, there⟩))

end Table

namespace History

variable {table : Table} {maxRetries : Nat} {later earlier : History} {first : Request}

/-- Unless the line did not take a request, what comes after the latest request is a retry of it or
a request for the next register. -/
theorem due_since (sent : ∀ index, .unsent index ∉ later) :
    let latest := later.requests.headD first
    due table maxRetries (later ++ .request first :: earlier) = (latest.index, true) ∨
      due table maxRetries (later ++ .request first :: earlier) =
        (table.next latest.index, false) := by
  have ofRequest (asked : Request) (before : History) :
      due table maxRetries (.request asked :: before) = (asked.index, true) ∨
        due table maxRetries (.request asked :: before) = (table.next asked.index, false) := by
    cases fate : asked.fate with
    | accepted => exact .inr (by simp only [due, fate])
    | rejected => exact .inr (by simp only [due, fate])
    | missed | out =>
        simp only [due, fate]
        split_ifs
        · exact .inl rfl
        · exact .inr rfl
  induction later with
  | nil => exact ofRequest first earlier
  | cons turn rest ih =>
      cases turn with
      | unlock taken => exact ih fun index member => sent index (List.mem_cons_of_mem _ member)
      | unsent index => exact absurd List.mem_cons_self (sent index)
      | request asked => exact ofRequest asked _

/-- How far the rotation has come since a request: `steps` positions on, with every position on the
way asked for, and each of them no more often than it has tries. -/
structure Advanced (table : Table) (maxRetries : Nat) (first : Request) (later earlier : History)
    (steps : Nat) : Prop where
  latest : (later.requests.headD first).index = (first.index + steps) % table.length
  count : later.requests.length + 1 ≤
    maxRetries * steps + attempts (later ++ .request first :: earlier)
  asked : ∀ passed ≤ steps, ∃ request ∈ later.requests ++ [first],
    request.index = (first.index + passed) % table.length

namespace Advanced

variable {steps : Nat} {asked : Request}

/-- At the first request the rotation has not come on yet. -/
theorem start (inside : first.index < table.length) :
    Advanced table maxRetries first [] earlier 0 := by
  have here : first.index = (first.index + 0) % table.length := by
    rw [Nat.add_zero, Nat.mod_eq_of_lt inside]
  refine ⟨here, ?_, fun passed none => ?_⟩
  · change 1 ≤ maxRetries * 0 + attempts (.request first :: earlier)
    rw [attempts_cons_request]
    split_ifs <;> omega
  · obtain rfl := Nat.le_zero.mp none
    exact ⟨first, List.mem_singleton_self first, here⟩

/-- What was asked for before one more request is still among those asked for. -/
theorem asked_cons (advanced : Advanced table maxRetries first later earlier steps)
    (asked : Request) {passed : Nat} (behind : passed ≤ steps) :
    ∃ request ∈ asked :: later.requests ++ [first],
      request.index = (first.index + passed) % table.length := by
  obtain ⟨request, member, index⟩ := advanced.asked passed behind
  exact ⟨request, List.mem_cons_of_mem _ member, index⟩

/-- The register that was asked last has one more of its tries. -/
theorem retry (advanced : Advanced table maxRetries first later earlier steps)
    (retry : asked.retry = true) (same : asked.index = (later.requests.headD first).index) :
    Advanced table maxRetries first (.request asked :: later) earlier steps := by
  have count := advanced.count
  refine ⟨same.trans advanced.latest, ?_, fun passed behind => advanced.asked_cons asked behind⟩
  change later.requests.length + 1 + 1 ≤
    maxRetries * steps + attempts (.request asked :: (later ++ .request first :: earlier))
  rw [attempts_cons_request, if_pos retry]
  omega

/-- The next register has its first try, after no more of them than the one before it has. -/
theorem next (advanced : Advanced table maxRetries first later earlier steps)
    (bounded : attempts (later ++ .request first :: earlier) ≤ maxRetries)
    (fresh : asked.retry = false)
    (next : asked.index = table.next (later.requests.headD first).index) :
    Advanced table maxRetries first (.request asked :: later) earlier (steps + 1) := by
  have here : asked.index = (first.index + (steps + 1)) % table.length := by
    rw [next, advanced.latest, Table.next, Nat.mod_add_mod, Nat.add_assoc]
  have count := advanced.count
  refine ⟨here, ?_, fun passed behind => ?_⟩
  · change later.requests.length + 1 + 1 ≤
      maxRetries * (steps + 1) + attempts (.request asked :: (later ++ .request first :: earlier))
    rw [attempts_cons_request, if_neg (Bool.eq_false_iff.mp fresh), Nat.mul_succ]
    omega
  · rcases Nat.lt_or_eq_of_le behind with less | rfl
    · exact advanced.asked_cons asked (Nat.le_of_lt_succ less)
    · exact ⟨asked, List.mem_cons_self, here⟩

end Advanced

/-- Every later point of a lawful history is so many positions on. -/
theorem Lawful.exists_advanced
    (lawful : Lawful table maxRetries (later ++ .request first :: earlier))
    (positive : 1 ≤ maxRetries) (sent : ∀ index, .unsent index ∉ later) :
    ∃ steps, Advanced table maxRetries first later earlier steps := by
  induction later with
  | nil => exact ⟨0, .start (lawful.mem_requests List.mem_cons_self).1⟩
  | cons turn rest ih =>
      have others : ∀ index, .unsent index ∉ rest := fun index member =>
        sent index (List.mem_cons_of_mem _ member)
      have split : turn :: rest ++ .request first :: earlier =
          [turn] ++ (rest ++ .request first :: earlier) := rfl
      have before : Lawful table maxRetries (rest ++ .request first :: earlier) := by
        rw [split] at lawful
        exact lawful.of_append
      obtain ⟨steps, advanced⟩ := ih before others
      cases turn with
      | unlock taken => exact ⟨steps, advanced.latest, advanced.count, advanced.asked⟩
      | unsent index => exact absurd List.mem_cons_self (sent index)
      | request asked =>
          have asks : Turn.AsksFor _ _ (.request asked) := lawful.asksFor id
          change Turn.AsksFor (due table maxRetries (rest ++ .request first :: earlier)).1
            (due table maxRetries (rest ++ .request first :: earlier)).2 _ at asks
          rcases due_since others with same | next
          · rw [same] at asks
            exact ⟨steps, advanced.retry asks.2 asks.1⟩
          · rw [next] at asks
            exact ⟨steps + 1, advanced.next (before.attempts_le positive) asks.2 asks.1⟩

/-- A position has its turn once all the tries on the way to it can be used up. -/
theorem Lawful.exists_turn (lawful : Lawful table maxRetries (later ++ .request first :: earlier))
    (positive : 1 ≤ maxRetries) (sent : ∀ index, .unsent index ∉ later) {steps : Nat}
    (long : maxRetries * steps ≤ later.requests.length) :
    ∃ request ∈ later.requests ++ [first],
      request.index = (first.index + steps) % table.length := by
  obtain ⟨reached, advanced⟩ := lawful.exists_advanced positive sent
  apply advanced.asked
  have count := advanced.count
  have bounded := lawful.attempts_le positive
  have less : maxRetries * steps < maxRetries * (reached + 1) := by
    rw [Nat.mul_succ]
    omega
  exact Nat.le_of_lt_succ (Nat.lt_of_mul_lt_mul_left less)

/-- The first request of a window, with the turns of the window before and after it. -/
theorem exists_first {window : History} (some : 0 < window.requests.length) :
    ∃ (later : History) (first : Request) (before : History),
      window = later ++ .request first :: before ∧ window.requests = later.requests ++ [first] := by
  induction window with
  | nil => exact absurd some (Nat.lt_irrefl 0)
  | cons turn rest ih =>
      by_cases more : 0 < (requests rest).length
      · obtain ⟨later, first, before, split, same⟩ := ih more
        refine ⟨turn :: later, first, before, congrArg (turn :: ·) split, ?_⟩
        cases turn with
        | request asked => exact congrArg (asked :: ·) same
        | unsent index => exact same
        | unlock taken => exact same
      · have none : requests rest = [] := List.length_eq_zero_iff.mp (Nat.eq_zero_of_not_pos more)
        cases turn with
        | request asked =>
            refine ⟨[], asked, rest, rfl, ?_⟩
            rw [requests_cons_request, none]
            rfl
        | unsent index => exact absurd some more
        | unlock taken => exact absurd some more

/-- Giving a fate to a request makes no other request one that was not sent. -/
theorem unsent_not_mem_settle {history : History} (sent : ∀ index, .unsent index ∉ history)
    (fate : Fate) : ∀ index, .unsent index ∉ history.settle fate := by
  intro index member
  obtain ⟨turn, among, settled⟩ := List.mem_map.mp member
  cases turn with
  | request asked => cases settled
  | unlock taken => cases settled
  | unsent attempted => exact sent attempted among

/-- How long registers wait for their turns, given the addresses of the table and how many tries a
register has. -/
structure Fair (table : Table) (maxRetries : Nat) (history : History) : Prop where
  /-- Among so many requests in a row every register has its turn. -/
  window : ∀ latest window earlier : History, history = latest ++ (window ++ earlier) →
    (∀ index, .unsent index ∉ window) → maxRetries * table.length ≤ window.requests.length →
    ∀ address ∈ table.addresses, ∃ request ∈ window.requests, request.register = address
  /-- A register holds up those that come after it by no more requests than it has tries. -/
  delay : ∀ (latest later : History) (first : Request) (earlier : History),
    history = latest ++ (later ++ .request first :: earlier) →
    (∀ index, .unsent index ∉ later) →
    ∀ steps, maxRetries * steps ≤ later.requests.length →
    ∃ request ∈ later.requests ++ [first], request.index = (first.index + steps) % table.length

/-- In a lawful history no register waits too long. -/
theorem Lawful.fair {history : History} (lawful : history.Lawful table maxRetries)
    (positive : 1 ≤ maxRetries) : history.Fair table maxRetries where
  window latest window earlier split sent long address member := by
    rw [split] at lawful
    have lawful := lawful.of_append
    have within {request : Request} (among : request ∈ window.requests) :
        request ∈ requests (window ++ earlier) := by
      rw [requests, List.filterMap_append]
      exact List.mem_append_left _ among
    have whole : 0 < maxRetries * table.length := Nat.mul_pos positive table.length_pos
    obtain ⟨later, first, before, same, requests⟩ := exists_first (Nat.lt_of_lt_of_le whole long)
    have inside : first.index < table.length := by
      refine (lawful.mem_requests (within ?_)).1
      rw [requests]
      exact List.mem_append_right _ (List.mem_singleton_self first)
    -- The position of the address comes less than one round after that of the first request.
    obtain ⟨steps, less, there⟩ := table.exists_steps member inside
    have enough : maxRetries * steps ≤ later.requests.length := by
      have less := Nat.mul_lt_mul_of_pos_left less positive
      rw [requests, List.length_append, List.length_singleton] at long
      omega
    have others : ∀ index, .unsent index ∉ later := by
      intro index among
      rw [same] at sent
      exact sent index (List.mem_append_left _ among)
    have since : Lawful table maxRetries (later ++ .request first :: (before ++ earlier)) := by
      rw [same, List.append_assoc] at lawful
      exact lawful
    obtain ⟨request, among, index⟩ := since.exists_turn positive others enough
    rw [← requests] at among
    refine ⟨request, among, ?_⟩
    rw [(lawful.mem_requests (within among)).2, index, there]
  delay latest later first earlier split sent steps long := by
    rw [split] at lawful
    exact lawful.of_append.exists_turn positive sent long

end History

namespace Poller

variable {σ ε : Type} [Line σ]

/-- A line that takes all frames takes all requests. -/
theorem invariant_sent (takes : ∀ (line : σ) frame, (Line.send line frame).answer = .ok ()) :
    Invariant fun (_ : Poller σ) history => ∀ index, .unsent index ∉ history where
  looked poller history sent := by
    cases poller.collect.1 with
    | accepted => exact History.unsent_not_mem_settle sent _
    | rejected => exact History.unsent_not_mem_settle sent _
    | idle => exact sent
    | waiting => exact sent
  counted _ _ _ sent := sent
  acted poller history turn sent taken index member := by
    rcases List.mem_cons.mp member with rfl | before
    · have effect := poller.actEffect
      generalize poller.act = result at effect taken
      cases effect with
      | unlocked => cases taken
      | unlockFailed log fault onward due effect =>
          cases effect with
          | unsent _ _ refused =>
              rw [takes] at refused
              cases refused
      | asked result undue effect =>
          cases effect with
          | sent => cases taken
          | unsent fault log refused =>
              rw [takes] at refused
              cases refused
    · exact History.unsent_not_mem_settle sent _ index before
  started _ _ sent := sent
  calibrated _ _ _ _ sent _ := sent
  moved _ _ _ _ sent := sent

/-- **No register starves.** On every run from the start, among as many requests in a row as there
are tries for the whole table every register has its turn, and each register holds up the others by
no more requests than it has tries, as long as the line takes the requests. -/
theorem fair_run (handle : ε → σ → Served σ Unit) (line : σ) (table : Table) (options : Options)
    (moves : List (Move ε)) :
    let history := (new line table options).history handle moves
    history.Fair table options.atLeastOne.maxRetries ∧
      ((∀ (line : σ) frame, (Line.send line frame).answer = .ok ()) →
        ∀ index, .unsent index ∉ history) := by
  have tracks := invariant_tracks.run handle moves _ _ (tracks_new line table options)
  refine ⟨tracks.lawful.fair (Nat.le_max_right _ _), fun takes => ?_⟩
  exact (invariant_sent takes).run handle moves _ _ (fun index => List.not_mem_nil)

end Poller

end MeterPoll
