import MeterPoll.Proofs.Poller.History

/-!
# Accounting for requests

Every request that was sent is accepted, rejected, missed or still out, at most one is out, and the
counters say how many there are of each (`Progress.Balanced`). It holds whatever the line does, for
ticks, starts, unlock frames and calibrations in any order (`Poller.invariant_balanced`,
`Poller.tx_run`).
-/

namespace MeterPoll

namespace History

/-- The request that is out is counted under its fate once it has one. -/
theorem count_settle (history : History) {fate : Fate} (ended : fate ≠ .out) (other : Fate) :
    (history.settle fate).count other =
      if other = .out then 0
      else if other = fate then history.count fate + history.count .out
      else history.count other := by
  unfold count
  rw [requests_settle]
  induction history.requests with
  | nil => simp
  | cons request earlier ih =>
      simp only [List.map_cons, List.countP_cons, ih, Request.settle, decide_eq_true_eq]
      by_cases out : request.fate = .out
      · by_cases same : other = fate
        · subst same
          simp only [out, if_true, if_neg ended, if_neg ended.symm]
          omega
        · by_cases pending : other = .out
          · simp only [pending, out, if_true, if_neg ended]
          · simp only [out, if_true, if_neg same, if_neg pending, if_neg (Ne.symm same),
              if_neg (Ne.symm pending)]
      · by_cases same : other = fate
        · subst same
          simp only [out, if_false, if_true, if_neg ended]
          omega
        · by_cases pending : other = .out
          · simp only [pending, out, if_false, if_true]
          · simp only [out, if_false, if_neg same, if_neg pending]

/-- Every request was accepted, rejected or missed, or is out. -/
theorem length_requests (history : History) : history.requests.length =
    history.count .accepted + history.count .rejected + history.count .missed +
      history.count .out := by
  unfold count
  induction history.requests with
  | nil => rfl
  | cons request earlier ih =>
      simp only [List.length_cons, List.countP_cons, decide_eq_true_eq, ih]
      cases request.fate <;> simp only [reduceCtorEq, if_true, if_false] <;> omega

end History

namespace Progress

/-- How many requests the counters say ended in a way, or are out. -/
def tally (progress : Progress) : Fate → Nat
  | .accepted => progress.counters.good
  | .rejected => progress.counters.bad
  | .missed => progress.counters.misses
  | .out => if progress.awaiting then 1 else 0

/-- The counters say how many requests were sent and how many of them ended in each way. -/
structure Balanced (progress : Progress) (history : History) : Prop where
  sent : progress.counters.tx = history.requests.length
  ended : ∀ fate, progress.tally fate = history.count fate

namespace Balanced

variable {progress after : Progress} {history : History}

/-- The balance of the counters. -/
theorem tx_eq (balanced : progress.Balanced history) :
    progress.counters.tx = progress.counters.good + progress.counters.bad +
      progress.counters.misses + if progress.awaiting then 1 else 0 := by
  have good : progress.counters.good = history.count .accepted := balanced.ended .accepted
  have bad : progress.counters.bad = history.count .rejected := balanced.ended .rejected
  have misses : progress.counters.misses = history.count .missed := balanced.ended .missed
  have out : (if progress.awaiting then 1 else 0) = history.count .out := balanced.ended .out
  rw [balanced.sent, history.length_requests, good, bad, misses, out]

/-- Counters that move what is out to its end stay balanced. -/
theorem settle (balanced : progress.Balanced history) {fate : Fate} (ended : fate ≠ .out)
    (sent : after.counters.tx = progress.counters.tx)
    (moved : ∀ other, after.tally other =
      if other = .out then 0
      else if other = fate then progress.tally fate + progress.tally .out
      else progress.tally other) :
    after.Balanced (history.settle fate) where
  sent := by rw [sent, balanced.sent, History.requests_settle, List.length_map]
  ended other := by
    rw [moved, history.count_settle ended]
    simp only [balanced.ended]

end Balanced

end Progress

namespace Poller

variable {σ ε : Type} [Line σ]

/-- A look for a reply keeps the balance. -/
theorem balanced_look {poller : Poller σ} {history : History}
    (balanced : poller.progress.Balanced history) :
    poller.collect.2.progress.Balanced (history.look poller.collect.1) := by
  have effect := poller.collectEffect
  generalize poller.collect = result at effect ⊢
  cases effect with
  | idle => exact balanced
  | waiting => exact ⟨balanced.sent, balanced.ended⟩
  | accepted reply raw log out =>
      refine balanced.settle (by decide) rfl fun other => ?_
      cases other <;> simp [Progress.tally, out]
  | rejected reply mismatch log out =>
      refine balanced.settle (by decide) rfl fun other => ?_
      cases other <;> simp [Progress.tally, out]

/-- Choosing a register counts what is out as missed, so that nothing is out. -/
theorem balanced_choose {poller : Poller σ} {history : History}
    (balanced : poller.progress.Balanced history) :
    poller.choose.2.progress.awaiting = false ∧
      poller.choose.2.progress.Balanced (history.settle .missed) := by
  have effect := poller.chooseEffect
  generalize poller.choose = result at effect ⊢
  cases effect with
  | gaveUp log out =>
      refine ⟨rfl, balanced.settle (by decide) rfl fun other => ?_⟩
      cases other <;> simp [Progress.tally, emptied, drained, out]
  | retrying log out =>
      refine ⟨rfl, balanced.settle (by decide) rfl fun other => ?_⟩
      cases other <;> simp [Progress.tally, emptied, drained, out]
  | resumed calm =>
      refine ⟨calm, balanced.settle (by decide) rfl fun other => ?_⟩
      cases other <;> simp [Progress.tally, calm]
  | advanced calm =>
      refine ⟨calm, balanced.settle (by decide) rfl fun other => ?_⟩
      cases other <;> simp [Progress.tally, Progress.advance, calm]

/-- A turn of the scheduler keeps the balance. -/
theorem balanced_act {poller : Poller σ} {history : History} {turn : Turn}
    (balanced : poller.progress.Balanced history)
    (taken : turnOf poller.unlockDue poller.act = some turn) :
    poller.act.2.progress.Balanced (turn :: history.settle .missed) := by
  obtain ⟨calm, chosen⟩ := balanced_choose balanced
  have effect := poller.actEffect
  generalize poller.act = result at effect taken ⊢
  generalize poller.choose = choice at effect calm chosen
  cases effect with
  | unlocked log onward due effect =>
      cases taken
      cases effect
      exact ⟨chosen.sent, chosen.ended⟩
  | unlockFailed log fault onward due effect =>
      cases taken
      cases effect
      split_ifs <;> exact ⟨chosen.sent, chosen.ended⟩
  | asked result undue effect =>
      cases effect with
      | sent log =>
          cases taken
          refine ⟨by simpa using chosen.sent, fun fate => ?_⟩
          have before := chosen.ended fate
          cases fate <;>
            simp_all [Progress.tally, History.count, emptied, drained]
      | unsent fault log =>
          cases taken
          split_ifs <;> exact ⟨chosen.sent, chosen.ended⟩

theorem balanced_start {poller : Poller σ} {history : History}
    (balanced : poller.progress.Balanced history) :
    poller.start.2.progress.Balanced history := by
  have effect := poller.startEffect
  generalize poller.start = result at effect ⊢
  cases effect with
  | plain => exact ⟨balanced.sent, balanced.ended⟩
  | unlocking before after result asked effect =>
      cases effect <;> exact ⟨balanced.sent, balanced.ended⟩

/-- The balance holds along every run. -/
theorem invariant_balanced :
    Invariant fun (poller : Poller σ) history => poller.progress.Balanced history where
  looked _ _ := balanced_look
  counted _ _ _ := id
  acted _ _ _ := balanced_act
  started _ _ := balanced_start
  calibrated _ _ _ _ balanced _ := balanced
  moved _ _ _ _ := id

/-- **Every request is accounted for.** On every run from the start, the requests that were sent are
those that were accepted, rejected or missed and the one that is out, if one is, and each counter is
the number of requests in the history that ended in its way. -/
theorem tx_run (handle : ε → σ → Served σ Unit) (line : σ) (table : Table) (options : Options)
    (moves : List (Move ε)) :
    let poller := (new line table options).run handle moves
    let history := (new line table options).history handle moves
    poller.progress.counters.tx = poller.progress.counters.good + poller.progress.counters.bad +
        poller.progress.counters.misses + (if poller.progress.awaiting then 1 else 0) ∧
      poller.progress.Balanced history := by
  have fresh : (new line table options).progress.Balanced [] :=
    ⟨rfl, fun fate => by cases fate <;> rfl⟩
  have balanced := invariant_balanced.run handle moves _ _ fresh
  exact ⟨balanced.tx_eq, balanced⟩

end Poller

end MeterPoll
