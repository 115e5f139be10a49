import MeterPoll.Proofs.Poller.Rotation

/-!
# Giving a register up

The requests of a burst are for one register, all but the latest were missed, and there are no more
of them than the register has tries (`History.IsBurst`). A register is given up exactly when a tick
that is acted on finds the last of all its tries without an answer
(`Poller.abandoned_run`), and the fault that is kept then tells how many requests were sent.
-/

namespace MeterPoll

/-- What the requests of one burst have in common, the latest first. -/
structure History.IsBurst (maxRetries : Nat) (burst : List Request) : Prop where
  starts : ∃ retries first, burst = retries ++ [first] ∧ first.retry = false ∧
    ∀ request ∈ retries, request.retry = true
  register : ∃ index, ∀ request ∈ burst, request.index = index
  bounded : burst.length ≤ maxRetries
  missed : ∀ request ∈ burst.tail, request.fate = .missed

/-- The latest burst has had all its tries and the last of them is out. -/
def History.Exhausted (history : History) (maxRetries : Nat) (request : Request) : Prop :=
  request.fate = .out ∧ ∃ rest others, history.bursts = (request :: rest) :: others ∧
    (request :: rest).length = maxRetries

namespace History

variable {table : Table} {maxRetries : Nat} {history : History}

/-- Put together, the bursts are all the requests. -/
theorem flatten_bursts (history : History) : history.bursts.flatten = history.requests := by
  unfold bursts
  induction history.requests with
  | nil => rfl
  | cons request earlier ih =>
      rw [List.foldr_cons]
      cases held : earlier.foldr addToBursts [] with
      | nil =>
          rw [held] at ih
          rw [addToBursts, ← ih]
          rfl
      | cons burst others =>
          rw [held] at ih
          unfold addToBursts
          split_ifs
          · rw [← ih]
            rfl
          · rw [← ih]
            rfl

/-- A first try alone is a burst. -/
theorem IsBurst.single {request : Request} (fresh : request.retry = false)
    (positive : 1 ≤ maxRetries) : IsBurst maxRetries [request] where
  starts := ⟨[], request, rfl, fresh, fun _ member => absurd member List.not_mem_nil⟩
  register := ⟨request.index, fun _ member => by rw [List.mem_singleton.mp member]⟩
  bounded := positive
  missed _ member := absurd member List.not_mem_nil

/-- A retry goes on with a burst whose latest request was missed. -/
theorem IsBurst.cons {request latest : Request} {rest : List Request}
    (burst : IsBurst maxRetries (latest :: rest)) (retry : request.retry = true)
    (same : request.index = latest.index) (missed : latest.fate = .missed)
    (left : (latest :: rest).length < maxRetries) :
    IsBurst maxRetries (request :: latest :: rest) where
  starts := by
    obtain ⟨retries, first, split, fresh, others⟩ := burst.starts
    refine ⟨request :: retries, first, by rw [split]; rfl, fresh, fun again member => ?_⟩
    rcases List.mem_cons.mp member with rfl | before
    · exact retry
    · exact others again before
  register := by
    obtain ⟨index, all⟩ := burst.register
    refine ⟨index, fun again member => ?_⟩
    rcases List.mem_cons.mp member with rfl | before
    · rw [same]
      exact all latest List.mem_cons_self
    · exact all again before
  bounded := left
  missed again member := by
    rcases List.mem_cons.mp member with rfl | before
    · exact missed
    · exact burst.missed again before

/-- The requests of a lawful history fall into bursts. -/
theorem Lawful.isBurst (lawful : history.Lawful table maxRetries) (positive : 1 ≤ maxRetries) :
    ∀ burst ∈ history.bursts, IsBurst maxRetries burst := by
  induction lawful with
  | nil =>
      intro burst member
      exact absurd member List.not_mem_nil
  | unsent _ _ _ _ ih => exact ih
  | unlock _ _ _ _ ih => exact ih
  | @request earlier asked lawful ended due _ _ ih =>
      rw [bursts_cons_request]
      cases retried : asked.retry with
      | true =>
          -- The history called for a retry, so the latest burst ended in a miss and has tries left.
          have retry : (earlier.due table maxRetries).2 = true := by rw [← due, retried]
          obtain ⟨latest, rest, others, held, index, fate, left⟩ := due_retry retry
          have member : latest ∈ earlier.requests := by
            rw [← flatten_bursts, held]
            exact List.mem_cons_self
          have missed := fate.resolve_right (ended latest member)
          have same : asked.index = latest.index := by rw [index, ← due]
          rw [attempts, held] at left
          rw [held] at ih ⊢
          simp only [addToBursts, retried, if_true]
          intro burst among
          rcases List.mem_cons.mp among with rfl | before
          · exact (ih _ List.mem_cons_self).cons retried same missed left
          · exact ih burst (List.mem_cons_of_mem _ before)
      | false =>
          have apart : addToBursts asked earlier.bursts = [asked] :: earlier.bursts := by
            cases earlier.bursts with
            | nil => rfl
            | cons => simp only [addToBursts, retried, Bool.false_eq_true, if_false]
          rw [apart]
          intro burst among
          rcases List.mem_cons.mp among with rfl | before
          · exact .single retried positive
          · exact ih burst before

end History

namespace Poller

variable {σ ε : Type} {table : Table} {options : Options} {poller : Poller σ} {history : History}

/-- The tries that the history of a poller counts are those that the poller counts. -/
theorem Tracks.exhausted (tracks : Tracks table options poller history) {request : Request}
    (exhausted : history.Exhausted options.maxRetries request) :
    poller.progress.awaiting = true ∧ request.index = poller.progress.index ∧
      request.register = poller.register.address ∧
      poller.progress.consecutive + 1 = options.maxRetries := by
  obtain ⟨pending, rest, others, held, spent⟩ := exhausted
  have member : request ∈ history.requests := by
    rw [← History.flatten_bursts, held]
    exact List.mem_cons_self
  cases awaiting : poller.progress.awaiting with
  | false => exact absurd pending (tracks.calm awaiting request member)
  | true =>
      obtain ⟨_, tries, asked, earlier, rfl, _, here⟩ := tracks.out awaiting
      obtain ⟨others', rest', latest⟩ := History.bursts_cons_request_eq asked earlier
      rw [held] at latest
      cases latest
      have named := (tracks.lawful.mem_requests member).2
      rw [History.attempts, held] at tries
      refine ⟨rfl, here, ?_, tries.trans spent⟩
      rw [named, here]
      exact (Table.address_get_eq_of_addresses tracks.addresses _).symm

/-- A request that is out and was missed often enough before is the last of its burst. -/
theorem Tracks.exists_exhausted (tracks : Tracks table options poller history)
    (positive : 1 ≤ options.maxRetries) (awaiting : poller.progress.awaiting = true)
    (spent : options.maxRetries ≤ poller.progress.consecutive + 1) :
    ∃ request, history.Exhausted options.maxRetries request := by
  obtain ⟨_, tries, asked, earlier, rfl, pending, _⟩ := tracks.out awaiting
  obtain ⟨rest, others, held⟩ := History.bursts_cons_request_eq asked earlier
  have bounded := tracks.lawful.attempts_le positive
  rw [tries] at spent
  rw [History.attempts, held] at spent bounded
  exact ⟨asked, pending, rest, others, held, Nat.le_antisymm bounded spent⟩

variable [Line σ]

/-- What follows the choice of a register does not touch what giving a register up leaves. -/
theorem act_keeps (poller : Poller σ) :
    poller.act.2.progress.counters.abandoned = poller.choose.2.progress.counters.abandoned ∧
      poller.act.2.lastFault = poller.choose.2.lastFault ∧
      poller.act.2.progress.index = poller.choose.2.progress.index ∧
      poller.act.2.progress.consecutive = poller.choose.2.progress.consecutive := by
  have effect := poller.actEffect
  generalize poller.act = result at effect ⊢
  generalize poller.choose = choice at effect ⊢
  cases effect with
  | unlocked log onward due effect => cases effect; exact ⟨rfl, rfl, rfl, rfl⟩
  | unlockFailed log fault onward due effect => cases effect; exact ⟨rfl, rfl, rfl, rfl⟩
  | asked result undue effect => cases effect <;> exact ⟨rfl, rfl, rfl, rfl⟩

/-- A scheduler that acts gives a register up exactly if its last try is still out. -/
theorem abandoned_act (poller : Poller σ) :
    poller.act.2.progress.counters.abandoned =
      poller.progress.counters.abandoned +
        if poller.progress.awaiting = true ∧
          poller.options.maxRetries ≤ poller.progress.consecutive + 1 then 1 else 0 := by
  rw [poller.act_keeps.1]
  have effect := poller.chooseEffect
  generalize poller.choose = result at effect ⊢
  cases effect with
  | gaveUp log out spent => rw [if_pos ⟨out, spent⟩]
  | retrying log out left => rw [if_neg fun both => Nat.not_le.mpr left both.2]; rfl
  | resumed calm =>
      rw [if_neg fun both => by rw [calm] at both; exact absurd both.1 (by decide)]
      rfl
  | advanced calm =>
      rw [if_neg fun both => by rw [calm] at both; exact absurd both.1 (by decide)]
      rfl

/-- What a scheduler leaves behind that gives a register up. -/
theorem act_of_spent (poller : Poller σ) (out : poller.progress.awaiting = true)
    (spent : poller.options.maxRetries ≤ poller.progress.consecutive + 1) :
    poller.act.2.lastFault =
        some (.noReply poller.register.address (poller.progress.consecutive + 1)) ∧
      poller.act.2.progress.index = poller.table.next poller.progress.index ∧
      poller.act.2.progress.consecutive = 0 := by
  obtain ⟨_, lastFault, index, consecutive⟩ := poller.act_keeps
  rw [lastFault, index, consecutive]
  have effect := poller.chooseEffect
  generalize poller.choose = result at effect ⊢
  cases effect with
  | gaveUp => exact ⟨rfl, rfl, rfl⟩
  | retrying log _ left => exact absurd spent (Nat.not_le.mpr left)
  | resumed calm => rw [calm] at out; exact absurd out (by decide)
  | advanced calm => rw [calm] at out; exact absurd out (by decide)

/-- Looking for a reply gives nothing up. -/
theorem abandoned_collect (poller : Poller σ) :
    poller.collect.2.progress.counters.abandoned = poller.progress.counters.abandoned := by
  have effect := poller.collectEffect
  generalize poller.collect = result at effect ⊢
  cases effect <;> rfl

/-- Nothing but a tick of the scheduler gives a register up. -/
theorem abandoned_perform (handle : ε → σ → Served σ Unit) (poller : Poller σ) (move : Move ε)
    (other : move ≠ .slowTick) :
    (poller.perform handle move).progress.counters.abandoned =
      poller.progress.counters.abandoned := by
  cases move with
  | start =>
      have effect := poller.startEffect
      simp only [perform]
      generalize poller.start = result at effect ⊢
      cases effect with
      | plain => rfl
      | unlocking before after result asked effect => cases effect <;> rfl
  | slowTick => exact absurd rfl other
  | fastTick => exact poller.abandoned_collect
  | setScale quantity scale =>
      have effect := poller.setScale_effect quantity scale
      simp only [perform]
      generalize poller.setScale quantity scale = result at effect ⊢
      cases effect <;> rfl
  | setConversion quantity conversion =>
      have effect := poller.setConversion_effect quantity conversion
      simp only [perform]
      generalize poller.setConversion quantity conversion = result at effect ⊢
      cases effect <;> rfl
  | line event => rfl

/-- A tick that finds the last try without an answer gives its register up, with the number of
requests that were sent, and the next register has its turn. -/
theorem Tracks.slowTick_of_exhausted (tracks : Tracks table options poller history)
    (acted : poller.slowTick.1 ≠ .ok .skipped) {request : Request}
    (exhausted : (history.look poller.collect.1).Exhausted options.maxRetries request) :
    let after := poller.slowTick.2
    after.progress.counters.abandoned = poller.progress.counters.abandoned + 1 ∧
      after.lastFault = some (.noReply request.register options.maxRetries) ∧
      after.progress.index = table.next request.index ∧
      after.progress.consecutive = 0 := by
  have looked := tracks.looked
  obtain ⟨out, index, register, tries⟩ := looked.exhausted exhausted
  rw [poller.slowTick_eq] at acted ⊢
  split_ifs at acted ⊢ with acts
  · have spent : poller.looked.options.maxRetries ≤ poller.looked.progress.consecutive + 1 := by
      rw [looked.settings]
      exact Nat.le_of_eq tries.symm
    obtain ⟨lastFault, next, consecutive⟩ := poller.looked.act_of_spent out spent
    refine ⟨?_, ?_, ?_, consecutive⟩
    · rw [abandoned_act, if_pos ⟨out, spent⟩]
      exact congrArg (· + 1) poller.abandoned_collect
    · rw [lastFault, ← register, tries]
    · rw [next, ← index]
      exact Table.next_eq_of_addresses looked.addresses _
  · exact absurd rfl acted

/-- A tick that gives a register up found its burst exhausted. -/
theorem Tracks.exhausted_of_slowTick (tracks : Tracks table options poller history)
    (positive : 1 ≤ options.maxRetries)
    (gaveUp : poller.slowTick.2.progress.counters.abandoned ≠
      poller.progress.counters.abandoned) :
    poller.slowTick.1 ≠ .ok .skipped ∧
      ∃ request, (history.look poller.collect.1).Exhausted options.maxRetries request := by
  have looked := tracks.looked
  rw [poller.slowTick_eq] at gaveUp ⊢
  split_ifs at gaveUp ⊢ with acts
  · refine ⟨poller.looked.act_ne_skipped, ?_⟩
    by_cases last : poller.looked.progress.awaiting = true ∧
        poller.looked.options.maxRetries ≤ poller.looked.progress.consecutive + 1
    · rw [looked.settings] at last
      exact looked.exists_exhausted positive last.1 last.2
    · rw [abandoned_act, if_neg last] at gaveUp
      exact absurd poller.abandoned_collect gaveUp
  · exact absurd poller.abandoned_collect gaveUp

/-- **Giving up.** On every run from the start the requests fall into bursts, and a register is
given up by the ticks that find the last request of a burst of `maxRetries` without an answer and by
nothing else. -/
theorem abandoned_run (handle : ε → σ → Served σ Unit) (line : σ) (table : Table)
    (options : Options) (moves : List (Move ε)) :
    let poller := (new line table options).run handle moves
    let history := (new line table options).history handle moves
    let maxRetries := options.atLeastOne.maxRetries
    let found := history.look poller.collect.1
    let after := poller.slowTick.2
    (∀ burst ∈ history.bursts, History.IsBurst maxRetries burst) ∧
      (after.progress.counters.abandoned ≠ poller.progress.counters.abandoned ↔
        poller.slowTick.1 ≠ .ok .skipped ∧ ∃ request, found.Exhausted maxRetries request) ∧
      (∀ request, poller.slowTick.1 ≠ .ok .skipped → found.Exhausted maxRetries request →
        after.progress.counters.abandoned = poller.progress.counters.abandoned + 1 ∧
          after.lastFault = some (.noReply request.register maxRetries) ∧
          after.progress.index = table.next request.index ∧
          after.progress.consecutive = 0) ∧
      ∀ move, move ≠ .slowTick →
        (poller.perform handle move).progress.counters.abandoned =
          poller.progress.counters.abandoned := by
  intro poller history maxRetries found after
  have positive : 1 ≤ maxRetries := Nat.le_max_right _ _
  have tracks : Tracks table options.atLeastOne poller history :=
    invariant_tracks.run handle moves _ _ (tracks_new line table options)
  refine ⟨tracks.lawful.isBurst positive, ⟨tracks.exhausted_of_slowTick positive, ?_⟩, ?_,
    poller.abandoned_perform handle⟩
  · rintro ⟨acted, request, exhausted⟩
    rw [(tracks.slowTick_of_exhausted acted exhausted).1]
    exact Nat.succ_ne_self _
  · exact fun request acted exhausted => tracks.slowTick_of_exhausted acted exhausted

end Poller

end MeterPoll
