import MeterPoll.Proofs.Poller.Legible
import MeterPoll.Proofs.Poller.Looks
import MeterPoll.Proofs.Poller.Mirror
import MeterPoll.Proofs.Poller.Rounds

/-!
# Unlock frames put requests off

An unlock frame that takes the place of a request leaves the poller ready for the same request
(`Poller.Legible.putsOff`), for a meter does not answer it, and the request is chosen and everything
received thrown away before the frame goes out. So a poller with periodic unlock frames trails one
without by the rounds that the frames took (`Poller.Trails`), and both send the same requests and
end their rounds in the same states (`Poller.polled_withInterval`).
-/

namespace MeterPoll

namespace Poller

/-! ### What unlock frames leave behind -/

/-- The poller without what unlock frames leave behind: the bytes that were sent, the number of the
frames, and when the next one is due. Ticks and the log do not count either. -/
def besidesUnlocks (poller : Poller Meter) : Poller Meter :=
  { poller with
    line := { poller.line with sent := [], unlocks := 0 }
    options.unlock.interval := 0
    progress.counters.unlocks := 0
    ticks := 0
    sinceUnlock := 0
    log := [] }

variable {poller other : Poller Meter}

/-- Handling a reply does not depend on what unlock frames leave behind. -/
theorem besidesUnlocks_settle (poller : Poller Meter) (reply : Reply) :
    (poller.settle reply).2.besidesUnlocks =
      (poller.besidesUnlocks.settle reply).2.besidesUnlocks := by
  have register : poller.besidesUnlocks.register = poller.register := rfl
  simp only [settle, register]
  cases reply.decode poller.register.address with
  | ok raw => rfl
  | error mismatch => rfl

theorem besidesUnlocks_collect (poller : Poller Meter) :
    poller.collect.2.besidesUnlocks = poller.besidesUnlocks.collect.2.besidesUnlocks := by
  by_cases answered : poller.Answered
  · have still : poller.besidesUnlocks.Answered := answered
    obtain ⟨reply, seen, taken⟩ := answered.collect
    obtain ⟨again, seenAgain, takenAgain⟩ := still.collect
    have same : again = reply := Except.ok.inj (seenAgain.symm.trans seen)
    rw [taken, takenAgain, same]
    exact poller.besidesUnlocks_settle reply
  · have still : ¬ poller.besidesUnlocks.Answered := answered
    rw [collect_of_not_answered answered, collect_of_not_answered still]
    rfl

theorem besidesUnlocks_missed (poller : Poller Meter) (log log' : List Event) :
    (poller.missed log).2.besidesUnlocks =
      (poller.besidesUnlocks.missed log').2.besidesUnlocks := by
  by_cases spent : poller.options.maxRetries ≤ poller.progress.consecutive + 1
  · have still : poller.besidesUnlocks.options.maxRetries ≤
        poller.besidesUnlocks.progress.consecutive + 1 := spent
    rw [missed, if_pos spent, missed, if_pos still]
    rfl
  · have still : ¬ poller.besidesUnlocks.options.maxRetries ≤
        poller.besidesUnlocks.progress.consecutive + 1 := spent
    rw [missed, if_neg spent, missed, if_neg still]
    rfl

/-- A miss does not depend on what unlock frames leave behind. -/
theorem besidesUnlocks_miss (poller : Poller Meter) :
    poller.miss.2.besidesUnlocks = poller.besidesUnlocks.miss.2.besidesUnlocks := by
  obtain ⟨log, first⟩ := poller.miss_eq
  obtain ⟨log', second⟩ := poller.besidesUnlocks.miss_eq
  have discarded : poller.discard.2.besidesUnlocks =
      poller.besidesUnlocks.discard.2.besidesUnlocks := rfl
  calc poller.miss.2.besidesUnlocks
    _ = (poller.discard.2.besidesUnlocks.missed []).2.besidesUnlocks := by
      rw [first, besidesUnlocks_missed _ log []]
    _ = poller.besidesUnlocks.miss.2.besidesUnlocks := by
      rw [discarded, second, besidesUnlocks_missed _ log' []]

theorem besidesUnlocks_choose (poller : Poller Meter) :
    poller.choose.2.besidesUnlocks = poller.besidesUnlocks.choose.2.besidesUnlocks := by
  have awaiting : poller.besidesUnlocks.progress.awaiting = poller.progress.awaiting := rfl
  have resume : poller.besidesUnlocks.resume = poller.resume := rfl
  unfold choose
  rw [awaiting, resume]
  split_ifs
  · exact poller.besidesUnlocks_miss
  · rfl
  · rfl

theorem besidesUnlocks_emptied (poller : Poller Meter) (resume : Bool) :
    ({ poller.emptied [] with resume } : Poller Meter).besidesUnlocks =
      ({ poller.besidesUnlocks.emptied [] with resume } : Poller Meter).besidesUnlocks := rfl

/-- The poller with a request sent to the meter, which does with it as its registers, modes and
script say. -/
def asked (poller : Poller Meter) : Poller Meter :=
  { poller with
    line := (poller.line.obey (.read poller.register.address)).line
    progress.awaiting := true
    progress.counters.tx := poller.progress.counters.tx + 1 }

theorem besidesUnlocks_asked (poller : Poller Meter) :
    poller.asked.besidesUnlocks = poller.besidesUnlocks.asked.besidesUnlocks := by
  unfold asked
  rw [Meter.line_obey_read, Meter.line_obey_read]
  rfl

/-- A request to a legible meter reaches it, and leaves nothing else behind. -/
theorem Legible.besidesUnlocks_request (legible : poller.Legible) {choice : Choice}
    {result : Except Fault Tick × Poller Meter} (effect : RequestEffect choice poller result) :
    result.2.besidesUnlocks = (poller.emptied []).asked.besidesUnlocks := by
  cases effect with
  | unsent fault log refused =>
      rw [Meter.answer_send] at refused
      cases refused
  | sent log =>
      have emptied : (poller.emptied []).line =
          { poller.line with queue := poller.line.queue.clear } :=
        congrArg Served.line poller.line.discardAll_eq
      unfold asked
      rw [legible.line_request, emptied, Meter.line_obey_read, Meter.line_obey_read]
      rfl

/-- An unlock frame changes nothing besides what unlock frames leave behind. -/
theorem Legible.besidesUnlocks_unlock (legible : poller.Legible)
    {result : Except Fault Unit × Poller Meter} (effect : poller.UnlockEffect result) :
    result.2.sinceUnlock = 0 ∧ result.2.besidesUnlocks = poller.besidesUnlocks := by
  cases effect with
  | unsent fault log refused =>
      rw [Meter.answer_send] at refused
      cases refused
  | sent log =>
      rw [legible.line_unlock]
      exact ⟨rfl, rfl⟩

/-! ### The state in which a request is sent -/

/-- The poller with a register chosen and everything received thrown away, as it is when the next
request is sent. -/
def ready (poller : Poller Meter) : Poller Meter :=
  { poller.looked.choose.2.emptied [] with resume := false }

/-- Pollers that agree after their look agree on the next request. -/
theorem ready_of_looked (same : poller.looked.besidesUnlocks = other.looked.besidesUnlocks) :
    poller.ready.besidesUnlocks = other.ready.besidesUnlocks := by
  unfold ready
  rw [besidesUnlocks_emptied, besidesUnlocks_choose, same, ← besidesUnlocks_choose,
    ← besidesUnlocks_emptied]

/-- The look at the beginning of a tick does not depend on unlock frames. -/
theorem besidesUnlocks_looked (poller : Poller Meter) :
    poller.looked.besidesUnlocks = poller.besidesUnlocks.looked.besidesUnlocks :=
  poller.besidesUnlocks_collect

/-- Pollers that agree on all but unlock frames agree on the next request. -/
theorem ready_of_besidesUnlocks (same : poller.besidesUnlocks = other.besidesUnlocks) :
    poller.ready.besidesUnlocks = other.ready.besidesUnlocks := by
  apply ready_of_looked
  rw [besidesUnlocks_looked, same, ← besidesUnlocks_looked]

/-- A second look finds nothing new. -/
theorem looked_looked (poller : Poller Meter) :
    poller.looked.looked.besidesUnlocks = poller.looked.besidesUnlocks := by
  have again : poller.looked.besidesUnlocks = poller.collect.2.besidesUnlocks := rfl
  calc poller.looked.looked.besidesUnlocks
    _ = poller.collect.2.looked.besidesUnlocks := by
      rw [besidesUnlocks_looked, again, ← besidesUnlocks_looked]
    _ = poller.collect.2.collect.2.besidesUnlocks := rfl
    _ = poller.looked.besidesUnlocks := by rw [collect_collect, again]

/-- A skipped tick does not change the next request. -/
theorem Rests.ready_round {rounds : Nat} (rests : poller.Rests (rounds + 1)) :
    poller.round.ready.besidesUnlocks = poller.ready.besidesUnlocks := by
  have round : poller.round.besidesUnlocks = poller.looked.looked.besidesUnlocks := by
    unfold Poller.round
    rw [rests.skipped]
    rfl
  rw [ready_of_besidesUnlocks round, ready_of_looked]
  rw [looked_looked, looked_looked]

/-- A round that is not due for the unlock frame asks the next register. -/
theorem Legible.asks (legible : poller.Legible) (rests : poller.Rests 0)
    (undue : poller.unlockDue = false) :
    (∃ abandoned, poller.slowTick.1 = .ok (.requested poller.ready.register.address
      (decide (0 < poller.ready.progress.consecutive)) abandoned)) ∧
      poller.round.besidesUnlocks = poller.ready.asked.collect.2.besidesUnlocks := by
  have acted : poller.slowTick =
      ({ poller.looked.choose.2 with resume := false } : Poller Meter).request
        poller.looked.choose.1 :=
    rests.acted.trans (act_of_undue (poller.unlockDue_looked.trans undue))
  have chosen : ({ poller.looked.choose.2 with resume := false } : Poller Meter).Legible :=
    legible.looked.choose.same rfl rfl rfl
  have effect := requestEffect poller.looked.choose.1
    ({ poller.looked.choose.2 with resume := false } : Poller Meter)
  rw [← acted] at effect
  refine ⟨⟨poller.looked.choose.1.abandoned, ?_⟩, ?_⟩
  · rw [(chosen.request effect).1, retry_choose]
    rfl
  · unfold round fastTick
    rw [besidesUnlocks_collect, chosen.besidesUnlocks_request effect, ← besidesUnlocks_collect]
    rfl

/-- There is nothing left to throw away a second time. -/
theorem emptied_emptied (poller : Poller Meter) (log log' : List Event) (resume : Bool) :
    ({ poller.emptied log with resume } : Poller Meter).emptied log' =
      { poller.emptied log' with resume } := by
  unfold emptied drained
  simp only [Meter.discardAll_eq]
  rfl

/-- The request of a register that lost its turn is for the state in which it lost it. -/
theorem ready_of_held (calm : poller.progress.awaiting = false) (held : poller.resume = true) :
    poller.ready.besidesUnlocks =
      ({ poller.emptied [] with resume := false } : Poller Meter).besidesUnlocks := by
  have chosen : poller.looked.choose.2 = { poller with ticks := poller.ticks + 1 } := by
    unfold looked
    rw [collect_of_calm calm]
    exact choose_of_held calm held
  unfold ready
  rw [chosen]
  rfl

/-- An unlock frame that takes the place of a request leaves it for later. -/
theorem Legible.putsOff (legible : poller.Legible) (rests : poller.Rests 0)
    (due : poller.unlockDue = true) :
    poller.slowTick.1 = .ok .unlocked ∧ poller.round.sinceUnlock = 0 ∧
      poller.round.ready.besidesUnlocks = poller.ready.besidesUnlocks := by
  have chosen := legible.looked.choose
  have calm := poller.looked.awaiting_choose
  have still := (poller.looked.unlockDue_choose.trans poller.unlockDue_looked).trans due
  have effect := poller.looked.actEffect
  rw [← rests.acted] at effect
  unfold round fastTick
  have ready : poller.ready = { poller.looked.choose.2.emptied [] with resume := false } := rfl
  rw [ready]
  generalize poller.looked.choose = choice at effect chosen still calm ⊢
  generalize poller.slowTick = result at effect ⊢
  have held (log : List Event) :
      ({ choice.2.emptied log with resume := true } : Poller Meter).Legible :=
    chosen.same rfl rfl rfl
  cases effect with
  | unlocked log onward due effect =>
      obtain ⟨since, same⟩ := (held log).besidesUnlocks_unlock effect
      have idle : onward.progress.awaiting = false :=
        (congrArg (·.progress.awaiting) same).trans calm
      have turn : onward.resume = true := congrArg (·.resume) same
      refine ⟨rfl, ?_, ?_⟩
      · rw [collect_of_calm idle]
        exact since
      · -- The next look finds nothing, and the next flush has nothing left to throw away.
        rw [collect_of_calm idle, ready_of_held idle turn]
        rw [besidesUnlocks_emptied, same, ← besidesUnlocks_emptied]
        rw [emptied_emptied]
  | unlockFailed log fault onward due effect =>
      have sent := ((held log).unlock effect).1
      cases sent
  | asked result undue effect =>
      rw [undue] at still
      cases still

/-! ### Runs in rounds -/

/-- A request that was sent, and the poller at the end of its round without what unlock frames leave
behind. -/
structure Polled where
  register : UInt8
  retry : Bool
  after : Poller Meter

/-- The request of a round, if it was one, given how the round ended and what the tick returned. -/
def Polled.of (after : Poller Meter) : Except Fault Tick → List Polled
  | .ok (.requested register retry _) => [⟨register, retry, after.besidesUnlocks⟩]
  | .ok .unlocked | .ok .skipped | .error _ => []

/-- The requests of so many rounds, the first one first. -/
def polled : Nat → Poller Meter → List Polled
  | 0, _ => []
  | rounds + 1, poller => Polled.of poller.round poller.slowTick.1 ++ polled rounds poller.round

/-- How many of so many rounds have an unlock frame in the place of a request. -/
def unlockings : Nat → Poller Meter → Nat
  | 0, _ => 0
  | rounds + 1, poller =>
    match poller.slowTick.1 with
    | .ok .unlocked => unlockings rounds poller.round + 1
    | .ok (.requested ..) | .ok .skipped | .error _ => unlockings rounds poller.round

/-- A round keeps a poller legible. -/
theorem Legible.round (legible : poller.Legible) : poller.round.Legible :=
  legible.slowTick.collect

/-- What a round does, given how many ticks are skipped before the next one that is acted on. -/
inductive RoundEffect (poller : Poller Meter) : Nat → Prop where
  | skipped (rounds : Nat) (answer : poller.slowTick.1 = .ok .skipped)
      (rests : poller.round.Rests rounds) (due : poller.round.unlockDue = poller.unlockDue) :
      RoundEffect poller (rounds + 1)
  | unlocked (due : poller.unlockDue = true) (answer : poller.slowTick.1 = .ok .unlocked)
      (rests : poller.round.Rests (poller.options.requestEvery - 1))
      (undue : poller.round.unlockDue = false) :
      RoundEffect poller 0
  | asked (abandoned : Option UInt8) (undue : poller.unlockDue = false)
      (answer : poller.slowTick.1 = .ok (.requested poller.ready.register.address
        (decide (0 < poller.ready.progress.consecutive)) abandoned))
      (rests : poller.round.Rests (poller.options.requestEvery - 1)) :
      RoundEffect poller 0

/-- What a round does, in all its cases. -/
theorem Legible.roundEffect (legible : poller.Legible) {rounds : Nat}
    (rests : poller.Rests rounds) : RoundEffect poller rounds := by
  cases rounds with
  | succ rounds =>
      have answer : poller.slowTick.1 = .ok .skipped := congrArg Prod.fst rests.skipped
      have due : poller.round.unlockDue = poller.unlockDue := by
        unfold Poller.round fastTick
        rw [rests.skipped]
        exact poller.looked.unlockDue_looked.trans poller.unlockDue_looked
      exact .skipped rounds answer rests.next due
  | zero =>
      cases due : poller.unlockDue with
      | true =>
          obtain ⟨answer, since, _⟩ := legible.putsOff rests due
          exact .unlocked due answer rests.again (unlockDue_of_unlocked since)
      | false =>
          obtain ⟨⟨abandoned, answer⟩, _⟩ := legible.asks rests due
          exact .asked abandoned due answer rests.again

/-- There are no more unlock frames than ticks that are acted on. -/
theorem Legible.unlockings_le (legible : poller.Legible) {rest : Nat} (rests : poller.Rests rest)
    (rounds : Nat) :
    poller.options.requestEvery * poller.unlockings rounds + rest + 1 ≤
      rounds + poller.options.requestEvery := by
  induction rounds generalizing poller rest with
  | zero =>
      have less := rests.1
      rw [unlockings, Nat.mul_zero]
      omega
  | succ rounds ih =>
      have later := @ih poller.round legible.round
      rw [poller.ticks_options_round.2] at later
      cases legible.roundEffect rests with
      | skipped rest answer onward =>
          have bound := later onward
          simp only [unlockings, answer]
          omega
      | unlocked due answer onward =>
          have bound := later onward
          simp only [unlockings, answer, Nat.mul_succ]
          omega
      | asked abandoned undue answer onward =>
          have bound := later onward
          simp only [unlockings, answer]
          omega

/-- The second poller sends no unlock frames and is so many rounds ahead of the first one, which
lost them to an unlock frame. -/
structure Trails (rounds lag : Nat) (poller other : Poller Meter) : Prop where
  legible : poller.Legible
  otherLegible : other.Legible
  options : other.options = { poller.options with unlock.interval := 0 }
  rests : poller.Rests (rounds + lag)
  otherRests : other.Rests rounds
  ready : poller.ready.besidesUnlocks = other.ready.besidesUnlocks

namespace Trails

variable {rounds lag : Nat}

/-- Both pollers act on the same share of the ticks. -/
theorem pace (trails : Trails rounds lag poller other) :
    other.options.requestEvery = poller.options.requestEvery :=
  congrArg (·.requestEvery) trails.options

/-- The second poller is never due for an unlock frame. -/
theorem undue (trails : Trails rounds lag poller other) : other.unlockDue = false := by
  unfold unlockDue
  rw [trails.options]
  rfl

/-- The options differ in the interval alone at the end of a round too. -/
theorem options_round (trails : Trails rounds lag poller other) :
    other.round.options = { poller.round.options with unlock.interval := 0 } := by
  rw [other.ticks_options_round.2, poller.ticks_options_round.2, trails.options]

/-- Where the second poller still skips ticks, so does the first. -/
theorem rests_succ (trails : Trails (rounds + 1) lag poller other) :
    poller.Rests (rounds + lag + 1) := by
  have rests := trails.rests
  rw [Nat.add_right_comm] at rests
  exact rests

/-- Both pollers skip a tick. -/
theorem skip (trails : Trails (rounds + 1) lag poller other) :
    Trails rounds lag poller.round other.round where
  legible := trails.legible.round
  otherLegible := trails.otherLegible.round
  options := trails.options_round
  rests := trails.rests_succ.next
  otherRests := trails.otherRests.next
  ready := by
    rw [trails.rests_succ.ready_round, trails.otherRests.ready_round, trails.ready]

/-- The first one skips a tick while the second one is about to send a request. -/
theorem catchUp (trails : Trails 0 (lag + 1) poller other) : Trails 0 lag poller.round other where
  legible := trails.legible.round
  otherLegible := trails.otherLegible
  options := by rw [poller.ticks_options_round.2]; exact trails.options
  rests := Rests.next trails.rests
  otherRests := trails.otherRests
  ready := by rw [Rests.ready_round trails.rests, trails.ready]

/-- The first poller sends an unlock frame and falls behind by a period. -/
theorem fallBehind (trails : Trails 0 0 poller other) (due : poller.unlockDue = true) :
    Trails 0 (poller.options.requestEvery - 1) poller.round other where
  legible := trails.legible.round
  otherLegible := trails.otherLegible
  options := by rw [poller.ticks_options_round.2]; exact trails.options
  rests := by
    rw [Nat.zero_add]
    exact trails.rests.again
  otherRests := trails.otherRests
  ready := by rw [(trails.legible.putsOff trails.rests due).2.2, trails.ready]

/-- Both pollers send the same request. -/
theorem ask (trails : Trails 0 0 poller other) (due : poller.unlockDue = false) :
    poller.round.besidesUnlocks = other.round.besidesUnlocks ∧
      Polled.of poller.round poller.slowTick.1 = Polled.of other.round other.slowTick.1 := by
  obtain ⟨⟨abandoned, answer⟩, after⟩ := trails.legible.asks trails.rests due
  obtain ⟨⟨abandoned', answer'⟩, after'⟩ := trails.otherLegible.asks trails.otherRests trails.undue
  have register : poller.ready.register = other.ready.register := by
    have same := congrArg Poller.register trails.ready
    exact same
  have consecutive : poller.ready.progress.consecutive = other.ready.progress.consecutive :=
    congrArg (·.progress.consecutive) trails.ready
  have same : poller.round.besidesUnlocks = other.round.besidesUnlocks := by
    rw [after, after', besidesUnlocks_collect, besidesUnlocks_asked, trails.ready,
      ← besidesUnlocks_asked, ← besidesUnlocks_collect]
  rw [answer, answer', Polled.of, Polled.of, register, consecutive, same]
  exact ⟨rfl, rfl⟩

/-- After a request both wait for the same tick. -/
theorem askedAgain (trails : Trails 0 0 poller other) (due : poller.unlockDue = false) :
    Trails (poller.options.requestEvery - 1) 0 poller.round other.round where
  legible := trails.legible.round
  otherLegible := trails.otherLegible.round
  options := trails.options_round
  rests := trails.rests.again
  otherRests := by
    rw [← trails.pace]
    exact trails.otherRests.again
  ready := ready_of_besidesUnlocks (trails.ask due).1

end Trails

/-- A skipped round makes no difference, also if there are fewer rounds than are taken away. -/
theorem polled_of_skipped (skipped : poller.slowTick.1 = .ok .skipped) (count lost : Nat) :
    poller.polled (count + 1 - lost) = poller.round.polled (count - lost) := by
  by_cases more : lost ≤ count
  · rw [Nat.succ_sub more, polled, skipped]
    rfl
  · have none : count - lost = 0 := by omega
    have noneYet : count + 1 - lost = 0 := by omega
    rw [none, noneYet]
    rfl

/-- The first poller sends the requests that the second sent one period earlier for each unlock
frame. -/
theorem Trails.polled {rounds lag : Nat} (trails : Trails rounds lag poller other) (count : Nat) :
    poller.polled count =
      other.polled (count - (lag + poller.options.requestEvery * poller.unlockings count)) := by
  -- Induction on the rounds of the first poller. The second one takes part in those that both skip
  -- and in those of requests, and waits for the first one in all others.
  induction count generalizing poller other rounds lag with
  | zero => rw [Nat.zero_sub, Poller.polled, Poller.polled]
  | succ count ih =>
      have pace : poller.round.options.requestEvery = poller.options.requestEvery :=
        congrArg (·.requestEvery) poller.ticks_options_round.2
      cases rounds with
      | succ rounds =>
          have answer : poller.slowTick.1 = .ok .skipped :=
            congrArg Prod.fst trails.rests_succ.skipped
          have answer' : other.slowTick.1 = .ok .skipped :=
            congrArg Prod.fst trails.otherRests.skipped
          have later := ih trails.skip
          rw [pace] at later
          simp only [unlockings, answer]
          rw [polled_of_skipped answer', ← later]
          exact polled_of_skipped answer count 0
      | zero =>
          cases lag with
          | succ lag =>
              have answer : poller.slowTick.1 = .ok .skipped :=
                congrArg Prod.fst (Rests.skipped trails.rests)
              have later := ih trails.catchUp
              rw [pace] at later
              simp only [unlockings, answer]
              rw [Nat.add_right_comm lag 1, Nat.add_sub_add_right, ← later]
              exact polled_of_skipped answer count 0
          | zero =>
              cases due : poller.unlockDue with
              | true =>
                  have answer := (trails.legible.putsOff trails.rests due).1
                  have positive := trails.rests.1
                  have later := ih (trails.fallBehind due)
                  rw [pace] at later
                  simp only [Poller.polled, unlockings, answer, Polled.of, List.nil_append, later]
                  congr 1
                  rw [Nat.mul_succ]
                  omega
              | false =>
                  obtain ⟨⟨abandoned, answer⟩, _⟩ := trails.legible.asks trails.rests due
                  have bound := trails.legible.round.unlockings_le trails.rests.again count
                  have later := ih (trails.askedAgain due)
                  rw [pace] at later bound
                  have positive := trails.rests.1
                  have room : 0 + poller.options.requestEvery * poller.round.unlockings count ≤
                      count := by omega
                  have lost : poller.unlockings (count + 1) = poller.round.unlockings count := by
                    simp only [unlockings, answer]
                  rw [lost, Nat.succ_sub room, Poller.polled, Poller.polled, (trails.ask due).2,
                    later]

/-- After some number of rounds exactly so many requests were sent. -/
def Sends (count : Nat) (poller : Poller Meter) : Prop :=
  ∃ rounds, (poller.polled rounds).length = count

/-- A round without a request leaves the count to the rounds behind it. -/
theorem sends_of_round {count : Nat} (sends : poller.round.Sends count)
    (none : Polled.of poller.round poller.slowTick.1 = []) : poller.Sends count := by
  obtain ⟨rounds, length⟩ := sends
  refine ⟨rounds + 1, ?_⟩
  rw [polled, none]
  exact length

/-- A poller that is not due sends a request before long. -/
theorem Legible.sends_of_undue {count : Nat}
    (onward : ∀ {later : Poller Meter} {rounds}, later.Legible → later.Rests rounds →
      later.Sends count)
    (legible : poller.Legible) {rounds : Nat} (rests : poller.Rests rounds)
    (undue : poller.unlockDue = false) : poller.Sends (count + 1) := by
  induction rounds generalizing poller with
  | zero =>
      cases legible.roundEffect rests with
      | unlocked due =>
          rw [undue] at due
          cases due
      | asked abandoned undue answer rests =>
          obtain ⟨rounds, length⟩ := onward legible.round rests
          refine ⟨rounds + 1, ?_⟩
          rw [polled, answer, List.length_append, length, Nat.add_comm]
          rfl
  | succ rounds ih =>
      cases legible.roundEffect rests with
      | skipped _ answer later due =>
          refine sends_of_round (ih legible.round later (due.trans undue)) ?_
          rw [answer]
          rfl

/-- There is always a number of rounds for a number of requests. -/
theorem Legible.sends {rounds : Nat} (legible : poller.Legible) (rests : poller.Rests rounds)
    (count : Nat) : poller.Sends count := by
  induction count generalizing poller rounds with
  | zero => exact ⟨0, rfl⟩
  | succ count ih =>
      induction rounds generalizing poller with
      | zero =>
          cases legible.roundEffect rests with
          | unlocked due answer rests undue =>
              refine sends_of_round (sends_of_undue ih legible.round rests undue) ?_
              rw [answer]
              rfl
          | asked abandoned undue => exact sends_of_undue ih legible rests undue
      | succ rounds again =>
          cases legible.roundEffect rests with
          | skipped _ answer later =>
              refine sends_of_round (again legible.round later) ?_
              rw [answer]
              rfl

def withInterval (poller : Poller Meter) (interval : Nat) : Poller Meter :=
  { poller with options.unlock.interval := interval }

/-- **Unlock frames put requests off and do nothing else.** Started in the same way, a poller that
sends unlock frames periodically sends the same requests as one that does not, and each of them ends
its round in the same state; every unlock frame only makes the requests after it come one period
later. -/
theorem polled_withInterval {start : Poller Meter} (legible : start.Legible)
    (positive : 1 ≤ start.options.requestEvery) (interval : Nat) :
    let unlocking := start.withInterval interval
    let plain := start.withInterval 0
    (∀ rounds, unlocking.polled rounds =
      plain.polled (rounds - start.options.requestEvery * unlocking.unlockings rounds)) ∧
    ∀ requests, ∃ rounds, (unlocking.polled rounds).length = requests := by
  intro unlocking plain
  obtain ⟨rounds, rests⟩ := exists_rests positive
  have unlockingLegible : unlocking.Legible := ⟨legible.between, legible.unlocks, legible.reads⟩
  have plainLegible : plain.Legible := ⟨legible.between, legible.unlocks, legible.reads⟩
  have trails : Trails rounds 0 unlocking plain :=
    ⟨unlockingLegible, plainLegible, rfl, rests, rests, ready_of_besidesUnlocks rfl⟩
  refine ⟨fun count => ?_, unlockingLegible.sends rests⟩
  have same := trails.polled count
  rw [Nat.zero_add] at same
  exact same

/-- An unlock frame after every request doubles the time and changes nothing else, with a register
that does not answer as with the others. -/
theorem polled_withInterval_one :
    let meter := (Meter.reference.setMode 0x06 .silent).addScript .corrupt
    let start := (new meter .reference ⟨2, 1, 0, ⟨true, 1, 0x52, 0x6A⟩⟩).start.2
    start.Legible ∧ 1 ≤ start.options.requestEvery ∧ (start.withInterval 1).unlockings 9 = 4 ∧
      (∀ rounds, (start.withInterval 1).polled rounds =
        (start.withInterval 0).polled
          (rounds - start.options.requestEvery * (start.withInterval 1).unlockings rounds)) ∧
      ∀ requests, ∃ rounds, ((start.withInterval 1).polled rounds).length = requests := by
  intro meter start
  have legible : start.Legible := ⟨by decide +kernel, rfl, by decide +kernel⟩
  have positive : 1 ≤ start.options.requestEvery := by decide +kernel
  exact ⟨legible, positive, by decide +kernel, polled_withInterval legible positive 1⟩

end Poller

end MeterPoll
