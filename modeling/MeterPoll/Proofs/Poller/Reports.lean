import MeterPoll.Proofs.Poller.Abandonment
import MeterPoll.Proofs.Poller.FastTicks

/-!
# Reports of given-up registers

A tick that sends a request reports the register that it gave up on the way. A tick that sends an
unlock frame in place of the request does not, and neither does the next one, so that a register
given up on a tick on which an unlock is due is counted but never reported. On every run the
registers reported are the ones given up by the ticks that sent a request
(`Poller.reports_run`); without periodic unlocks, and as long as nothing fails, these are all.
-/

namespace MeterPoll

/-- The register that the scheduler reports as given up. -/
def Tick.reported? : Except Fault Tick → Option UInt8
  | .ok (.requested _ _ abandoned) => abandoned
  | _ => none

/-- A register that was given up, whether an unlock frame was due on the tick that gave it up, and
what that tick returned. -/
structure GivenUp where
  register : UInt8
  due : Bool
  answer : Except Fault Tick

/-- Whether the tick that gave the register up sent a request. -/
def GivenUp.asked (givenUp : GivenUp) : Bool :=
  match givenUp.answer with
  | .ok (.requested ..) => true
  | _ => false

/-- What can become of a register that is given up where an unlock frame is sent after `interval`
requests, or never if that is zero. -/
inductive GivenUp.Lawful (interval : Nat) : GivenUp → Prop where
  | reported (register next : UInt8) (retry : Bool) :
      Lawful interval ⟨register, false, .ok (.requested next retry (some register))⟩
  | displaced (register : UInt8) (periodic : 0 < interval) :
      Lawful interval ⟨register, true, .ok .unlocked⟩
  | failed (register : UInt8) (due : Bool) (fault : Fault) :
      Lawful interval ⟨register, due, .error fault⟩

/-- A register that is given up is reported by a tick that sends a request. -/
theorem GivenUp.Lawful.reported_eq {interval : Nat} {givenUp : GivenUp}
    (lawful : givenUp.Lawful interval) :
    (Tick.reported? givenUp.answer).toList =
      ([givenUp].filter GivenUp.asked).map GivenUp.register := by
  cases lawful <;> rfl

namespace Poller

variable {σ ε : Type} [Line σ]

/-- The register that the next tick of the scheduler gives up: the one being served, if the tick
counts one register more as given up. -/
def givenUp? (poller : Poller σ) : Option GivenUp :=
  if poller.progress.counters.abandoned < poller.slowTick.2.progress.counters.abandoned then
    some ⟨poller.register.address, poller.unlockDue, poller.slowTick.1⟩
  else none

variable (handle : ε → σ → Served σ Unit)

/-- The registers given up on a run, in order. -/
def givenUp (poller : Poller σ) : List (Move ε) → List GivenUp
  | [] => []
  | .slowTick :: rest => poller.givenUp?.toList ++ poller.slowTick.2.givenUp rest
  | move :: rest => (poller.perform handle move).givenUp rest

/-- The registers that the scheduler reported as given up on a run, in order. -/
def reports (poller : Poller σ) (moves : List (Move ε)) : List UInt8 :=
  (poller.scheduled handle moves).filterMap fun tick => Tick.reported? tick.1

omit [Line σ] in
/-- An unlock frame is due only where the policy sends them. -/
theorem interval_pos_of_due {poller : Poller σ} (due : poller.unlockDue = true) :
    0 < poller.options.unlock.interval := by
  simp only [unlockDue, Bool.and_eq_true, decide_eq_true_eq] at due
  exact due.1

/-- The choice of a register names the one whose last try it found without an answer. -/
theorem abandoned_choose (poller : Poller σ) :
    poller.choose.1.abandoned =
      if poller.progress.awaiting = true ∧
        poller.options.maxRetries ≤ poller.progress.consecutive + 1
      then some poller.register.address else none := by
  have effect := poller.chooseEffect
  generalize poller.choose = result at effect ⊢
  cases effect with
  | gaveUp log out spent => rw [if_pos ⟨out, spent⟩]
  | retrying log out left => rw [if_neg fun both => Nat.not_le.mpr left both.2]
  | resumed calm => rw [if_neg fun both => Bool.false_ne_true (calm.symm.trans both.1)]
  | advanced calm => rw [if_neg fun both => Bool.false_ne_true (calm.symm.trans both.1)]

/-- A tick that is acted on hands on what the choice of a register gave up, or sends an unlock frame
instead if one is due, or fails. -/
theorem answer_act (poller : Poller σ) :
    poller.unlockDue = false ∧ (∃ register retry,
        poller.act.1 = .ok (.requested register retry poller.choose.1.abandoned)) ∨
      poller.unlockDue = true ∧ poller.act.1 = .ok .unlocked ∨
      ∃ fault, poller.act.1 = .error fault := by
  rw [← poller.unlockDue_choose]
  have effect := poller.actEffect
  generalize poller.act = result at effect ⊢
  cases effect with
  | unlocked log onward due effect =>
      exact .inr (.inl ⟨due, rfl⟩)
  | unlockFailed log fault => exact .inr (.inr ⟨fault, rfl⟩)
  | asked result undue effect =>
      cases effect with
      | sent => exact .inl ⟨undue, _, _, rfl⟩
      | unsent fault => exact .inr (.inr ⟨fault, rfl⟩)

/-- What a tick of the scheduler can do about the register that is being served. -/
inductive GiveUpEffect (poller : Poller σ) : Prop where
  | kept (nothing : poller.givenUp? = none)
      (same : poller.slowTick.2.progress.counters.abandoned =
        poller.progress.counters.abandoned)
      (silent : Tick.reported? poller.slowTick.1 = none) : GiveUpEffect poller
  | gaveUp (found : poller.givenUp? = some
        ⟨poller.register.address, poller.unlockDue, poller.slowTick.1⟩)
      (counted : poller.slowTick.2.progress.counters.abandoned =
        poller.progress.counters.abandoned + 1)
      (lawful : GivenUp.Lawful poller.options.unlock.interval
        ⟨poller.register.address, poller.unlockDue, poller.slowTick.1⟩) : GiveUpEffect poller

/-- The look at the beginning of a tick does not change the register that is served. -/
theorem register_looked (poller : Poller σ) : poller.looked.register = poller.register := by
  unfold looked register
  have effect := poller.collectEffect
  generalize poller.collect = result at effect ⊢
  cases effect <;> rfl

/-- A tick of the scheduler does one of these. -/
theorem giveUpEffect (poller : Poller σ) : GiveUpEffect poller := by
  have untouched : poller.looked.progress.counters.abandoned =
    poller.progress.counters.abandoned := poller.abandoned_collect
  by_cases acts : poller.acts = true
  · have tick : poller.slowTick = poller.looked.act := by rw [slowTick_eq, if_pos acts]
    have counted := poller.looked.abandoned_act
    have answer := poller.looked.answer_act
    rw [← tick, untouched] at counted
    rw [← tick, unlockDue_looked, abandoned_choose, register_looked] at answer
    by_cases spent : poller.looked.progress.awaiting = true ∧
        poller.looked.options.maxRetries ≤ poller.looked.progress.consecutive + 1
    · rw [if_pos spent] at counted answer
      have more : poller.progress.counters.abandoned <
          poller.slowTick.2.progress.counters.abandoned := by omega
      refine .gaveUp (if_pos more) counted ?_
      rcases answer with ⟨undue, next, retry, asked⟩ | ⟨due, unlocked⟩ | ⟨fault, failed⟩
      · rw [undue, asked]
        exact .reported _ next retry
      · rw [due, unlocked]
        exact .displaced _ (interval_pos_of_due due)
      · rw [failed]
        exact .failed _ _ fault
    · rw [if_neg spent] at counted answer
      have same := counted.trans (Nat.add_zero _)
      refine .kept (if_neg (Nat.not_lt.mpr (Nat.le_of_eq same))) same ?_
      rcases answer with ⟨_, register, retry, asked⟩ | ⟨_, unlocked⟩ | ⟨fault, failed⟩
      · rw [asked]
        rfl
      · rw [unlocked]
        rfl
      · rw [failed]
        rfl
  · have tick : poller.slowTick = (.ok .skipped, poller.looked) := by rw [slowTick_eq, if_neg acts]
    have same : poller.slowTick.2.progress.counters.abandoned =
        poller.progress.counters.abandoned := by
      rw [tick]
      exact untouched
    refine .kept (if_neg (Nat.not_lt.mpr (Nat.le_of_eq same))) same ?_
    rw [tick]
    rfl

/-- Only ticks of the scheduler give registers up. -/
theorem givenUp_cons (poller : Poller σ) {move : Move ε} (other : move ≠ .slowTick)
    (rest : List (Move ε)) :
    poller.givenUp handle (move :: rest) = (poller.perform handle move).givenUp handle rest := by
  cases move with
  | slowTick => exact absurd rfl other
  | _ => rfl

/-- Only ticks of the scheduler are scheduled. -/
theorem scheduled_cons (poller : Poller σ) {move : Move ε} (other : move ≠ .slowTick)
    (rest : List (Move ε)) :
    poller.scheduled handle (move :: rest) =
      (poller.perform handle move).scheduled handle rest := by
  cases move with
  | slowTick => exact absurd rfl other
  | _ => rfl

/-- A tick reports before those that come later. -/
theorem reports_slowTick (poller : Poller σ) (rest : List (Move ε)) :
    poller.reports handle (.slowTick :: rest) =
      (Tick.reported? poller.slowTick.1).toList ++ poller.slowTick.2.reports handle rest := by
  change (poller.slowTick :: poller.slowTick.2.scheduled handle rest).filterMap _ = _
  rw [List.filterMap_cons]
  cases Tick.reported? poller.slowTick.1 <;> rfl

/-- On a run the counter goes up by the registers given up, and the reports are those of them whose
tick sent a request. -/
structure Accounted (poller : Poller σ) (moves : List (Move ε)) : Prop where
  counted : (poller.run handle moves).progress.counters.abandoned =
    poller.progress.counters.abandoned + (poller.givenUp handle moves).length
  reported : poller.reports handle moves =
    ((poller.givenUp handle moves).filter GivenUp.asked).map GivenUp.register
  lawful : ∀ given ∈ poller.givenUp handle moves, given.Lawful poller.options.unlock.interval
  answered : ∀ given ∈ poller.givenUp handle moves,
    ∃ tick ∈ poller.scheduled handle moves, tick.1 = given.answer

variable {handle} {poller : Poller σ} {rest : List (Move ε)}

/-- A tick in front of a run that is accounted for. -/
theorem Accounted.slowTick (accounted : poller.slowTick.2.Accounted handle rest) :
    poller.Accounted handle (.slowTick :: rest) := by
  have given : poller.givenUp handle (.slowTick :: rest) =
      poller.givenUp?.toList ++ poller.slowTick.2.givenUp handle rest := rfl
  have options := poller.ticks_options_slowTick.2
  have lawful : ∀ given ∈ poller.slowTick.2.givenUp handle rest,
      given.Lawful poller.options.unlock.interval := by
    rw [← options]
    exact accounted.lawful
  have answered : ∀ given ∈ poller.slowTick.2.givenUp handle rest,
      ∃ tick ∈ poller.scheduled handle (.slowTick :: rest), tick.1 = given.answer := by
    intro given member
    obtain ⟨tick, among, same⟩ := accounted.answered given member
    exact ⟨tick, List.mem_cons_of_mem _ among, same⟩
  cases poller.giveUpEffect with
  | kept nothing same silent =>
      rw [nothing] at given
      refine ⟨?_, ?_, ?_, ?_⟩
      · rw [given, ← same]
        exact accounted.counted
      · rw [given, reports_slowTick, silent]
        exact accounted.reported
      · rw [given]
        exact lawful
      · rw [given]
        exact answered
  | gaveUp found count law =>
      rw [found] at given
      refine ⟨?_, ?_, ?_, ?_⟩
      · rw [given, List.length_append, ← Nat.add_assoc]
        change _ = poller.progress.counters.abandoned + 1 + _
        rw [← count]
        exact accounted.counted
      · rw [given, reports_slowTick, law.reported_eq, List.filter_append, List.map_append]
        exact congrArg _ accounted.reported
      · rw [given]
        exact List.forall_mem_cons.mpr ⟨law, lawful⟩
      · rw [given]
        exact List.forall_mem_cons.mpr ⟨⟨poller.slowTick, List.mem_cons_self, rfl⟩, answered⟩

/-- Another move in front of a run that is accounted for. -/
theorem Accounted.cons {move : Move ε} (other : move ≠ .slowTick)
    (accounted : (poller.perform handle move).Accounted handle rest) :
    poller.Accounted handle (move :: rest) := by
  have given := poller.givenUp_cons handle other rest
  have ticks := poller.scheduled_cons handle other rest
  have options : (poller.perform handle move).options = poller.options :=
    poller.options_run [move]
  refine ⟨?_, ?_, ?_, ?_⟩
  · rw [given, ← poller.abandoned_perform handle move other]
    exact accounted.counted
  · unfold reports
    rw [given, ticks]
    exact accounted.reported
  · rw [given, ← options]
    exact accounted.lawful
  · rw [given, ticks]
    exact accounted.answered

/-- Every run is accounted for. -/
theorem accounted (poller : Poller σ) (moves : List (Move ε)) :
    poller.Accounted handle moves := by
  induction moves generalizing poller with
  | nil =>
      have nobody (given : GivenUp) : given ∉ poller.givenUp handle [] := List.not_mem_nil
      exact ⟨rfl, rfl, fun given member => absurd member (nobody given),
        fun given member => absurd member (nobody given)⟩
  | cons move rest ih =>
      by_cases slow : move = .slowTick
      · subst slow
        exact (ih poller.slowTick.2).slowTick
      · exact (ih (poller.perform handle move)).cons slow

/-- **Reports.** Every register given up is counted. It is reported, in order, if the tick that
gives it up sends a request; if an unlock frame is due on that tick, or the line fails it, then it
is not reported at all. So the reports are complete exactly if every tick that gives a register up
sends a request, and this is so where there are no periodic unlocks and nothing fails. -/
theorem reports_run (handle : ε → σ → Served σ Unit) (line : σ) (table : Table)
    (options : Options) (moves : List (Move ε)) :
    let start := new line table options
    let givenUp := start.givenUp handle moves
    let reports := start.reports handle moves
    (start.run handle moves).progress.counters.abandoned = givenUp.length ∧
      reports = (givenUp.filter GivenUp.asked).map GivenUp.register ∧
      (∀ given ∈ givenUp, given.Lawful options.unlock.interval) ∧
      (reports.length = givenUp.length ↔ ∀ given ∈ givenUp, given.asked = true) ∧
      (options.unlock.interval = 0 →
        (∀ tick ∈ start.scheduled handle moves, tick.1.isOk = true) →
          reports = givenUp.map GivenUp.register) := by
  intro start givenUp reports
  have accounted : start.Accounted handle moves := start.accounted moves
  have reported : reports = (givenUp.filter GivenUp.asked).map GivenUp.register :=
    accounted.reported
  have all (complete : ∀ given ∈ givenUp, given.asked = true) :
      reports = givenUp.map GivenUp.register := by
    rw [reported, List.filter_eq_self.mpr complete]
  refine ⟨accounted.counted.trans (Nat.zero_add _), reported, accounted.lawful,
    ⟨?_, fun complete => ?_⟩, fun never sound => all fun given member => ?_⟩
  · intro equal
    rw [reported, List.length_map] at equal
    exact List.length_filter_eq_length_iff.mp equal
  · rw [all complete, List.length_map]
  · obtain ⟨tick, among, same⟩ := accounted.answered given member
    cases accounted.lawful given member with
    | reported => rfl
    | displaced register periodic => exact absurd never (Nat.ne_of_gt periodic)
    | failed register fault =>
        have ok := sound tick among
        rw [same] at ok
        cases ok

/-- With one try and an unlock frame after every request, the tick that gives the silent register up
sends the unlock frame, and nobody is told. -/
theorem reports_lost :
    let start := new Meter.reference .reference
      ⟨1, 1, 0, ⟨false, 1, Frame.unlockRegister, Frame.unlockKey⟩⟩
    let moves : List (Move Handling) :=
      [.line (.setMode 0x08 .silent), .slowTick, .slowTick, .slowTick]
    (∀ tick ∈ start.scheduled Handling.apply moves, tick.1.isOk = true) ∧
      (start.run Handling.apply moves).progress.counters.abandoned = 1 ∧
      (start.givenUp Handling.apply moves).map GivenUp.register = [0x08] ∧
      start.reports Handling.apply moves = [] := by
  decide +kernel

end Poller

end MeterPoll
