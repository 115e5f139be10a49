import Mathlib.Algebra.Order.Group.Nat
import Mathlib.Data.Nat.Basic
import MeterPoll.Proofs.Poller.Run

/-!
# The cadence of turns

A tick that is acted on is a turn, and if the line takes what it is given, one frame goes out in it.
After as many requests as the interval says the next turn is for the unlock frame, so the turns for
unlock frames come at a fixed distance (`UnlocksAt`), and how many requests and unlock frames went
out is a function of the number of turns (`Poller.Cadence`).
-/

namespace MeterPoll

/-- The turn with this number, counted from zero, is for the unlock frame. -/
def UnlocksAt (interval turn : Nat) : Prop :=
  0 < interval ∧ interval + 1 ∣ turn + 1

instance (interval turn : Nat) : Decidable (UnlocksAt interval turn) :=
  inferInstanceAs (Decidable (_ ∧ _))

/-- How many of the first turns are for the unlock frame. -/
def unlocksAmong (interval turns : Nat) : Nat :=
  if interval = 0 then 0 else turns / (interval + 1)

theorem unlocksAmong_zero (interval : Nat) : unlocksAmong interval 0 = 0 := by
  unfold unlocksAmong
  rw [Nat.zero_div, ite_self]

/-- One more turn is for the unlock frame or not. -/
theorem unlocksAmong_succ (interval turns : Nat) :
    unlocksAmong interval (turns + 1) =
      unlocksAmong interval turns + if UnlocksAt interval turns then 1 else 0 := by
  unfold unlocksAmong UnlocksAt
  by_cases never : interval = 0
  · simp [never]
  · simp only [never, if_false, Nat.pos_of_ne_zero never, true_and]
    exact Nat.succ_div

/-- How many of the first ticks are turns if every so many ticks one is, the first one first. -/
def turnsAmong (every ticks : Nat) : Nat :=
  (ticks + every - 1) / every

theorem turnsAmong_zero {every : Nat} (positive : 0 < every) : turnsAmong every 0 = 0 := by
  unfold turnsAmong
  rw [Nat.zero_add]
  exact Nat.div_eq_of_lt (Nat.sub_one_lt_of_lt positive)

/-- One more tick is a turn or not. -/
theorem turnsAmong_succ {every : Nat} (positive : 0 < every) (ticks : Nat) :
    turnsAmong every (ticks + 1) =
      turnsAmong every ticks + if ticks % every = 0 then 1 else 0 := by
  unfold turnsAmong
  have onward : ticks + 1 + every - 1 = ticks + every - 1 + 1 := by omega
  have whole : ticks + every - 1 + 1 = ticks + every := by omega
  rw [onward, Nat.succ_div, whole]
  simp only [Nat.dvd_iff_mod_eq_zero, Nat.add_mod_right]

namespace Poller

variable {σ ε : Type}

/-- What the number of turns says about the frames that went out, when `before` unlock frames went
out before the first turn. -/
structure Cadence (interval before turns : Nat) (poller : Poller σ) : Prop where
  settings : poller.options.unlock.interval = interval
  since : poller.sinceUnlock + (interval + 1) * unlocksAmong interval turns = turns
  requests : poller.progress.counters.tx + unlocksAmong interval turns = turns
  unlocks : poller.progress.counters.unlocks = before + unlocksAmong interval turns

namespace Cadence

/-- A new poller has had no turns. -/
theorem new (line : σ) (table : Table) (options : Options) :
    (Poller.new line table options).Cadence options.unlock.interval 0 0 where
  settings := rfl
  since := by rw [unlocksAmong_zero]; rfl
  requests := by rw [unlocksAmong_zero]; rfl
  unlocks := by rw [unlocksAmong_zero]; rfl

variable {interval before turns : Nat} {poller after : Poller σ}

theorem same (cadence : poller.Cadence interval before turns) (steady : poller.Steady after) :
    after.Cadence interval before turns where
  settings := by rw [steady.options]; exact cadence.settings
  since := by rw [steady.sinceUnlock]; exact cadence.since
  requests := by rw [steady.tx]; exact cadence.requests
  unlocks := by rw [steady.unlocks]; exact cadence.unlocks

/-- An unlock frame is due exactly in the turns that are for it. -/
theorem unlockDue_iff (cadence : poller.Cadence interval before turns) :
    poller.unlockDue = true ↔ UnlocksAt interval turns := by
  unfold unlockDue UnlocksAt
  rw [cadence.settings, Bool.and_eq_true, decide_eq_true_eq, decide_eq_true_eq]
  apply and_congr_right
  intro positive
  have since := cadence.since
  rw [unlocksAmong, if_neg (Nat.ne_of_gt positive)] at since
  have left : poller.sinceUnlock = turns % (interval + 1) := by
    have whole := Nat.mod_add_div turns (interval + 1)
    omega
  have small : turns % (interval + 1) < interval + 1 := Nat.mod_lt _ (Nat.succ_pos _)
  rw [left, Nat.dvd_iff_mod_eq_zero, Nat.add_mod]
  constructor
  · intro reached
    have last : turns % (interval + 1) = interval := by omega
    rw [last, Nat.mod_eq_of_lt (show 1 < interval + 1 by omega), Nat.mod_self]
  · intro whole
    by_contra short
    rw [Nat.mod_eq_of_lt (show 1 < interval + 1 by omega),
      Nat.mod_eq_of_lt (show turns % (interval + 1) + 1 < interval + 1 by omega)] at whole
    exact Nat.succ_ne_zero _ whole

/-- A turn that was due for the unlock frame and sent it. -/
theorem unlocked (cadence : poller.Cadence interval before turns)
    (due : poller.unlockDue = true) (options : after.options = poller.options)
    (since : after.sinceUnlock = 0)
    (tx : after.progress.counters.tx = poller.progress.counters.tx)
    (unlocks : after.progress.counters.unlocks = poller.progress.counters.unlocks + 1) :
    after.Cadence interval before (turns + 1) := by
  have turn := cadence.unlockDue_iff.mp due
  have among := unlocksAmong_succ interval turns
  rw [if_pos turn] at among
  refine ⟨by rw [options, cadence.settings], ?_, ?_, ?_⟩
  · have positive := turn.1
    rw [since, Nat.zero_add, unlocksAmong, if_neg (Nat.ne_of_gt positive)]
    exact Nat.mul_div_cancel' turn.2
  · have requests := cadence.requests
    omega
  · rw [unlocks, cadence.unlocks, among, Nat.add_assoc]

/-- A turn that was not due and sent a request. -/
theorem requested (cadence : poller.Cadence interval before turns)
    (undue : poller.unlockDue = false) (options : after.options = poller.options)
    (since : after.sinceUnlock = poller.sinceUnlock + 1)
    (tx : after.progress.counters.tx = poller.progress.counters.tx + 1)
    (unlocks : after.progress.counters.unlocks = poller.progress.counters.unlocks) :
    after.Cadence interval before (turns + 1) := by
  have turn : ¬ UnlocksAt interval turns := by
    rw [← cadence.unlockDue_iff, undue]
    exact Bool.false_ne_true
  have among := unlocksAmong_succ interval turns
  rw [if_neg turn] at among
  simp only [Nat.add_zero] at among
  have requests := cadence.requests
  have counted := cadence.since
  exact ⟨by rw [options, cadence.settings], by rw [among]; omega, by omega,
    by rw [unlocks, cadence.unlocks, among]⟩

variable [Line σ]

theorem collect (cadence : poller.Cadence interval before turns) :
    poller.collect.2.Cadence interval before turns :=
  cadence.same poller.steady_collect

theorem choose (cadence : poller.Cadence interval before turns) :
    poller.choose.2.Cadence interval before turns :=
  cadence.same poller.steady_choose

theorem looked (cadence : poller.Cadence interval before turns) :
    poller.looked.Cadence interval before turns :=
  { cadence.collect with }

/-- A tick that is acted on and does not fail is a turn. -/
theorem act (cadence : poller.Cadence interval before turns) {tick : Tick}
    (done : poller.act.1 = .ok tick) : poller.act.2.Cadence interval before (turns + 1) := by
  have chosen := cadence.choose
  have effect := poller.actEffect
  generalize poller.act = result at effect done ⊢
  generalize poller.choose = choice at effect chosen
  cases effect with
  | unlocked log onward due effect =>
      cases effect with
      | sent => exact chosen.unlocked due rfl rfl rfl rfl
  | unlockFailed => cases done
  | asked result undue effect =>
      cases effect with
      | sent => exact chosen.requested undue rfl rfl rfl rfl
      | unsent => cases done

/-- A tick is a turn if the scheduler acts on it. -/
theorem slowTick (cadence : poller.Cadence interval before turns) {tick : Tick}
    (done : poller.slowTick.1 = .ok tick) :
    poller.slowTick.2.Cadence interval before (turns + if poller.acts then 1 else 0) := by
  rw [slowTick_eq] at done ⊢
  split_ifs at done ⊢
  · exact cadence.looked.act done
  · exact cadence.looked

/-- The turns so far are those among the ticks so far. -/
theorem slowTick_of_ticks
    (cadence : poller.Cadence interval before
      (turnsAmong poller.options.requestEvery poller.ticks))
    (positive : 0 < poller.options.requestEvery) {tick : Tick}
    (done : poller.slowTick.1 = .ok tick) :
    poller.slowTick.2.Cadence interval before
      (turnsAmong poller.slowTick.2.options.requestEvery poller.slowTick.2.ticks) := by
  obtain ⟨ticks, options⟩ := poller.ticks_options_slowTick
  have counted := cadence.slowTick done
  unfold acts at counted
  rw [ticks, options, turnsAmong_succ positive]
  simpa only [beq_iff_eq] using counted

/-- Before the first turn polling may start any number of times. -/
theorem start (cadence : poller.Cadence interval before 0) :
    poller.start.2.Cadence interval poller.start.2.progress.counters.unlocks 0 := by
  have settings := cadence.settings
  have requests := cadence.requests
  have since := cadence.since
  rw [unlocksAmong_zero] at requests since
  have effect := poller.startEffect
  generalize poller.start = result at effect ⊢
  cases effect with
  | plain => exact { cadence with unlocks := by rw [unlocksAmong_zero, Nat.add_zero] }
  | unlocking before after result asked effect =>
      cases effect with
      | unsent => exact { cadence with unlocks := by rw [unlocksAmong_zero, Nat.add_zero] }
      | sent =>
          exact {
            settings
            since := by rw [unlocksAmong_zero]; rfl
            requests := by rw [unlocksAmong_zero]; exact requests
            unlocks := by rw [unlocksAmong_zero, Nat.add_zero] }

variable {handle : ε → σ → Served σ Unit}

/-- Only turns and starts matter to the cadence. -/
theorem perform (cadence : poller.Cadence interval before turns) {move : Move ε}
    (unticked : move ≠ .slowTick) (unstarted : move ≠ .start) :
    (poller.perform handle move).Cadence interval before turns := by
  cases move with
  | start => exact absurd rfl unstarted
  | slowTick => exact absurd rfl unticked
  | fastTick => exact cadence.collect
  | setScale quantity scale =>
      have effect := poller.setScale_effect quantity scale
      change (poller.setScale quantity scale).2.Cadence interval before turns
      generalize poller.setScale quantity scale = result at effect ⊢
      cases effect <;> exact { cadence with }
  | setConversion quantity conversion =>
      have effect := poller.setConversion_effect quantity conversion
      change (poller.setConversion quantity conversion).2.Cadence interval before turns
      generalize poller.setConversion quantity conversion = result at effect ⊢
      cases effect <;> exact { cadence with }
  | line event => exact { cadence with }

/-- Whatever comes before the first tick of the scheduler, it is the first turn. -/
theorem opened {opening : List (Move ε)} (cadence : poller.Cadence interval before 0)
    (unticked : ∀ move ∈ opening, move ≠ .slowTick) :
    ∃ before, (poller.run handle opening).Cadence interval before 0 := by
  induction opening generalizing poller before with
  | nil => exact ⟨before, cadence⟩
  | cons move rest ih =>
      obtain ⟨first, others⟩ := List.forall_mem_cons.mp unticked
      cases move with
      | slowTick => exact absurd rfl first
      | start => exact ih cadence.start others
      | fastTick => exact ih (cadence.perform first nofun) others
      | setScale => exact ih (cadence.perform first nofun) others
      | setConversion => exact ih (cadence.perform first nofun) others
      | line => exact ih (cadence.perform first nofun) others

end Cadence

end Poller

end MeterPoll
