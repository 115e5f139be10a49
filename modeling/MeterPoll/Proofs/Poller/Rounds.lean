import MeterPoll.Proofs.Poller.Effects

/-!
# Rounds

A round is a tick of the scheduler and then one of the collector (`Poller.round`). The ticks that
the scheduler acts on come after every `requestEvery` rounds, and the ones in between are skipped
(`Poller.Rests`).
-/

namespace MeterPoll

namespace Poller

variable {σ : Type} {rounds : Nat} {poller : Poller σ}

/-- So many ticks are skipped before the next one that is acted on. -/
def Rests (rounds : Nat) (poller : Poller σ) : Prop :=
  rounds < poller.options.requestEvery ∧ poller.options.requestEvery ∣ poller.ticks + rounds

/-- Sooner or later a tick is acted on: some number of them is skipped before. -/
theorem exists_rests (positive : 1 ≤ poller.options.requestEvery) :
    ∃ rounds, poller.Rests rounds := by
  have less := Nat.mod_lt poller.ticks positive
  have whole := Nat.div_add_mod poller.ticks poller.options.requestEvery
  by_cases now : poller.ticks % poller.options.requestEvery = 0
  · exact ⟨0, positive, Nat.dvd_of_mod_eq_zero now⟩
  · refine ⟨poller.options.requestEvery - poller.ticks % poller.options.requestEvery, by omega,
      poller.ticks / poller.options.requestEvery + 1, ?_⟩
    rw [Nat.mul_succ]
    omega

/-- With no tick to be skipped the next one is acted on. -/
theorem Rests.acts (rests : poller.Rests 0) : poller.acts = true :=
  beq_iff_eq.mpr (Nat.mod_eq_zero_of_dvd rests.2)

/-- A tick before that one is skipped. -/
theorem Rests.idle (rests : poller.Rests (rounds + 1)) : poller.acts = false := by
  refine beq_eq_false_iff_ne.mpr fun acts => ?_
  have later := (Nat.dvd_add_right (Nat.dvd_of_mod_eq_zero acts)).mp rests.2
  exact absurd (Nat.le_of_dvd (Nat.succ_pos rounds) later) (Nat.not_le.mpr rests.1)

variable [Line σ]

/-- The poller after a tick of the scheduler and then one of the collector. -/
def round (poller : Poller σ) : Poller σ :=
  poller.slowTick.2.fastTick.2

theorem ticks_options_round (poller : Poller σ) :
    poller.round.ticks = poller.ticks + 1 ∧ poller.round.options = poller.options := by
  have steady := poller.slowTick.2.steady_collect
  obtain ⟨counted, kept⟩ := poller.ticks_options_slowTick
  exact ⟨steady.ticks.trans counted, steady.options.trans kept⟩

/-- Rounds go on from the first one, as long as its tick does not fail. -/
theorem rounds_succ {tick : Tick} (done : poller.slowTick.1 = .ok tick) (count : Nat) :
    poller.rounds (count + 1) = poller.round.rounds count := by
  unfold round
  rw [rounds]
  generalize poller.slowTick = result at done ⊢
  obtain ⟨answer, onward⟩ := result
  cases done
  rfl

namespace Rests

/-- A tick that is to be skipped is a look for a reply and is counted. -/
theorem skipped (rests : poller.Rests (rounds + 1)) :
    poller.slowTick = (.ok .skipped, poller.looked) := by
  rw [slowTick_eq, if_neg (Bool.eq_false_iff.mp rests.idle)]

/-- A tick that is not to be skipped is a look for a reply and a turn. -/
theorem acted (rests : poller.Rests 0) : poller.slowTick = poller.looked.act := by
  rw [slowTick_eq, if_pos rests.acts]

/-- A round on a skipped tick brings the next turn one round nearer. -/
theorem next (rests : poller.Rests (rounds + 1)) : poller.round.Rests rounds := by
  obtain ⟨ticks, options⟩ := poller.ticks_options_round
  have later := rests.2
  unfold Rests
  rw [ticks, options, Nat.add_right_comm]
  exact ⟨Nat.lt_of_succ_lt rests.1, later⟩

/-- After a turn, as many ticks are skipped as the options say. -/
theorem again (rests : poller.Rests 0) :
    poller.round.Rests (poller.options.requestEvery - 1) := by
  obtain ⟨ticks, options⟩ := poller.ticks_options_round
  have positive := rests.1
  have around : poller.ticks + 1 + (poller.options.requestEvery - 1) =
      poller.ticks + 0 + poller.options.requestEvery := by omega
  unfold Rests
  rw [ticks, options, around]
  exact ⟨Nat.sub_one_lt_of_lt positive, Nat.dvd_add rests.2 (Nat.dvd_refl _)⟩

end Rests

end Poller

end MeterPoll
