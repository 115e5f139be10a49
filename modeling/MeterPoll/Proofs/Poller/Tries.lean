import MeterPoll.Proofs.Poller.Rotation

/-!
# Tries and misses

A register that is served has a try left, every register that was given up has cost all its tries,
and a fault is kept as soon as a reply was rejected or a register given up (`Poller.Tallied`). None
of this can be shown on its own: the misses that giving up costs are known because the tries are
not used up before. Together with the rotation it holds on every run (`Poller.tries_run`).
-/

namespace MeterPoll

namespace Poller

variable {σ ε : Type}

/-- The counts of misses, of registers given up and of rejected replies agree. -/
structure Tallied (maxRetries : Nat) (poller : Poller σ) : Prop where
  settings : poller.options.maxRetries = maxRetries
  left : poller.progress.consecutive < maxRetries
  spent : maxRetries * poller.progress.counters.abandoned + poller.progress.consecutive ≤
    poller.progress.counters.misses
  fault : poller.lastFault = none ↔
    poller.progress.counters.bad = 0 ∧ poller.progress.counters.abandoned = 0

/-- A new poller has counted nothing. -/
theorem tallied_new (line : σ) (table : Table) (options : Options) :
    (new line table options).Tallied options.atLeastOne.maxRetries where
  settings := rfl
  left := Nat.lt_of_lt_of_le Nat.one_pos (Nat.le_max_right _ _)
  spent := Nat.le_refl 0
  fault := ⟨fun _ => ⟨rfl, rfl⟩, fun _ => rfl⟩

namespace Tallied

variable [Line σ] {maxRetries : Nat} {poller : Poller σ}

theorem collect (tallied : poller.Tallied maxRetries) :
    poller.collect.2.Tallied maxRetries := by
  have effect := poller.collectEffect
  generalize poller.collect = result at effect ⊢
  cases effect with
  | idle => exact tallied
  | waiting => exact { tallied with }
  | accepted =>
      exact { tallied with
        left := Nat.lt_of_le_of_lt (Nat.zero_le _) tallied.left
        spent := Nat.le_trans (Nat.add_le_add_left (Nat.zero_le _) _) tallied.spent }
  | rejected =>
      exact { tallied with
        fault := ⟨nofun, fun none => absurd none.1 (Nat.succ_ne_zero _)⟩ }

/-- The choice of a register keeps the counts in agreement, for the last of the misses gives the
register up. -/
theorem choose (tallied : poller.Tallied maxRetries) :
    poller.choose.2.Tallied maxRetries := by
  obtain ⟨settings, left, spent, fault⟩ := tallied
  have positive : 0 < maxRetries := Nat.lt_of_le_of_lt (Nat.zero_le _) left
  have effect := poller.chooseEffect
  generalize poller.choose = result at effect ⊢
  cases effect with
  | gaveUp log out last =>
      refine ⟨settings, positive, ?_, nofun, fun none => absurd none.2 (Nat.succ_ne_zero _)⟩
      -- The miss that used up the tries is counted as one more miss.
      change maxRetries * (poller.progress.counters.abandoned + 1) + 0 ≤
        poller.progress.counters.misses + 1
      rw [settings] at last
      rw [Nat.mul_succ]
      omega
  | retrying log out more =>
      rw [settings] at more
      exact ⟨settings, more, Nat.succ_le_succ spent, fault⟩
  | resumed => exact ⟨settings, left, spent, fault⟩
  | advanced =>
      exact ⟨settings, positive, Nat.le_trans (Nat.add_le_add_left (Nat.zero_le _) _) spent, fault⟩

theorem act (tallied : poller.Tallied maxRetries) : poller.act.2.Tallied maxRetries := by
  have chosen := tallied.choose
  have effect := poller.actEffect
  generalize poller.act = result at effect ⊢
  generalize poller.choose = choice at effect chosen
  cases effect with
  | unlocked log onward due effect => cases effect; exact { chosen with }
  | unlockFailed log fault onward due effect => cases effect; exact { chosen with }
  | asked result undue effect => cases effect <;> exact { chosen with }

theorem start (tallied : poller.Tallied maxRetries) : poller.start.2.Tallied maxRetries := by
  have effect := poller.startEffect
  generalize poller.start = result at effect ⊢
  cases effect with
  | plain => exact { tallied with }
  | unlocking before after result asked effect => cases effect <;> exact { tallied with }

end Tallied

variable [Line σ]

/-- The counts agree along every run. -/
theorem preserved_tallied (handle : ε → σ → Served σ Unit) (maxRetries : Nat) :
    Preserved handle (Tallied maxRetries) where
  collected _ tallied := tallied.collect
  counted _ _ tallied := { tallied with }
  acted _ tallied := tallied.act
  started _ tallied := tallied.start
  calibrated _ _ _ tallied _ := { tallied with }
  handled _ _ tallied := { tallied with }

/-- **Tries.** On every run from the start the register that is served is one of the table and has a
try left, so that counting one more miss stays within any word that holds the number of tries. Each
register that was given up has cost all its tries. A request that is out and one that was put off
exclude one another, and a fault is kept exactly if a reply was rejected or a register given up. -/
theorem tries_run (handle : ε → σ → Served σ Unit) (line : σ) (table : Table) (options : Options)
    (moves : List (Move ε)) :
    let poller := (new line table options).run handle moves
    let maxRetries := options.atLeastOne.maxRetries
    let counters := poller.progress.counters
    poller.progress.index < table.length ∧
      poller.progress.consecutive < maxRetries ∧
      (options.maxRetries < UInt32.size → poller.progress.consecutive + 1 < UInt32.size) ∧
      maxRetries * counters.abandoned + poller.progress.consecutive ≤ counters.misses ∧
      ¬ (poller.resume = true ∧ poller.progress.awaiting = true) ∧
      (poller.lastFault = none ↔ counters.bad = 0 ∧ counters.abandoned = 0) := by
  intro poller maxRetries counters
  have tracks : Tracks table options.atLeastOne poller
      ((new line table options).history handle moves) :=
    invariant_tracks.run handle moves _ _ (tracks_new line table options)
  have tallied : poller.Tallied maxRetries :=
    (preserved_tallied handle maxRetries).run (tallied_new line table options) moves
  refine ⟨tracks.inside, tallied.left, fun small => ?_, tallied.spent, ?_, tallied.fault⟩
  · have clamped : maxRetries < UInt32.size := Nat.max_lt.mpr ⟨small, by decide⟩
    exact Nat.lt_of_le_of_lt tallied.left clamped
  · rintro ⟨held, out⟩
    rw [(tracks.out out).1] at held
    exact Bool.false_ne_true held

end Poller

end MeterPoll
