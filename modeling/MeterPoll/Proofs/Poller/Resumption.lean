import MeterPoll.Proofs.Poller.Abandonment
import MeterPoll.Proofs.Poller.FastTicks

/-!
# A register that keeps its turn

When an unlock frame takes the place of a request, the register that was chosen for it keeps its
turn (`Poller.held_slowTick`). Nothing that comes before the next tick that is acted on takes the
turn away (`Poller.lasting_held`), and on that tick no unlock frame is due and the request is for
that register (`Poller.Held.act`).
-/

namespace MeterPoll

variable {σ ε : Type}

namespace Poller

/-- What lasts until the next tick that is acted on. -/
theorem Lasting.run [Line σ] {handle : ε → σ → Served σ Unit} {predicate : Poller σ → Prop}
    (lasting : Lasting handle predicate) {poller : Poller σ} (holds : predicate poller)
    {moves : List (Move ε)}
    (skipped : ∀ tick ∈ poller.scheduled handle moves, tick.1 = .ok .skipped) :
    predicate (poller.run handle moves) := by
  induction moves generalizing poller with
  | nil => exact holds
  | cons move rest ih =>
      have onward : predicate (poller.perform handle move) := by
        refine lasting.perform holds move ?_
        rintro rfl
        -- The tick is a skipped one, so it is a look for a reply.
        rw [slowTick_of_skipped (skipped _ List.mem_cons_self)]
        exact lasting.looked holds
      refine ih onward fun tick later => skipped tick ?_
      cases move with
      | slowTick => exact List.mem_cons_of_mem _ later
      | start | fastTick | setScale | setConversion | line => exact later

/-- The register with this address, at this position, lost its turn to an unlock frame. -/
structure Held (index : Nat) (address : UInt8) (poller : Poller σ) : Prop where
  index : poller.progress.index = index
  address : poller.register.address = address
  calm : poller.progress.awaiting = false
  resume : poller.resume = true
  unlocked : poller.sinceUnlock = 0

namespace Held

variable {index : Nat} {address : UInt8} {poller : Poller σ}

/-- With an unlock frame just sent, none is due. -/
theorem unlockDue (held : poller.Held index address) : poller.unlockDue = false :=
  unlockDue_of_unlocked held.unlocked

end Held

variable [Line σ]

/-- A turn that sends an unlock frame holds the turn of the register and counts no request. -/
theorem held_act {poller : Poller σ} (unlocked : poller.act.1 = .ok .unlocked) :
    poller.act.2.Held poller.act.2.progress.index poller.act.2.register.address ∧
      poller.act.2.progress.counters.tx = poller.progress.counters.tx := by
  have calm := poller.awaiting_choose
  have tx := poller.steady_choose.tx
  have effect := poller.actEffect
  generalize poller.act = result at effect unlocked ⊢
  generalize poller.choose = choice at effect calm tx
  cases effect with
  | unlocked log onward due effect =>
      cases effect with
      | sent => exact ⟨⟨rfl, rfl, calm, rfl, rfl⟩, tx⟩
  | unlockFailed => cases unlocked
  | asked result undue effect => cases effect <;> cases unlocked

/-- An unlock frame that takes the place of a request is no request, and the chosen register keeps
its turn. -/
theorem held_slowTick {poller : Poller σ} (unlocked : poller.slowTick.1 = .ok .unlocked) :
    poller.slowTick.2.Held poller.slowTick.2.progress.index poller.slowTick.2.register.address ∧
      poller.slowTick.2.progress.counters.tx = poller.progress.counters.tx := by
  have acted : poller.slowTick.1 ≠ .ok .skipped := by
    rw [unlocked]
    nofun
  rw [slowTick_of_acted acted] at unlocked ⊢
  obtain ⟨held, tx⟩ := held_act unlocked
  exact ⟨held, tx.trans poller.steady_collect.tx⟩

namespace Held

variable {index : Nat} {address : UInt8} {poller : Poller σ}

theorem collect (held : poller.Held index address) : poller.collect.2 = poller :=
  collect_of_calm held.calm

theorem looked (held : poller.Held index address) : poller.looked.Held index address := by
  unfold Poller.looked
  rw [held.collect]
  exact { held with }

theorem start (held : poller.Held index address) : poller.start.2.Held index address := by
  have effect := poller.startEffect
  generalize poller.start = result at effect ⊢
  cases effect with
  | plain => exact { held with }
  | unlocking before after result asked effect =>
      cases effect with
      | sent => exact { held with unlocked := rfl }
      | unsent => exact { held with }

/-- On the next tick that is acted on the register has its turn. -/
theorem act (held : poller.Held index address) :
    poller.act.2.progress.index = index ∧ poller.act.2.register.address = address := by
  have effect := poller.actEffect
  rw [choose_of_held held.calm held.resume] at effect
  generalize poller.act = result at effect ⊢
  cases effect with
  | unlocked _ _ due | unlockFailed _ _ _ due =>
      rw [held.unlockDue] at due
      exact absurd due Bool.false_ne_true
  | asked result undue effect => cases effect <;> exact ⟨held.index, held.address⟩

end Held

/-- Nothing but a turn takes its turn from it. -/
theorem lasting_held (handle : ε → σ → Served σ Unit) (index : Nat) (address : UInt8) :
    Lasting handle (Held index address) where
  collected poller held := by
    rw [held.collect]
    exact held
  counted _ _ held := { held with }
  started _ held := held.start
  calibrated poller table log held same :=
    { held with
      address := (Table.address_get_eq_of_addresses same poller.progress.index).trans held.address }
  handled _ _ held := { held with }

end Poller

end MeterPoll
