import MeterPoll.Proofs.Line.Watched
import MeterPoll.Proofs.Poller.Resumption

/-!
# The pace of unlock frames

A poller counts the requests it sent since it last unlocked writes. On a watched line that count is
the number of frames that the line took since it took an unlock frame, and it never gets past the
interval of the policy (`Poller.Paced`). So a tick that is acted on gives the unlock frame to the
line after exactly as many requests as the interval says, and a request otherwise
(`Poller.pacing_run`).
-/

namespace MeterPoll

variable {σ ε : Type}

/-- The frame that unlocks writes under this policy. -/
def UnlockPolicy.frame (policy : UnlockPolicy) : List UInt8 :=
  Frame.unlock policy.register policy.key

/-- A request is never mistaken for an unlock frame, which is longer. -/
theorem UnlockPolicy.request_ne_frame (policy : UnlockPolicy) (address : UInt8) :
    Frame.request address ≠ policy.frame := by
  intro same
  have length := congrArg List.length same
  cases length

namespace Poller

/-- A look for a reply sends nothing. -/
theorem sendings_collect [Line σ] (poller : Poller (Watched σ)) :
    poller.collect.2.line.sendings = poller.line.sendings := by
  have effect := poller.collectEffect
  generalize poller.collect = result at effect ⊢
  cases effect <;> rfl

theorem sendings_choose [Line σ] (poller : Poller (Watched σ)) :
    poller.choose.2.line.sendings = poller.line.sendings := by
  have effect := poller.chooseEffect
  generalize poller.choose = choice at effect ⊢
  cases effect <;> rfl

/-- The poller's count of requests since writes were last unlocked is that of the frames which the
line took, and is never more than the interval. -/
structure Paced (policy : UnlockPolicy) (poller : Poller (Watched σ)) : Prop where
  settings : poller.options.unlock = policy
  counted : poller.sinceUnlock = (takenSince policy.frame poller.line.sendings).length
  bounded : 0 < policy.interval → poller.sinceUnlock ≤ policy.interval
  kinds : ∀ sending ∈ poller.line.sendings,
    sending.frame = policy.frame ∨ ∃ address, sending.frame = Frame.request address

namespace Paced

variable {policy : UnlockPolicy} {poller after : Poller (Watched σ)}

/-- The pace depends on the options, the count and the frames alone. -/
theorem same (paced : poller.Paced policy) (options : after.options = poller.options)
    (since : after.sinceUnlock = poller.sinceUnlock)
    (sendings : after.line.sendings = poller.line.sendings) : after.Paced policy where
  settings := by rw [options]; exact paced.settings
  counted := by rw [since, sendings]; exact paced.counted
  bounded := by rw [since]; exact paced.bounded
  kinds := by rw [sendings]; exact paced.kinds

/-- A frame that the line refuses does not change the pace. -/
theorem refused (paced : poller.Paced policy) {frame : List UInt8}
    (options : after.options = poller.options) (since : after.sinceUnlock = poller.sinceUnlock)
    (sendings : after.line.sendings = ⟨frame, false⟩ :: poller.line.sendings)
    (kind : frame = policy.frame ∨ ∃ address, frame = Frame.request address) :
    after.Paced policy where
  settings := by rw [options]; exact paced.settings
  counted := by rw [since, sendings, takenSince_refused]; exact paced.counted
  bounded := by rw [since]; exact paced.bounded
  kinds := by
    rw [sendings]
    exact List.forall_mem_cons.mpr ⟨kind, paced.kinds⟩

/-- An unlock frame that the line takes starts the count again. -/
theorem unlocked (paced : poller.Paced policy) (options : after.options = poller.options)
    (since : after.sinceUnlock = 0)
    (sendings : after.line.sendings = ⟨policy.frame, true⟩ :: poller.line.sendings) :
    after.Paced policy where
  settings := by rw [options]; exact paced.settings
  counted := by rw [since, sendings, takenSince_self]; rfl
  bounded _ := by rw [since]; exact Nat.zero_le _
  kinds := by
    rw [sendings]
    exact List.forall_mem_cons.mpr ⟨.inl rfl, paced.kinds⟩

/-- A request that the line takes counts, and is not sent when an unlock frame is due. -/
theorem requested (paced : poller.Paced policy) {address : UInt8}
    (undue : poller.unlockDue = false) (options : after.options = poller.options)
    (since : after.sinceUnlock = poller.sinceUnlock + 1)
    (sendings : after.line.sendings = ⟨Frame.request address, true⟩ :: poller.line.sendings) :
    after.Paced policy where
  settings := by rw [options]; exact paced.settings
  counted := by
    rw [since, sendings, takenSince_of_ne (policy.request_ne_frame address), List.length_cons,
      paced.counted]
  -- A request goes out only while no unlock frame is due, which leaves room for one more.
  bounded positive := by
    simp only [unlockDue, paced.settings, positive, decide_true, Bool.true_and,
      decide_eq_false_iff_not, Nat.not_le] at undue
    rw [since]
    exact undue
  kinds := by
    rw [sendings]
    exact List.forall_mem_cons.mpr ⟨.inr ⟨address, rfl⟩, paced.kinds⟩

/-- An unlock frame is due if the line took as many requests as the interval says. -/
theorem unlockDue_iff (paced : poller.Paced policy) :
    poller.unlockDue = true ↔ 0 < policy.interval ∧
      (takenSince policy.frame poller.line.sendings).length = policy.interval := by
  have bounded := paced.bounded
  simp only [unlockDue, paced.settings, Bool.and_eq_true, decide_eq_true_eq, ← paced.counted]
  omega

variable [Line σ]

theorem collect (paced : poller.Paced policy) : poller.collect.2.Paced policy := by
  have effect := poller.collectEffect
  generalize poller.collect = result at effect ⊢
  cases effect with
  | idle => exact paced
  | waiting => exact paced.same rfl rfl rfl
  | accepted => exact paced.same rfl rfl rfl
  | rejected => exact paced.same rfl rfl rfl

theorem choose (paced : poller.Paced policy) : poller.choose.2.Paced policy := by
  have effect := poller.chooseEffect
  generalize poller.choose = result at effect ⊢
  cases effect with
  | gaveUp => exact paced.same rfl rfl rfl
  | retrying => exact paced.same rfl rfl rfl
  | resumed => exact paced
  | advanced => exact paced.same rfl rfl rfl

/-- Sending the unlock frame keeps the pace, and is all that the line sees. -/
theorem unlock (paced : poller.Paced policy) {result : Except Fault Unit × Poller (Watched σ)}
    (effect : poller.UnlockEffect result) :
    result.2.Paced policy ∧
      result.2.line.sendings = ⟨policy.frame, result.1.isOk⟩ :: poller.line.sendings := by
  obtain rfl := paced.settings
  cases effect with
  | sent log taken =>
      have sendings := Watched.sendings_send_of_ok taken
      exact ⟨paced.unlocked rfl rfl sendings, sendings⟩
  | unsent fault log refused =>
      have sendings := Watched.sendings_send_of_error refused
      exact ⟨paced.refused rfl rfl sendings (.inl rfl), sendings⟩

/-- A turn keeps the pace, and gives the line one frame: the unlock frame if it is due, and a
request otherwise. -/
theorem act (paced : poller.Paced policy) :
    poller.act.2.Paced policy ∧
      poller.act.2.line.sendings =
        ⟨if poller.unlockDue then policy.frame
          else Frame.request poller.act.2.register.address, poller.act.1.isOk⟩ ::
            poller.line.sendings := by
  have chosen := paced.choose
  have due := poller.unlockDue_choose
  rw [← due, ← poller.sendings_choose]
  have effect := poller.actEffect
  generalize poller.act = result at effect ⊢
  generalize poller.choose = choice at effect chosen ⊢
  have held (log : List Event) :
      ({ choice.2.emptied log with resume := true } : Poller (Watched σ)).Paced policy :=
    chosen.same rfl rfl rfl
  cases effect with
  | unlocked log onward due effect =>
      rw [if_pos due]
      exact (held log).unlock effect
  | unlockFailed log fault onward due effect =>
      rw [if_pos due]
      exact (held log).unlock effect
  | asked result undue effect =>
      rw [undue, if_neg Bool.false_ne_true]
      cases effect with
      | sent log taken =>
          have sendings := Watched.sendings_send_of_ok taken
          exact ⟨chosen.requested undue rfl rfl sendings, sendings⟩
      | unsent fault log refused =>
          have sendings := Watched.sendings_send_of_error refused
          exact ⟨chosen.refused rfl rfl sendings (.inr ⟨_, rfl⟩), sendings⟩

theorem start (paced : poller.Paced policy) : poller.start.2.Paced policy := by
  have effect := poller.startEffect
  generalize poller.start = result at effect ⊢
  cases effect with
  | plain => exact paced.same rfl rfl rfl
  | unlocking before after result asked effect =>
      have emptied : (poller.emptied before).Paced policy := paced.same rfl rfl rfl
      exact (emptied.unlock effect).1.same rfl rfl rfl

theorem looked (paced : poller.Paced policy) : poller.looked.Paced policy :=
  paced.collect.same rfl rfl rfl

end Paced

variable [Line σ]

/-- The pace is kept along a run. -/
theorem preserved_paced (handle : ε → σ → Served σ Unit) (policy : UnlockPolicy) :
    Preserved (Watched.handle handle) (Paced policy) where
  collected _ paced := paced.collect
  counted _ _ paced := paced.same rfl rfl rfl
  acted _ paced := paced.act.1
  started _ paced := paced.start
  calibrated _ _ _ paced _ := paced.same rfl rfl rfl
  handled _ _ paced := paced.same rfl rfl rfl

/-- What is sent on the next tick, given what the line took since it took an unlock frame. -/
structure Pacing (handle : ε → Watched σ → Served (Watched σ) Unit) (policy : UnlockPolicy)
    (poller : Poller (Watched σ)) : Prop where
  requests : ∀ sending ∈ takenSince policy.frame poller.line.sendings,
    ∃ address, sending.frame = Frame.request address
  bounded : 0 < policy.interval →
    (takenSince policy.frame poller.line.sendings).length ≤ policy.interval
  silent : poller.slowTick.1 = .ok .skipped →
    poller.slowTick.2.line.sendings = poller.line.sendings
  /-- After as many requests as the interval says, a tick that is acted on gives the unlock frame to
  the line. -/
  unlocks : poller.slowTick.1 ≠ .ok .skipped → 0 < policy.interval →
    (takenSince policy.frame poller.line.sendings).length = policy.interval →
      poller.slowTick.2.line.sendings =
        ⟨policy.frame, poller.slowTick.1.isOk⟩ :: poller.line.sendings
  /-- Otherwise, and always if there is no interval, it is a request for the chosen register. -/
  asks : poller.slowTick.1 ≠ .ok .skipped → policy.interval = 0 ∨
    (takenSince policy.frame poller.line.sendings).length ≠ policy.interval →
      poller.slowTick.2.line.sendings =
        ⟨Frame.request poller.slowTick.2.register.address, poller.slowTick.1.isOk⟩ ::
          poller.line.sendings
  uncounted : poller.slowTick.1 = .ok .unlocked →
    poller.slowTick.2.progress.counters.tx = poller.progress.counters.tx
  /-- The register that was chosen when an unlock frame went out has its turn on the next tick that
  is acted on, whatever comes between. -/
  turn : poller.slowTick.1 = .ok .unlocked → ∀ between : List (Move ε),
    (∀ tick ∈ poller.slowTick.2.scheduled handle between, tick.1 = .ok .skipped) →
      let next := poller.slowTick.2.run handle between
      next.slowTick.1 ≠ .ok .skipped →
        next.slowTick.2.progress.index = poller.slowTick.2.progress.index ∧
          next.slowTick.2.line.sendings =
            ⟨Frame.request poller.slowTick.2.register.address, next.slowTick.1.isOk⟩ ::
              next.line.sendings

/-- A tick that is acted on gives the line the frame that is due. -/
theorem sendings_slowTick {policy : UnlockPolicy} {poller : Poller (Watched σ)}
    (paced : poller.Paced policy) (acted : poller.slowTick.1 ≠ .ok .skipped) :
    poller.slowTick.2.line.sendings =
      ⟨if poller.unlockDue then policy.frame
        else Frame.request poller.slowTick.2.register.address, poller.slowTick.1.isOk⟩ ::
          poller.line.sendings := by
  have sendings := paced.looked.act.2
  rw [poller.unlockDue_looked, ← slowTick_of_acted acted] at sendings
  exact sendings.trans (congrArg _ poller.sendings_collect)

/-- What a poller that keeps the pace sends next. -/
theorem Paced.pacing {policy : UnlockPolicy} {poller : Poller (Watched σ)}
    (paced : poller.Paced policy) (handle : ε → σ → Served σ Unit) :
    poller.Pacing (Watched.handle handle) policy where
  requests sending since := by
    obtain ⟨member, other⟩ := mem_of_mem_takenSince since
    exact (paced.kinds sending member).resolve_left other
  bounded := paced.counted ▸ paced.bounded
  silent skipped := by
    rw [slowTick_of_skipped skipped]
    exact poller.sendings_collect
  unlocks acted positive reached := by
    have due := paced.unlockDue_iff.mpr ⟨positive, reached⟩
    rw [sendings_slowTick paced acted, if_pos due]
  asks acted short := by
    have undue : ¬ poller.unlockDue = true := by
      intro due
      obtain ⟨positive, reached⟩ := paced.unlockDue_iff.mp due
      exact short.elim (Nat.ne_of_gt positive) (absurd reached)
    rw [sendings_slowTick paced acted, if_neg undue]
  uncounted unlocked := (held_slowTick unlocked).2
  turn unlocked between skipped := by
    intro next acted
    have held : next.Held poller.slowTick.2.progress.index poller.slowTick.2.register.address :=
      (lasting_held _ _ _).run (held_slowTick unlocked).1 skipped
    have undue : ¬ next.unlockDue = true := Bool.eq_false_iff.mp held.unlockDue
    obtain ⟨index, address⟩ := held.looked.act
    rw [← slowTick_of_acted acted] at index address
    have preserved := preserved_paced handle policy
    have paced : next.Paced policy := preserved.run (preserved.slowTick paced) between
    rw [sendings_slowTick paced acted, if_neg undue, address]
    exact ⟨index, rfl⟩

/-- **The pace of unlock frames.** On every run from the start the line takes at most as many
requests between two unlock frames as the interval says, and is given the next unlock frame exactly
when it took so many. The register whose request the frame replaces is the next one to be asked. -/
theorem pacing_run (handle : ε → σ → Served σ Unit) (line : σ) (table : Table) (options : Options)
    (moves : List (Move ε)) :
    let poller := (new (Watched.watch line) table options).run (Watched.handle handle) moves
    poller.Mirrors Watched.line 0 ((new line table options).run handle moves) ∧
      poller.Pacing (Watched.handle handle) options.unlock := by
  intro poller
  have paced : (new (Watched.watch line) table options).Paced options.unlock :=
    { settings := rfl
      counted := rfl
      bounded := fun _ => Nat.zero_le _
      kinds := nofun }
  have mirrors : poller.Mirrors Watched.line 0 ((new line table options).run handle moves) :=
    Mirrors.run Watched.view (fun _ _ => ⟨rfl, rfl⟩) ⟨[], rfl⟩ moves
  have preserved := preserved_paced handle options.unlock
  exact ⟨mirrors, Paced.pacing (preserved.run paced moves) handle⟩

/-- With an interval of two every third frame unlocks writes, and the tries of a register that does
not answer go on after it. -/
example :
    ((new (Watched.watch Meter.bare) .reference
      { Options.standard with unlock := ⟨false, 2, 0x52, 0x32⟩ }).run
        (Watched.handle Handling.apply)
        [.slowTick, .slowTick, .slowTick, .start, .slowTick, .slowTick, .slowTick]).line.sendings =
      [⟨Frame.unlock 0x52 0x32, true⟩, ⟨Frame.request 0x06, true⟩, ⟨Frame.request 0x08, true⟩,
        ⟨Frame.unlock 0x52 0x32, true⟩, ⟨Frame.request 0x08, true⟩, ⟨Frame.request 0x08, true⟩] := by
  decide +kernel

end Poller

end MeterPoll
