import Mathlib.Tactic.Common
import MeterPoll.Poller.Schedule

/-!
# What one operation can do

One statement for each operation of a poller, with everything the operation can do and when:
the collector (`Poller.collectEffect`), the choice of a register (`Poller.chooseEffect`), a tick
that is acted on (`Poller.actEffect`), the unlock frame and the start of polling
(`Poller.startEffect`). Only the log is left open. Neither a look for a reply nor a choice changes
the table, the options or what was counted as sent (`Poller.Steady`). A tick of the scheduler is a
look for a reply followed, on the ticks that are acted on, by a choice and a frame
(`Poller.slowTick_eq`).
-/

namespace MeterPoll

namespace Poller

variable {σ : Type} [Line σ]

/-- The poller over another line, with another log and more bytes thrown away. -/
def drained (poller : Poller σ) (line : σ) (log : List Event) (bytes : Nat) : Poller σ :=
  { poller with
    line
    log
    progress.counters.discarded := poller.progress.counters.discarded + bytes }

/-- The poller after everything that was received is thrown away, with this log. -/
def emptied (poller : Poller σ) (log : List Event) : Poller σ :=
  poller.drained (Line.discardAll poller.line).line log (Line.discardAll poller.line).answer

/-- Throwing away what was received, but for the log. -/
theorem discard_eq (poller : Poller σ) :
    ∃ log, poller.discard = ((Line.discardAll poller.line).answer, poller.emptied log) :=
  ⟨_, rfl⟩

/-- Before a frame the same happens. -/
theorem flush_eq (poller : Poller σ) : ∃ log, poller.flush = poller.emptied log := by
  unfold flush
  obtain ⟨log, discarded⟩ := poller.discard_eq
  simp only [discarded]
  split_ifs
  · exact ⟨log, rfl⟩
  · exact ⟨_, rfl⟩
  · exact ⟨_, rfl⟩

/-- What sending an unlock frame can do. -/
inductive UnlockEffect (poller : Poller σ) : Except Fault Unit × Poller σ → Prop where
  | sent (log : List Event)
      (taken : (Line.send poller.line (Frame.unlock poller.options.unlock.register
        poller.options.unlock.key)).answer = .ok ()) :
      UnlockEffect poller (.ok (), { poller with
        line := (Line.send poller.line (Frame.unlock poller.options.unlock.register
          poller.options.unlock.key)).line
        log
        sinceUnlock := 0
        progress.counters.unlocks := poller.progress.counters.unlocks + 1 })
  | unsent (fault : Fault) (log : List Event)
      (refused : (Line.send poller.line (Frame.unlock poller.options.unlock.register
        poller.options.unlock.key)).answer = .error fault) :
      UnlockEffect poller (.error fault, { poller with
        line := (Line.send poller.line (Frame.unlock poller.options.unlock.register
          poller.options.unlock.key)).line
        log })

/-- Sending the unlock frame does one of these. -/
theorem unlockEffect (poller : Poller σ) : UnlockEffect poller poller.sendUnlock := by
  unfold sendUnlock
  cases answered : (Line.send poller.line (Frame.unlock poller.options.unlock.register
    poller.options.unlock.key)).answer with
  | error fault =>
      simp only [answered]
      exact .unsent fault _ answered
  | ok done =>
      simp only [answered]
      exact .sent _ answered

/-- What the start of polling can do: bytes are thrown away, and then the unlock frame goes out if
the policy says so. -/
inductive StartEffect (poller : Poller σ) : Except Fault Unit × Poller σ → Prop where
  | plain (log : List Event) (unasked : poller.options.unlock.onStartup = false) :
      StartEffect poller (.ok (), poller.emptied log)
  | unlocking (before after : List Event) (result : Except Fault Unit × Poller σ)
      (asked : poller.options.unlock.onStartup = true)
      (effect : UnlockEffect (poller.emptied before) result) :
      StartEffect poller (result.1, { result.2 with log := after })

/-- The start of polling does one of these. -/
theorem startEffect (poller : Poller σ) : StartEffect poller poller.start := by
  obtain ⟨log, discarded⟩ := poller.discard_eq
  have noted : ∃ before, (if (Line.discardAll poller.line).answer = 0 then poller.emptied log
      else (poller.emptied log).note (.startupDiscarded (Line.discardAll poller.line).answer)) =
        poller.emptied before := by
    split_ifs
    · exact ⟨log, rfl⟩
    · exact ⟨_, rfl⟩
  obtain ⟨before, noted⟩ := noted
  unfold start
  simp only [discarded, noted]
  have options : (poller.emptied before).options = poller.options := rfl
  rw [options]
  cases asked : poller.options.unlock.onStartup with
  | false => exact .plain _ asked
  | true =>
      have effect := (poller.emptied before).unlockEffect
      simp only [if_true]
      cases sent : (poller.emptied before).sendUnlock with
      | mk answer onward =>
          rw [sent] at effect
          cases answer with
          | error fault => exact .unlocking before onward.log _ asked effect
          | ok done => exact .unlocking before _ _ asked effect

/-- What the collector can do. A reply is taken only while a request is out and only when all its
bytes can be seen. -/
inductive CollectEffect (poller : Poller σ) : Collected × Poller σ → Prop where
  | idle (calm : poller.progress.awaiting = false) : CollectEffect poller (.idle, poller)
  | waiting (available : Nat) (log : List Event) (out : poller.progress.awaiting = true) :
      CollectEffect poller (.waiting available, { poller with
        line := (Line.available poller.line).line
        log })
  | accepted (reply : Reply) (raw : UInt32) (log : List Event)
      (out : poller.progress.awaiting = true)
      (enough : Frame.replyLength ≤ (Line.available poller.line).answer)
      (seen : peekReply (Line.available poller.line).line = .ok reply)
      (right : reply.decode poller.register.address = .ok raw) :
      CollectEffect poller
        (.accepted poller.register.quantity raw (poller.register.value raw poller.options.noise),
          { poller with
            line := Line.consume (Line.available poller.line).line Frame.replyLength
            log
            readings := poller.readings.set poller.register.quantity
              (poller.register.value raw poller.options.noise)
            progress.awaiting := false
            progress.consecutive := 0
            progress.counters.good := poller.progress.counters.good + 1 })
  | rejected (reply : Reply) (mismatch : Mismatch) (log : List Event)
      (out : poller.progress.awaiting = true)
      (enough : Frame.replyLength ≤ (Line.available poller.line).answer)
      (seen : peekReply (Line.available poller.line).line = .ok reply)
      (wrong : reply.decode poller.register.address = .error mismatch) :
      CollectEffect poller
        (.rejected (.checksum poller.register.address mismatch),
          { poller with
            line := Line.consume (Line.available poller.line).line Frame.replyLength
            log
            lastFault := some (.checksum poller.register.address mismatch)
            progress.awaiting := false
            progress.counters.bad := poller.progress.counters.bad + 1 })

/-- The collector does one of these. -/
theorem collectEffect (poller : Poller σ) : CollectEffect poller poller.collect := by
  unfold collect
  cases out : poller.progress.awaiting with
  | false => exact .idle out
  | true =>
      simp only [Bool.not_true, Bool.false_eq_true, if_false]
      split_ifs with short
      · exact .waiting _ _ out
      · cases seen : peekReply (poller.goOn (Line.available poller.line)).line with
        | error count => exact .waiting count _ out
        | ok reply =>
            have enough := Nat.le_of_not_lt short
            simp only [settle]
            cases decoded : reply.decode
                (poller.goOn (Line.available poller.line)).register.address with
            | ok raw => exact .accepted reply raw _ out enough seen decoded
            | error mismatch => exact .rejected reply mismatch _ out enough seen decoded

/-- What the choice of a register can do. -/
inductive ChooseEffect (poller : Poller σ) : Choice × Poller σ → Prop where
  /-- The last try was missed, so the next register has its turn. -/
  | gaveUp (log : List Event) (out : poller.progress.awaiting = true)
      (spent : poller.options.maxRetries ≤ poller.progress.consecutive + 1) :
      ChooseEffect poller (⟨false, some poller.register.address⟩,
        { poller.emptied log with
          lastFault := some (.noReply poller.register.address (poller.progress.consecutive + 1))
          progress.awaiting := false
          progress.consecutive := 0
          progress.index := poller.table.next poller.progress.index
          progress.counters.misses := poller.progress.counters.misses + 1
          progress.counters.abandoned := poller.progress.counters.abandoned + 1 })
  /-- A try was missed and the register is asked again. -/
  | retrying (log : List Event) (out : poller.progress.awaiting = true)
      (left : poller.progress.consecutive + 1 < poller.options.maxRetries) :
      ChooseEffect poller (⟨true, none⟩,
        { poller.emptied log with
          progress.awaiting := false
          progress.consecutive := poller.progress.consecutive + 1
          progress.counters.misses := poller.progress.counters.misses + 1 })
  /-- The register that lost its turn to an unlock frame has it now. -/
  | resumed (calm : poller.progress.awaiting = false) (held : poller.resume = true) :
      ChooseEffect poller (⟨decide (0 < poller.progress.consecutive), none⟩, poller)
  | advanced (calm : poller.progress.awaiting = false) (free : poller.resume = false) :
      ChooseEffect poller (⟨false, none⟩,
        { poller with progress := poller.progress.advance poller.table })

/-- The choice of a register does one of these. -/
theorem chooseEffect (poller : Poller σ) : ChooseEffect poller poller.choose := by
  unfold choose
  cases out : poller.progress.awaiting with
  | false =>
      simp only [Bool.false_eq_true, if_false]
      split_ifs with held
      · exact .resumed out held
      · exact .advanced out (eq_false_of_ne_true held)
  | true =>
      simp only [if_true, miss]
      split_ifs with spent
      · exact .gaveUp _ out spent
      · exact .retrying _ out (Nat.lt_of_not_le spent)

/-- What sending a request can do. Received bytes are thrown away first. -/
inductive RequestEffect (choice : Choice) (poller : Poller σ) :
    Except Fault Tick × Poller σ → Prop where
  | sent (log : List Event)
      (taken : (Line.send (Line.discardAll poller.line).line
        (Frame.request poller.register.address)).answer = .ok ()) :
      RequestEffect choice poller
        (.ok (.requested poller.register.address choice.retry choice.abandoned),
          { poller.emptied log with
            line := (Line.send (Line.discardAll poller.line).line
              (Frame.request poller.register.address)).line
            sinceUnlock := poller.sinceUnlock + 1
            progress.awaiting := true
            progress.counters.tx := poller.progress.counters.tx + 1 })
  | unsent (fault : Fault) (log : List Event)
      (refused : (Line.send (Line.discardAll poller.line).line
        (Frame.request poller.register.address)).answer = .error fault) :
      RequestEffect choice poller (.error fault,
        { poller.emptied log with
          line := (Line.send (Line.discardAll poller.line).line
            (Frame.request poller.register.address)).line })

/-- Sending a request does one of these. -/
theorem requestEffect (choice : Choice) (poller : Poller σ) :
    RequestEffect choice poller (poller.request choice) := by
  obtain ⟨log, flushed⟩ := poller.flush_eq
  have line : (poller.emptied log).line = (Line.discardAll poller.line).line := rfl
  have register : (poller.emptied log).register = poller.register := rfl
  simp only [request, flushed, line, register]
  cases answered : (Line.send (Line.discardAll poller.line).line
      (Frame.request poller.register.address)).answer with
  | error fault =>
      exact .unsent fault ((Line.send (Line.discardAll poller.line).line
        (Frame.request poller.register.address)).events.reverse ++ log) answered
  | ok done =>
      exact .sent (.requestSent poller.register.address choice.retry ::
        ((Line.send (Line.discardAll poller.line).line
          (Frame.request poller.register.address)).events.reverse ++ log)) answered

/-- What a tick that is acted on can do once the register is chosen. An unlock frame that takes the
place of the request leaves the register its turn, whether or not it could be sent. -/
inductive ActEffect (choice : Choice) (chosen : Poller σ) :
    Except Fault Tick × Poller σ → Prop where
  | unlocked (log : List Event) (onward : Poller σ) (due : chosen.unlockDue = true)
      (effect : UnlockEffect { chosen.emptied log with resume := true } (.ok (), onward)) :
      ActEffect choice chosen (.ok .unlocked, onward)
  | unlockFailed (log : List Event) (fault : Fault) (onward : Poller σ)
      (due : chosen.unlockDue = true)
      (effect : UnlockEffect { chosen.emptied log with resume := true } (.error fault, onward)) :
      ActEffect choice chosen (.error fault, onward)
  | asked (result : Except Fault Tick × Poller σ) (undue : chosen.unlockDue = false)
      (effect : RequestEffect choice { chosen with resume := false } result) :
      ActEffect choice chosen result

/-- A tick that is acted on does one of these with the register it chooses. -/
theorem actEffect (poller : Poller σ) :
    ActEffect poller.choose.1 poller.choose.2 poller.act := by
  unfold act
  obtain ⟨choice, chosen⟩ := poller.choose
  have unchanged : ({ chosen with resume := false } : Poller σ).unlockDue = chosen.unlockDue := rfl
  simp only [unchanged]
  split_ifs with due
  · obtain ⟨log, flushed⟩ := ({ chosen with resume := false } : Poller σ).flush_eq
    have instead : ({ chosen with resume := false } : Poller σ).unlockInstead =
        (({ chosen.emptied log with resume := true } : Poller σ).sendUnlock.1.map
            fun _ => Tick.unlocked,
          ({ chosen.emptied log with resume := true } : Poller σ).sendUnlock.2) := by
      simp only [unlockInstead, flushed]
      rfl
    have effect := ({ chosen.emptied log with resume := true } : Poller σ).unlockEffect
    rw [instead]
    generalize ({ chosen.emptied log with resume := true } : Poller σ).sendUnlock = sent
      at effect ⊢
    obtain ⟨_ | done, onward⟩ := sent
    · exact .unlockFailed log _ onward due effect
    · exact .unlocked log onward due effect
  · exact .asked _ (eq_false_of_ne_true due) (requestEffect choice _)

/-- The poller with its look for a reply done and the tick counted. -/
def looked (poller : Poller σ) : Poller σ :=
  { poller.collect.2 with ticks := poller.ticks + 1 }

/-- What neither a look for a reply nor the choice of a register changes. -/
structure Steady (before after : Poller σ) : Prop where
  table : after.table = before.table
  options : after.options = before.options
  ticks : after.ticks = before.ticks
  sinceUnlock : after.sinceUnlock = before.sinceUnlock
  tx : after.progress.counters.tx = before.progress.counters.tx
  unlocks : after.progress.counters.unlocks = before.progress.counters.unlocks

/-- A look for a reply is steady. -/
theorem steady_collect (poller : Poller σ) : poller.Steady poller.collect.2 := by
  have effect := poller.collectEffect
  generalize poller.collect = result at effect ⊢
  cases effect <;> exact ⟨rfl, rfl, rfl, rfl, rfl, rfl⟩

/-- The choice of a register is steady. -/
theorem steady_choose (poller : Poller σ) : poller.Steady poller.choose.2 := by
  have effect := poller.chooseEffect
  generalize poller.choose = result at effect ⊢
  cases effect <;> exact ⟨rfl, rfl, rfl, rfl, rfl, rfl⟩

/-- Whether the next tick is acted on does not depend on a look for a reply. -/
theorem acts_collect (poller : Poller σ) : poller.collect.2.acts = poller.acts := by
  have steady := poller.steady_collect
  unfold acts
  rw [steady.ticks, steady.options]

/-- A tick of the scheduler looks for a reply and then acts, on the ticks that are acted on. -/
theorem slowTick_eq (poller : Poller σ) :
    poller.slowTick =
      if poller.acts then poller.looked.act else (.ok .skipped, poller.looked) := by
  unfold slowTick looked
  simp only [poller.acts_collect, poller.steady_collect.ticks]

/-- A tick that is not skipped is acted on. -/
theorem acts_of_acted {poller : Poller σ} (acted : poller.slowTick.1 ≠ .ok .skipped) :
    poller.acts = true := by
  by_contra idle
  rw [slowTick_eq, if_neg idle] at acted
  exact acted rfl

/-- A tick that is not skipped is a look for a reply and then a turn. -/
theorem slowTick_of_acted {poller : Poller σ} (acted : poller.slowTick.1 ≠ .ok .skipped) :
    poller.slowTick = poller.looked.act := by
  rw [slowTick_eq, if_pos (acts_of_acted acted)]

/-- A turn never reports that the tick was skipped. -/
theorem act_ne_skipped (poller : Poller σ) : poller.act.1 ≠ .ok .skipped := by
  have effect := poller.actEffect
  generalize poller.act = result at effect ⊢
  cases effect with
  | unlocked => nofun
  | unlockFailed => nofun
  | asked result undue effect => cases effect <;> nofun

/-- A skipped tick is a look for a reply and is counted. -/
theorem slowTick_of_skipped {poller : Poller σ} (skipped : poller.slowTick.1 = .ok .skipped) :
    poller.slowTick.2 = poller.looked := by
  rw [slowTick_eq] at skipped ⊢
  split_ifs at skipped ⊢ with acts
  · exact absurd skipped poller.looked.act_ne_skipped
  · rfl

/-- With no request out there is nothing to look for. -/
theorem collect_of_calm {poller : Poller σ} (calm : poller.progress.awaiting = false) :
    poller.collect.2 = poller := by
  unfold collect
  simp only [calm, Bool.not_false, if_true]

omit [Line σ] in
/-- What is steady does not bring an unlock frame nearer. -/
theorem Steady.unlockDue {before after : Poller σ} (steady : before.Steady after) :
    after.unlockDue = before.unlockDue := by
  unfold Poller.unlockDue
  rw [steady.options, steady.sinceUnlock]

/-- The look at the beginning of a tick does not make an unlock frame due. -/
theorem unlockDue_looked (poller : Poller σ) : poller.looked.unlockDue = poller.unlockDue :=
  poller.steady_collect.unlockDue

theorem unlockDue_choose (poller : Poller σ) :
    poller.choose.2.unlockDue = poller.unlockDue :=
  poller.steady_choose.unlockDue

/-- Once a register is chosen, no request is out. -/
theorem awaiting_choose (poller : Poller σ) : poller.choose.2.progress.awaiting = false := by
  have effect := poller.chooseEffect
  generalize poller.choose = result at effect ⊢
  cases effect with
  | gaveUp => rfl
  | retrying => rfl
  | resumed calm => exact calm
  | advanced calm => exact calm

/-- The request is a retry if the register has misses against it. -/
theorem retry_choose (poller : Poller σ) :
    poller.choose.1.retry = decide (0 < poller.choose.2.progress.consecutive) := by
  have effect := poller.chooseEffect
  generalize poller.choose = result at effect ⊢
  cases effect with
  | gaveUp => rfl
  | retrying => exact (decide_eq_true (Nat.succ_pos _)).symm
  | resumed => rfl
  | advanced => rfl

/-- A register that lost its turn to an unlock frame has it as it was. -/
theorem choose_of_held {poller : Poller σ} (calm : poller.progress.awaiting = false)
    (held : poller.resume = true) : poller.choose.2 = poller := by
  unfold choose
  simp only [calm, held, Bool.false_eq_true, if_false, if_true]

omit [Line σ] in
/-- Right after an unlock frame none is due. -/
theorem unlockDue_of_unlocked {poller : Poller σ} (unlocked : poller.sinceUnlock = 0) :
    poller.unlockDue = false := by
  simp only [unlockDue, unlocked, Nat.le_zero, Bool.and_eq_false_iff, decide_eq_false_iff_not]
  omega

/-- A turn on which no unlock frame is due is a request for the chosen register. -/
theorem act_of_undue {poller : Poller σ} (undue : poller.unlockDue = false) :
    poller.act = ({ poller.choose.2 with resume := false } : Poller σ).request poller.choose.1 := by
  have still : ({ poller.choose.2 with resume := false } : Poller σ).unlockDue = false :=
    poller.unlockDue_choose.trans undue
  unfold act
  exact if_neg (Bool.eq_false_iff.mp still)

/-- A turn neither counts ticks nor changes options. -/
theorem ticks_options_act (poller : Poller σ) :
    poller.act.2.ticks = poller.ticks ∧ poller.act.2.options = poller.options := by
  have steady := poller.steady_choose
  rw [← steady.ticks, ← steady.options]
  have effect := poller.actEffect
  generalize poller.act = result at effect ⊢
  generalize poller.choose = choice at effect ⊢
  cases effect with
  | unlocked log onward due effect =>
      cases effect with
      | sent => exact ⟨rfl, rfl⟩
  | unlockFailed log fault onward due effect =>
      cases effect with
      | unsent => exact ⟨rfl, rfl⟩
  | asked result undue effect => cases effect <;> exact ⟨rfl, rfl⟩

/-- A tick of the scheduler counts itself and keeps the options. -/
theorem ticks_options_slowTick (poller : Poller σ) :
    poller.slowTick.2.ticks = poller.ticks + 1 ∧
      poller.slowTick.2.options = poller.options := by
  have options : poller.looked.options = poller.options := poller.steady_collect.options
  rw [slowTick_eq]
  split_ifs
  · obtain ⟨ticks, kept⟩ := poller.looked.ticks_options_act
    exact ⟨ticks, kept.trans options⟩
  · exact ⟨rfl, options⟩

end Poller

end MeterPoll
