import MeterPoll.Bench
import MeterPoll.Proofs.Poller.Effects

/-!
# A look for a reply

On faulty wires the number of received bytes and the bytes that can be seen may disagree. A look
for a reply settles the request that is out if the queue holds a whole reply and all of it can be
seen (`Poller.lookEffect`). It then takes exactly that reply from the queue; otherwise it leaves
everything as it was. In no case does it touch what belongs to the scheduler
(`Poller.fastTick_contract`).
-/

namespace MeterPoll

namespace Poller

/-- What looking at the first bytes of a line comes to: one of them is hidden, or they are all
seen. -/
inductive PeekEffect {σ : Type} [Line σ] (line : σ) : Except Nat Reply → Prop where
  | hidden (seen : Nat) (inside : seen < Frame.replyLength)
      (hides : Line.peek? line seen = none) : PeekEffect line (.error seen)
  | visible (reply : Reply)
      (shows : ∀ offset < Frame.replyLength, Line.peek? line offset = reply.toList[offset]?) :
      PeekEffect line (.ok reply)

/-- A reply is seen exactly if all of its bytes are. -/
theorem peekEffect {σ : Type} [Line σ] (line : σ) : PeekEffect line (peekReply line) := by
  unfold peekReply
  cases first : Line.peek? line 0 with
  | none => exact .hidden 0 (by decide) first
  | some high =>
      cases second : Line.peek? line 1 with
      | none => exact .hidden 1 (by decide) second
      | some middle =>
          cases third : Line.peek? line 2 with
          | none => exact .hidden 2 (by decide) third
          | some low =>
              cases fourth : Line.peek? line 3 with
              | none => exact .hidden 3 (by decide) fourth
              | some check =>
                  refine .visible ⟨high, middle, low, check⟩ fun offset inside => ?_
                  match offset, inside with
                  | 0, _ => exact first
                  | 1, _ => exact second
                  | 2, _ => exact third
                  | 3, _ => exact fourth

variable {poller : Poller Bench}

/-- What a look for a reply does on faulty wires, and when. -/
inductive LookEffect (poller : Poller Bench) : Collected × Poller Bench → Prop where
  | idle (calm : poller.progress.awaiting = false) : LookEffect poller (.idle, poller)
  | short (out : poller.progress.awaiting = true)
      (few : poller.line.meter.queue.length < Frame.replyLength) :
      LookEffect poller (.waiting poller.line.meter.queue.length, poller)
  | hidden (seen : Nat) (out : poller.progress.awaiting = true)
      (enough : Frame.replyLength ≤ poller.line.meter.queue.length)
      (inside : seen < Frame.replyLength) (hides : Line.peek? poller.line seen = none) :
      LookEffect poller (.waiting seen, poller)
  | settled (reply : Reply) (rest : List UInt8) (out : poller.progress.awaiting = true)
      (bytes : poller.line.meter.queue.bytes = reply.toList ++ rest)
      (shows : ∀ offset < Frame.replyLength, Line.peek? poller.line offset ≠ none) :
      LookEffect poller (poller.settle reply)

/-- What is seen whole on a bench is what the queue starts with. -/
theorem bytes_of_shows {bench : Bench} {reply : Reply}
    (shows : ∀ offset < Frame.replyLength, Line.peek? bench offset = reply.toList[offset]?) :
    ∃ rest, bench.meter.queue.bytes = reply.toList ++ rest := by
  have byte (offset : Nat) (inside : offset < Frame.replyLength) :
      bench.meter.queue.bytes[offset]? = reply.toList[offset]? := by
    have shown := shows offset inside
    have there : reply.toList[offset]? = some reply.toList[offset] :=
      List.getElem?_eq_getElem inside
    change (if bench.peekLimit.all (offset < ·) then bench.meter.queue.peek? offset else none) = _
      at shown
    split_ifs at shown
    · exact shown
    · rw [there] at shown
      cases shown
  have first : bench.meter.queue.bytes.take Frame.replyLength = reply.toList := by
    apply List.ext_getElem?
    intro offset
    rw [List.getElem?_take]
    split_ifs with inside
    · exact byte offset inside
    · exact (List.getElem?_eq_none (Nat.le_of_not_lt inside)).symm
  exact ⟨_, by rw [← first, List.take_append_drop]⟩

/-- What one look for a reply does, in all its cases. -/
theorem lookEffect (poller : Poller Bench) : LookEffect poller poller.fastTick := by
  unfold fastTick collect
  cases out : poller.progress.awaiting with
  | false => exact .idle out
  | true =>
      have same : poller.goOn (Line.available poller.line) = poller := rfl
      simp only [Bool.not_true, Bool.false_eq_true, if_false, same]
      split_ifs with few
      · exact .short out few
      · have enough := Nat.le_of_not_lt few
        have peeked := peekEffect poller.line
        cases seen : peekReply poller.line with
        | error count =>
            rw [seen] at peeked
            cases peeked with
            | hidden _ inside hides => exact .hidden count out enough inside hides
        | ok reply =>
            rw [seen] at peeked
            cases peeked with
            | visible _ shows =>
                obtain ⟨rest, bytes⟩ := bytes_of_shows shows
                refine .settled reply rest out bytes fun offset inside => ?_
                rw [shows offset inside, List.getElem?_eq_getElem inside]
                exact Option.some_ne_none _

/-- What a look for a reply leaves as it is, whatever it comes to. -/
structure Undisturbed (before after : Poller Bench) : Prop extends before.Steady after where
  index : after.progress.index = before.progress.index
  resume : after.resume = before.resume
  misses : after.progress.counters.misses = before.progress.counters.misses
  abandoned : after.progress.counters.abandoned = before.progress.counters.abandoned
  discarded : after.progress.counters.discarded = before.progress.counters.discarded

/-- The reply is taken from the front of the queue and settles the request that was out. -/
structure Settlement (poller : Poller Bench) (reply : Reply) (result : Collected × Poller Bench) :
    Prop where
  bytes : poller.line.meter.queue.bytes = reply.toList ++ result.2.line.meter.queue.bytes
  line : result.2.line =
    { poller.line with meter.queue := poller.line.meter.queue.consume Frame.replyLength }
  calm : result.2.progress.awaiting = false
  verdict : (∃ quantity raw value, result.1 = .accepted quantity raw value) ↔
    reply.expectedCheck poller.register.address = reply.check
  accepted : ∀ quantity raw value, result.1 = .accepted quantity raw value →
    reply.decode poller.register.address = .ok raw ∧ quantity = poller.register.quantity ∧
      value = poller.register.value raw poller.options.noise ∧
      result.2.readings.get quantity = value ∧
      (∀ other ≠ quantity, result.2.readings.get other = poller.readings.get other) ∧
      result.2.progress.consecutive = 0 ∧
      result.2.progress.counters.good = poller.progress.counters.good + 1 ∧
      result.2.progress.counters.bad = poller.progress.counters.bad ∧
      result.2.lastFault = poller.lastFault
  rejected : ∀ fault, result.1 = .rejected fault →
    ∃ mismatch, reply.decode poller.register.address = .error mismatch ∧
      fault = .checksum poller.register.address mismatch ∧ result.2.lastFault = some fault ∧
      result.2.readings = poller.readings ∧
      result.2.progress.consecutive = poller.progress.consecutive ∧
      result.2.progress.counters.good = poller.progress.counters.good ∧
      result.2.progress.counters.bad = poller.progress.counters.bad + 1

/-- A reply in front of the queue is consumed and decides what is counted. -/
theorem settlement_settle {reply : Reply} {rest : List UInt8}
    (bytes : poller.line.meter.queue.bytes = reply.toList ++ rest) :
    poller.Settlement reply (poller.settle reply) := by
  have taken : poller.line.meter.queue.bytes = reply.toList ++
      (poller.line.meter.queue.consume Frame.replyLength).bytes := by
    rw [Queue.bytes_consume, bytes, ← reply.length_toList, List.drop_left]
  unfold settle
  by_cases right : reply.expectedCheck poller.register.address = reply.check
  · have decoded : reply.decode poller.register.address = .ok reply.content := if_pos right
    simp only [decoded]
    exact {
      bytes := taken
      line := rfl
      calm := rfl
      verdict := ⟨fun _ => right, fun _ => ⟨_, _, _, rfl⟩⟩
      accepted := by
        intro quantity raw value accepted
        cases accepted
        refine ⟨decoded, rfl, rfl, Readings.get_set_self .., fun other different => ?_, rfl, rfl,
          rfl, rfl⟩
        exact Readings.get_set_of_ne _ _ different
      rejected := nofun }
  · have decoded : reply.decode poller.register.address =
        .error ⟨reply.expectedCheck poller.register.address, reply.check⟩ := if_neg right
    simp only [decoded]
    exact {
      bytes := taken
      line := rfl
      calm := rfl
      verdict := ⟨nofun, fun same => absurd same right⟩
      accepted := nofun
      rejected := by
        intro fault rejected
        cases rejected
        exact ⟨_, decoded, rfl, rfl, rfl, rfl, rfl, rfl⟩ }

/-- A reply that was seen ends the request. -/
theorem settle_settles (poller : Poller Bench) (reply : Reply) :
    (poller.settle reply).1 ≠ .idle ∧ (∀ seen, (poller.settle reply).1 ≠ .waiting seen) ∧
      (poller.settle reply).2.progress.awaiting = false := by
  simp only [settle]
  cases reply.decode poller.register.address with
  | ok raw => simp [note]
  | error mismatch => simp [note]

/-- A look for a reply leaves everything else as it is. -/
theorem undisturbed_fastTick (poller : Poller Bench) : poller.Undisturbed poller.fastTick.2 := by
  have steady := poller.steady_collect
  have effect := poller.collectEffect
  unfold fastTick
  generalize poller.collect = result at effect steady ⊢
  cases effect <;> exact { steady with
    index := rfl, resume := rfl, misses := rfl, abandoned := rfl, discarded := rfl }

/-- Without a request out there is nothing to look for. -/
theorem fastTick_of_calm (calm : poller.progress.awaiting = false) :
    poller.fastTick = (.idle, poller) := by
  have effect := poller.lookEffect
  generalize poller.fastTick = result at effect ⊢
  cases effect with
  | idle => rfl
  | short out => rw [calm] at out; cases out
  | hidden _ out => rw [calm] at out; cases out
  | settled _ _ out => rw [calm] at out; cases out

/-- A second look right after the first one changes nothing. -/
theorem fastTick_fastTick (poller : Poller Bench) :
    poller.fastTick.2.fastTick.2 = poller.fastTick.2 := by
  have effect := poller.lookEffect
  cases calm : poller.fastTick.2.progress.awaiting with
  | false => rw [fastTick_of_calm calm]
  | true =>
      -- What is still out was not settled, so the first look left everything as it was.
      have same : poller.fastTick.2 = poller := by
        generalize poller.fastTick = result at effect calm ⊢
        cases effect with
        | idle => rfl
        | short => rfl
        | hidden => rfl
        | settled reply => rw [(poller.settle_settles reply).2.2] at calm; cases calm
      rw [same, same]

/-- A look is idle exactly if no request is out. -/
theorem idle_fastTick_iff : poller.fastTick.1 = .idle ↔ poller.progress.awaiting = false := by
  have effect := poller.lookEffect
  constructor
  · intro idle
    generalize poller.fastTick = result at effect idle
    cases effect with
    | idle calm => exact calm
    | short => cases idle
    | hidden => cases idle
    | settled reply => exact absurd idle (poller.settle_settles reply).1
  · intro calm
    rw [fastTick_of_calm calm]

/-- A look waits exactly if not all bytes of a reply can be seen. -/
theorem waiting_fastTick_iff : (∃ seen, poller.fastTick.1 = .waiting seen) ↔
    poller.progress.awaiting = true ∧
      (poller.line.meter.queue.length < Frame.replyLength ∨
        ∃ offset < Frame.replyLength, Line.peek? poller.line offset = none) := by
  have effect := poller.lookEffect
  generalize poller.fastTick = result at effect ⊢
  cases effect with
  | idle calm => simp [calm]
  | short out few => exact ⟨fun _ => ⟨out, .inl few⟩, fun _ => ⟨_, rfl⟩⟩
  | hidden seen out _ inside hides =>
      exact ⟨fun _ => ⟨out, .inr ⟨seen, inside, hides⟩⟩, fun _ => ⟨_, rfl⟩⟩
  | settled reply rest out bytes shows =>
      constructor
      · rintro ⟨seen, waiting⟩
        exact absurd waiting ((poller.settle_settles reply).2.1 seen)
      · rintro ⟨_, few | ⟨offset, inside, hides⟩⟩
        · unfold Queue.length at few
          rw [bytes, List.length_append, reply.length_toList] at few
          omega
        · exact absurd hides (shows offset inside)

/-- **A look for a reply is all or nothing.** A poller in any state, on a meter in any state whose
wires show any part of what was received, is idle exactly if no request is out, and waits exactly if
one is out and the reply is not there or cannot be seen whole; then nothing changes. Otherwise the
four oldest bytes are taken and settle the request. Whatever the look comes to, it does not disturb
the scheduler, and a second look right after it changes nothing. -/
theorem fastTick_contract (poller : Poller Bench) :
    let result := poller.fastTick
    let queue := poller.line.meter.queue
    (result.1 = .idle ↔ poller.progress.awaiting = false) ∧
      ((∃ seen, result.1 = .waiting seen) ↔ poller.progress.awaiting = true ∧
        (queue.length < Frame.replyLength ∨
          ∃ offset < Frame.replyLength, Line.peek? poller.line offset = none)) ∧
      (result.1 = .idle → result.2 = poller) ∧
      (∀ seen, result.1 = .waiting seen → seen < Frame.replyLength ∧ result.2 = poller) ∧
      (result.1 ≠ .idle → (∀ seen, result.1 ≠ .waiting seen) →
        ∃ reply, poller.Settlement reply result) ∧
      poller.Undisturbed result.2 ∧
      result.2.fastTick.2 = result.2 := by
  intro result queue
  refine ⟨idle_fastTick_iff, waiting_fastTick_iff, fun idle => ?_, ?_, ?_,
    poller.undisturbed_fastTick, poller.fastTick_fastTick⟩
  · exact congrArg Prod.snd (fastTick_of_calm (idle_fastTick_iff.mp idle))
  · intro seen waiting
    have effect : poller.LookEffect result := poller.lookEffect
    clear_value result
    cases effect with
    | idle => cases waiting
    | short out few => cases waiting; exact ⟨few, rfl⟩
    | hidden _ _ _ inside => cases waiting; exact ⟨inside, rfl⟩
    | settled reply => exact absurd waiting ((poller.settle_settles reply).2.1 seen)
  · intro busy done
    have effect : poller.LookEffect result := poller.lookEffect
    clear_value result
    cases effect with
    | idle => exact absurd rfl busy
    | short => exact absurd rfl (done _)
    | hidden => exact absurd rfl (done _)
    | settled reply rest out bytes => exact ⟨reply, settlement_settle bytes⟩

end Poller

end MeterPoll
