import MeterPoll.Proofs.Poller.Cadence
import MeterPoll.Proofs.Poller.Isolation
import MeterPoll.Proofs.Poller.Rounds

/-!
# Rounds on a meter that answers at once

A meter that answers each register in one lasting way, with a right reply, with a wrong one or not
at all, has nothing left to say when a round is over (`Poller.Conversing.round`): what arrives is
the reply to the request that is out, the tick of the collector takes it whole, and nothing is ever
thrown away. If no register is silent, every request is settled in its round, so that the number of
requests says which register was asked by each of them and how many replies were right
(`Poller.InStep.round`).
-/

namespace MeterPoll

/-- The mode of the register that was asked, as a look shows it. -/
def Collected.mode? : Collected → Option ReplyMode
  | idle => none
  | waiting _ => some .silent
  | accepted .. => some .respond
  | rejected _ => some .corrupt

namespace Meter

variable {model meter : Meter}

/-- The meter differs from the model at most in what it was sent and in what it has received, and
no script stands in for its modes. -/
structure Like (model meter : Meter) : Prop extends meter.Prompt where
  registers : meter.registers = model.registers
  modes : meter.modes = model.modes
  script : meter.script = []

/-- Obeying a command keeps a meter like its model, for only an unlock count or an answer is added.
-/
theorem Like.obey (like : model.Like meter) (command : Command) :
    model.Like (meter.obey command).line := by
  cases command with
  | unlock => exact { like with }
  | read register =>
      rw [line_obey_read]
      exact { like with
        script := by
          change meter.script.tail = []
          rw [like.script]
          rfl }

theorem Like.obeyAll (like : model.Like meter) (commands : List Command) :
    model.Like (meter.obeyAll commands).line := by
  induction commands generalizing meter with
  | nil => exact like
  | cons command rest ih => exact ih (like.obey command)

theorem Like.send (like : model.Like meter) (frame : List UInt8) :
    model.Like (Line.send meter frame).line := by
  change model.Like (sendEach Line.sendByte meter frame).line
  induction frame generalizing meter with
  | nil => exact like
  | cons byte rest ih =>
      have filed : model.Like { meter with
          sent := byte :: meter.sent
          inbox := (Command.scan (meter.inbox ++ [byte])).2 } := { like with }
      exact ih (filed.obeyAll _)

/-- A meter stays like its model whatever a poller does on the line. -/
theorem books_like : Line.Books fun (meter : Meter) _ => model.Like meter where
  send like := like.send
  available like := like
  discardAll like := { like with roomy := like.roomy }
  consume like _ := { like with roomy := like.roomy }

/-- The model answers every register of the table with a right reply, with a wrong one or not at
all. -/
structure Plain (model : Meter) (table : Table) : Prop where
  contents : ∀ register ∈ table.entries, ∃ raw, model.registers register.address = some raw
  modes : ∀ register ∈ table.entries, model.modes register.address = .respond ∨
    model.modes register.address = .corrupt ∨ model.modes register.address = .silent

/-- What the model answers for a register. -/
def reply (model : Meter) (register : Register) : List UInt8 :=
  (model.modes register.address).answer register.address (model.registers register.address)

/-- A plain model answers with one reply or with nothing. -/
theorem Plain.length_reply_le {table : Table} (plain : model.Plain table) {register : Register}
    (member : register ∈ table.entries) : (model.reply register).length ≤ Frame.replyLength := by
  obtain ⟨raw, content⟩ := plain.contents register member
  rw [reply, content]
  rcases plain.modes register member with right | wrong | silent
  · rw [right]; rfl
  · rw [wrong]; rfl
  · rw [silent]; exact Nat.zero_le _

end Meter

namespace Poller

variable {poller : Poller Meter} {table : Table} {model : Meter}

/-- All that can have arrived is the answer to the request that is out. -/
structure Conversing (table : Table) (model : Meter) (poller : Poller Meter) : Prop where
  legible : poller.Legible
  like : model.Like poller.line
  polls : poller.table = table
  heard : poller.line.queue.bytes =
    if poller.progress.awaiting then model.reply poller.register else []
  tidy : poller.progress.counters.discarded = 0
  unread : ∀ register ∈ table.entries, model.modes register.address ≠ .respond →
    poller.readings.get register.quantity = 0

/-- Everything that arrived was taken, so that a request is out only if its register is silent. -/
structure Heard (table : Table) (model : Meter) (poller : Poller Meter) : Prop
    extends Conversing table model poller where
  silent : poller.progress.awaiting = true →
    model.modes poller.register.address = .silent

/-- What was heard does not depend on the log. -/
theorem Heard.logged (heard : poller.Heard table model) (log : List Event) :
    ({ poller with log } : Poller Meter).Heard table model :=
  { heard with legible := heard.legible.same rfl rfl rfl, like := heard.like }

/-- Once everything that arrived was taken, nothing is left in the receive queue. -/
theorem Heard.bytes_eq_nil (heard : poller.Heard table model) :
    poller.line.queue.bytes = [] := by
  rw [heard.heard]
  split_ifs with out
  · rw [Meter.reply, heard.silent out]
    rfl
  · rfl

/-- A look that has nothing to find changes nothing. -/
theorem Heard.collect_eq (heard : poller.Heard table model) : poller.collect.2 = poller := by
  refine collect_of_not_answered fun answered => ?_
  have enough := answered.2
  change Frame.replyLength ≤ poller.line.queue.bytes.length at enough
  rw [heard.bytes_eq_nil] at enough
  exact absurd enough (by decide)

theorem register_mem (same : poller.table = table) : poller.register ∈ table.entries := by
  rw [← same]
  exact List.get_mem ..

/-- A whole reply was taken, and nothing else was changed that matters. -/
theorem Conversing.settled (conversing : poller.Conversing table model) {after : Poller Meter}
    (whole : poller.line.queue.length = Frame.replyLength) (legible : after.Legible)
    (polls : after.table = table) (line : after.line = Line.consume poller.line Frame.replyLength)
    (calm : after.progress.awaiting = false)
    (tidy : after.progress.counters.discarded = poller.progress.counters.discarded)
    (unread : ∀ register ∈ table.entries, model.modes register.address ≠ .respond →
      after.readings.get register.quantity = 0) : after.Heard table model where
  legible
  like := by
    rw [line]
    exact { conversing.like with roomy := conversing.like.roomy }
  polls
  heard := by
    rw [calm, line]
    exact List.drop_eq_nil_of_le (Nat.le_of_eq whole)
  tidy := tidy.trans conversing.tidy
  unread
  silent out := absurd (calm.symm.trans out) Bool.false_ne_true

/-- A look shows in which mode the register that was asked is. -/
theorem Conversing.mode?_collect (conversing : poller.Conversing table model)
    (plain : model.Plain table) : poller.collect.1.mode? =
      if poller.progress.awaiting then some (model.modes poller.register.address) else none := by
  have member := register_mem conversing.polls
  obtain ⟨raw, content⟩ := plain.contents _ member
  have bytes := conversing.heard
  cases out : poller.progress.awaiting with
  | false =>
      unfold collect
      rw [out]
      rfl
  | true =>
      rw [out, if_pos rfl] at bytes
      rw [poller.answer_collect out, bytes, Meter.reply, Collected.ofBytes_answer, content]
      rcases plain.modes _ member with right | wrong | silent
      · rw [right]; rfl
      · rw [wrong]; rfl
      · rw [silent]; rfl

/-- A register that is asked and is not silent answers with a whole reply. -/
theorem Conversing.length_of_mode (conversing : poller.Conversing table model)
    (plain : model.Plain table) (out : poller.progress.awaiting = true)
    (loud : model.modes poller.register.address ≠ .silent) :
    poller.line.queue.length = Frame.replyLength := by
  have member := register_mem conversing.polls
  obtain ⟨raw, content⟩ := plain.contents _ member
  have bytes := conversing.heard
  rw [out, if_pos rfl, Meter.reply, content] at bytes
  refine (congrArg List.length bytes).trans ?_
  rcases plain.modes _ member with right | wrong | silent
  · rw [right]; rfl
  · rw [wrong]; rfl
  · exact absurd silent loud

/-- The tick of the collector takes all that arrived. -/
theorem Conversing.collect (conversing : poller.Conversing table model)
    (plain : model.Plain table) : poller.collect.2.Heard table model := by
  have legible := conversing.legible.collect
  have polls : poller.collect.2.table = table :=
    poller.steady_collect.table.trans conversing.polls
  have member := register_mem conversing.polls
  have mode := conversing.mode?_collect plain
  have whole := conversing.length_of_mode plain
  have effect := poller.collectEffect
  generalize poller.collect = result at effect mode legible polls ⊢
  cases effect with
  | idle calm =>
      exact { conversing with
        silent := fun out => absurd (calm.symm.trans out) Bool.false_ne_true }
  | waiting available log out =>
      rw [out, if_pos rfl] at mode
      exact { conversing with
        legible, like := conversing.like, silent := fun _ => (Option.some.inj mode).symm }
  | accepted reply raw log out =>
      rw [out, if_pos rfl] at mode
      have right := (Option.some.inj mode).symm
      refine conversing.settled (whole out (by rw [right]; decide)) legible polls rfl rfl rfl
        fun register among unlike => ?_
      have other : register.quantity ≠ poller.register.quantity := fun same => unlike (by
        rw [Table.eq_of_key (table.apart.imp And.right) among member same, right])
      change (poller.readings.set _ _).get _ = 0
      rw [Readings.get_set_of_ne _ _ other]
      exact conversing.unread register among unlike
  | rejected reply mismatch log out =>
      rw [out, if_pos rfl] at mode
      have wrong := (Option.some.inj mode).symm
      exact conversing.settled (whole out (by rw [wrong]; decide)) legible polls rfl rfl rfl
        conversing.unread

theorem Heard.looked_eq (heard : poller.Heard table model) :
    poller.looked = { poller with ticks := poller.ticks + 1 } := by
  rw [looked, heard.collect_eq]

/-- What a turn can do on a meter that can tell the frames apart, once the register is chosen. -/
inductive MeterTurn (choice : Choice) (chosen : Poller Meter) :
    Except Fault Tick × Poller Meter → Prop where
  | unlocked (log : List Event) (sent : List UInt8) :
      MeterTurn choice chosen (.ok .unlocked, { chosen.emptied log with
        line := { (Line.discardAll chosen.line).line with
          sent, unlocks := chosen.line.unlocks + 1 }
        sinceUnlock := 0
        resume := true
        progress.counters.unlocks := chosen.progress.counters.unlocks + 1 })
  | requested (log : List Event) (sent : List UInt8) :
      MeterTurn choice chosen
        (.ok (.requested chosen.register.address choice.retry choice.abandoned),
          { chosen.emptied log with
            line := (Meter.obey { (Line.discardAll chosen.line).line with sent }
              (.read chosen.register.address)).line
            sinceUnlock := chosen.sinceUnlock + 1
            resume := false
            progress.awaiting := true
            progress.counters.tx := chosen.progress.counters.tx + 1 })

/-- The unlock frame reaches the meter, which counts it. -/
theorem Legible.exists_unlock_eq (legible : poller.Legible)
    {result : Except Fault Unit × Poller Meter} (effect : poller.UnlockEffect result) :
    ∃ log sent, result = (.ok (), { poller with
      line := { poller.line with sent, unlocks := poller.line.unlocks + 1 }
      log
      sinceUnlock := 0
      progress.counters.unlocks := poller.progress.counters.unlocks + 1 }) := by
  have line := legible.line_unlock
  cases effect with
  | unsent fault log refused => cases refused.symm.trans (Meter.answer_send _ _)
  | sent log taken =>
      rw [line]
      exact ⟨log, _, rfl⟩

/-- A request reaches the meter, which notes and answers it. -/
theorem Legible.exists_request_eq (legible : poller.Legible) {choice : Choice}
    {result : Except Fault Tick × Poller Meter} (effect : RequestEffect choice poller result) :
    ∃ log sent, result =
      (.ok (.requested poller.register.address choice.retry choice.abandoned),
        { poller.emptied log with
          line := (Meter.obey { (Line.discardAll poller.line).line with sent }
            (.read poller.register.address)).line
          sinceUnlock := poller.sinceUnlock + 1
          progress.awaiting := true
          progress.counters.tx := poller.progress.counters.tx + 1 }) := by
  have line := legible.line_request
  cases effect with
  | unsent fault log refused => cases refused.symm.trans (Meter.answer_send _ _)
  | sent log taken =>
      rw [line]
      exact ⟨log, _, by rw [Meter.discardAll_eq]⟩

/-- A turn on a meter that can tell the frames apart is one of the two. -/
theorem Legible.turn {choice : Choice} {chosen : Poller Meter} (legible : chosen.Legible)
    {result : Except Fault Tick × Poller Meter} (effect : ActEffect choice chosen result) :
    MeterTurn choice chosen result := by
  have held (log : List Event) :
      ({ chosen.emptied log with resume := true } : Poller Meter).Legible :=
    legible.same rfl rfl rfl
  cases effect with
  | unlockFailed log fault onward due effect => cases ((held log).unlock effect).1
  | unlocked log onward due effect =>
      obtain ⟨log', sent, same⟩ := (held log).exists_unlock_eq effect
      cases same
      exact .unlocked log' sent
  | asked result undue effect =>
      have free : ({ chosen with resume := false } : Poller Meter).Legible :=
        legible.same rfl rfl rfl
      obtain ⟨log, sent, rfl⟩ := free.exists_request_eq effect
      exact .requested log sent

/-- What arrives in a turn is the answer to the request that goes out. -/
theorem Heard.bytes_slowTick (heard : poller.Heard table model) (plain : model.Plain table)
    (acts : poller.acts = true) :
    poller.slowTick.2.line.queue.bytes =
      if poller.slowTick.2.progress.awaiting then model.reply poller.slowTick.2.register
      else [] := by
  have polls := poller.table_readings_slowTick.1.trans heard.polls
  have calm := poller.looked.awaiting_choose
  have turn := heard.legible.looked.choose.turn poller.looked.actEffect
  have requested (address : UInt8) (retry : Bool) (abandoned : Option UInt8)
      (answer : poller.slowTick.1 = .ok (.requested address retry abandoned)) :=
    heard.legible.bytes_slowTick heard.like.toPrompt answer
  rw [slowTick_eq, if_pos acts] at polls requested ⊢
  generalize poller.looked.act = result at turn requested polls ⊢
  generalize poller.looked.choose = choice at turn calm
  cases turn with
  | unlocked log sent =>
      change _ = if choice.2.progress.awaiting then _ else _
      rw [calm, Meter.discardAll_eq]
      rfl
  | requested log sent =>
      obtain ⟨out, register, bytes⟩ := requested _ _ _ rfl
      have short := plain.length_reply_le (register_mem polls)
      have mode : poller.line.modeFor choice.2.register.address =
          model.modes choice.2.register.address := by
        rw [Meter.modeFor, heard.like.script, heard.like.modes]
        rfl
      rw [mode, heard.like.registers] at bytes
      rw [out, if_pos rfl, bytes]
      exact List.take_of_length_le (Nat.le_trans short heard.like.roomy)

/-- A tick of the scheduler throws nothing away, and what arrives in it is the answer to the request
that goes out. -/
theorem Heard.slowTick (heard : poller.Heard table model) (plain : model.Plain table) :
    poller.slowTick.2.Conversing table model := by
  obtain ⟨polls, readings⟩ := poller.table_readings_slowTick
  by_cases acts : poller.acts = true
  · have like : poller.looked.act.2.Booked fun meter _ => model.Like meter :=
      Booked.act Meter.books_like (by rw [heard.looked_eq]; exact heard.like)
    have tidy : poller.looked.act.2.progress.counters.discarded = 0 := by
      rw [discarded_act, heard.looked_eq]
      change poller.progress.counters.discarded + poller.line.queue.bytes.length = 0
      rw [heard.tidy, heard.bytes_eq_nil]
      rfl
    have acted : poller.slowTick = poller.looked.act := by rw [slowTick_eq, if_pos acts]
    rw [heard.collect_eq] at readings
    exact {
      legible := heard.legible.slowTick
      like := by rw [acted]; exact like
      polls := polls.trans heard.polls
      heard := heard.bytes_slowTick plain acts
      tidy := by rw [acted]; exact tidy
      unread := by rw [readings]; exact heard.unread }
  · rw [slowTick_eq, if_neg acts, heard.looked_eq]
    exact { heard.toConversing with
      legible := heard.legible.same rfl rfl rfl
      like := heard.like }

/-- The poller after polling has started on a meter that can tell the frames apart. -/
def started (poller : Poller Meter) (log : List Event) (sent : List UInt8) : Poller Meter :=
  let frames := if poller.options.unlock.onStartup then 1 else 0
  { poller.emptied log with
    line := { (Line.discardAll poller.line).line with
      sent, unlocks := poller.line.unlocks + frames }
    sinceUnlock := if poller.options.unlock.onStartup then 0 else poller.sinceUnlock
    progress.counters.unlocks := poller.progress.counters.unlocks + frames }

/-- Polling starts without a failure. -/
theorem Legible.exists_start_eq (legible : poller.Legible) :
    ∃ log sent, poller.start = (.ok (), poller.started log sent) := by
  have effect := poller.startEffect
  generalize poller.start = result at effect ⊢
  cases effect with
  | plain log unasked =>
      refine ⟨log, poller.line.sent, ?_⟩
      unfold started
      rw [unasked, Meter.discardAll_eq]
      simp only [Bool.false_eq_true, if_false, emptied, Meter.discardAll_eq]
      rfl
  | unlocking before after result asked effect =>
      have emptied : (poller.emptied before).Legible := legible.same rfl rfl rfl
      obtain ⟨log, sent, rfl⟩ := emptied.exists_unlock_eq effect
      refine ⟨after, sent, ?_⟩
      unfold started
      rw [asked]
      rfl

theorem Heard.started (heard : poller.Heard table model) (calm : poller.progress.awaiting = false)
    (log : List Event) (sent : List UInt8) : (poller.started log sent).Heard table model where
  legible := heard.legible.same rfl rfl rfl
  like := { heard.like with roomy := heard.like.roomy }
  polls := heard.polls
  heard := by
    change _ = if poller.progress.awaiting then _ else _
    rw [calm]
    change (Line.discardAll poller.line).line.queue.bytes = []
    rw [Meter.discardAll_eq]
    rfl
  tidy := by
    change poller.progress.counters.discarded + poller.line.queue.bytes.length = 0
    rw [heard.tidy, heard.bytes_eq_nil]
    rfl
  unread := heard.unread
  silent := heard.silent

/-- If no register is silent, the number of requests says which register was asked by each of them
and what came back. -/
structure InStep (model : Meter) (poller : Poller Meter) : Prop where
  requests : poller.line.requests.reverse =
    (List.range poller.progress.counters.tx).map fun number => (poller.table.get number).address
  place : (if poller.resume then poller.progress.index
    else poller.table.next poller.progress.index) =
      poller.progress.counters.tx % poller.table.length
  misses : poller.progress.counters.misses = 0
  abandoned : poller.progress.counters.abandoned = 0
  tally : poller.progress.counters.good + poller.progress.counters.bad +
    poller.progress.awaiting.toNat = poller.progress.counters.tx
  wrong : poller.progress.counters.bad +
    (if poller.progress.awaiting ∧ model.modes poller.register.address = .corrupt then 1 else 0) =
      poller.line.requests.countP fun address => model.modes address = .corrupt

theorem InStep.looked (inStep : poller.InStep model) (heard : poller.Heard table model) :
    poller.looked.InStep model := by
  rw [heard.looked_eq]
  exact { inStep with }

/-- In step, the register chosen is the one that the number of requests says, and no miss is
counted. -/
theorem InStep.choose_eq (inStep : poller.InStep model) (calm : poller.progress.awaiting = false) :
    ∃ consecutive, poller.choose.2 = { poller with
      progress.index := poller.progress.counters.tx % poller.table.length
      progress.consecutive := consecutive } := by
  have place := inStep.place
  have effect := poller.chooseEffect
  generalize poller.choose = result at effect ⊢
  cases effect with
  | gaveUp log out => exact absurd (calm.symm.trans out) Bool.false_ne_true
  | retrying log out => exact absurd (calm.symm.trans out) Bool.false_ne_true
  | resumed calm held =>
      rw [held, if_pos rfl] at place
      exact ⟨poller.progress.consecutive, by rw [← place]⟩
  | advanced calm free =>
      rw [free, if_neg Bool.false_ne_true] at place
      exact ⟨0, by rw [← place]; rfl⟩

/-- What is settled is counted, so that a turn only adds the request that goes out. -/
theorem InStep.act (inStep : poller.InStep model) (legible : poller.Legible)
    (calm : poller.progress.awaiting = false) : poller.act.2.InStep model := by
  obtain ⟨consecutive, chosen⟩ := inStep.choose_eq calm
  have requests := inStep.requests
  have tally := inStep.tally
  have wrong := inStep.wrong
  rw [calm, Bool.toNat_false, Nat.add_zero] at tally
  simp only [calm, Bool.false_eq_true, false_and, if_false, Nat.add_zero] at wrong
  have turn := legible.choose.turn poller.actEffect
  rw [chosen] at turn
  generalize poller.choose.1 = choice at turn
  generalize poller.act = result at turn ⊢
  cases turn with
  | unlocked log sent =>
      have kept : (Line.discardAll poller.line).line.requests = poller.line.requests := by
        rw [Meter.discardAll_eq]
      exact {
        requests := (congrArg List.reverse kept).trans requests
        place := if_pos rfl
        misses := inStep.misses
        abandoned := inStep.abandoned
        tally := by
          change poller.progress.counters.good + poller.progress.counters.bad +
            poller.progress.awaiting.toNat = poller.progress.counters.tx
          rw [calm]
          exact tally
        wrong := by
          change poller.progress.counters.bad +
            (if poller.progress.awaiting ∧ _ then 1 else 0) =
              (Line.discardAll poller.line).line.requests.countP _
          simp only [calm, Bool.false_eq_true, false_and, if_false, Nat.add_zero, kept]
          exact wrong }
  | requested log sent =>
      let tx := poller.progress.counters.tx
      let register := poller.table.get (tx % poller.table.length)
      have asked : register = poller.table.get tx := poller.table.get_mod tx
      have added : (Meter.obey { (Line.discardAll poller.line).line with sent }
          (.read register.address)).line.requests = register.address :: poller.line.requests := by
        rw [Meter.line_obey_read, Meter.discardAll_eq]
      exact {
        requests := by
          calc (Meter.obey _ (.read register.address)).line.requests.reverse
            _ = poller.line.requests.reverse ++ [(poller.table.get tx).address] := by
              rw [added, List.reverse_cons, asked]
            _ = _ := by
              rw [requests]
              change _ = (List.range (tx + 1)).map fun number => (poller.table.get number).address
              rw [List.range_succ, List.map_append, List.map_singleton]
        place := Nat.mod_add_mod ..
        misses := inStep.misses
        abandoned := inStep.abandoned
        tally := congrArg (· + 1) tally
        wrong := by
          change poller.progress.counters.bad +
            (if true = true ∧ model.modes register.address = .corrupt then 1 else 0) =
              (Meter.obey _ (.read register.address)).line.requests.countP _
          rw [added, List.countP_cons, ← wrong]
          simp only [true_and, decide_eq_true_eq] }

/-- A look for a reply keeps the poller in step and settles the request that is out. -/
theorem InStep.collect (inStep : poller.InStep model) (conversing : poller.Conversing table model)
    (plain : model.Plain table)
    (loud : ∀ register ∈ table.entries, model.modes register.address ≠ .silent) :
    poller.collect.2.InStep model := by
  have mode := conversing.mode?_collect plain
  have hears := loud _ (register_mem conversing.polls)
  have tally := inStep.tally
  have wrong := inStep.wrong
  have effect := poller.collectEffect
  generalize poller.collect = result at effect mode ⊢
  cases effect with
  | idle => exact inStep
  | waiting available log out =>
      rw [out, if_pos rfl] at mode
      exact absurd (Option.some.inj mode).symm hears
  | accepted reply raw log out =>
      rw [out, if_pos rfl] at mode
      have right := Option.some.inj mode
      rw [out, Bool.toNat_true] at tally
      simp only [out, ← right, reduceCtorEq, and_false, if_false] at wrong
      exact { inStep with
        tally := by
          change poller.progress.counters.good + 1 + poller.progress.counters.bad + 0 =
            poller.progress.counters.tx
          omega
        wrong }
  | rejected reply mismatch log out =>
      rw [out, if_pos rfl] at mode
      have corrupt := Option.some.inj mode
      rw [out] at tally
      simp only [out, ← corrupt, true_and, if_true] at wrong
      exact { inStep with
        tally
        wrong }

/-- If no register is silent, no request is out once everything was heard. -/
theorem Heard.calm (heard : poller.Heard table model)
    (loud : ∀ register ∈ table.entries, model.modes register.address ≠ .silent) :
    poller.progress.awaiting = false :=
  eq_false_of_ne_true fun out => loud _ (register_mem heard.polls) (heard.silent out)

/-- Every request is settled in its round. -/
theorem InStep.round (inStep : poller.InStep model) (heard : poller.Heard table model)
    (plain : model.Plain table)
    (loud : ∀ register ∈ table.entries, model.modes register.address ≠ .silent) :
    poller.round.InStep model := by
  have looked : poller.slowTick.2.InStep model := by
    have calm : poller.looked.progress.awaiting = false := by
      rw [heard.looked_eq]
      exact heard.calm loud
    rw [slowTick_eq]
    split_ifs
    · exact (inStep.looked heard).act heard.legible.looked calm
    · exact inStep.looked heard
  exact looked.collect (heard.slowTick plain) plain loud

/-- A tick of the scheduler and then one of the collector hear everything that arrives. -/
theorem Heard.round (heard : poller.Heard table model) (plain : model.Plain table) :
    poller.round.Heard table model :=
  (heard.slowTick plain).collect plain

/-- No tick fails. -/
theorem Legible.exists_ok_slowTick (legible : poller.Legible) :
    ∃ tick, poller.slowTick.1 = .ok tick := by
  have turn := legible.looked.choose.turn poller.looked.actEffect
  rw [slowTick_eq]
  split_ifs
  · generalize poller.looked.act = result at turn ⊢
    cases turn <;> exact ⟨_, rfl⟩
  · exact ⟨_, rfl⟩

/-- Any number of rounds comes to an end without a fault. -/
theorem Heard.rounds {interval before : Nat} (heard : poller.Heard table model)
    (plain : model.Plain table) (positive : 0 < poller.options.requestEvery)
    (cadence : poller.Cadence interval before
      (turnsAmong poller.options.requestEvery poller.ticks)) (count : Nat) :
    ∃ after, poller.rounds count = .ok after ∧ after.Heard table model ∧
      after.Cadence interval before
        (turnsAmong poller.options.requestEvery (poller.ticks + count)) ∧
      ((∀ register ∈ table.entries, model.modes register.address ≠ .silent) →
        poller.InStep model → after.InStep model) := by
  induction count generalizing poller with
  | zero => exact ⟨poller, rfl, heard, cadence, fun _ inStep => inStep⟩
  | succ count ih =>
      obtain ⟨tick, done⟩ := heard.legible.exists_ok_slowTick
      obtain ⟨ticks, options⟩ := poller.ticks_options_round
      have ticked := cadence.slowTick_of_ticks positive done
      have paced : poller.round.Cadence interval before
          (turnsAmong poller.round.options.requestEvery poller.round.ticks) := by
        have steady := poller.slowTick.2.steady_collect
        unfold Poller.round fastTick
        rw [steady.options, steady.ticks]
        exact ticked.collect
      obtain ⟨after, ended, heardAfter, cadenceAfter, inStepAfter⟩ :=
        ih (heard.round plain) (by rw [options]; exact positive) paced
      rw [options, ticks, Nat.add_assoc, Nat.add_comm 1] at cadenceAfter
      refine ⟨after, (rounds_succ done count).trans ended, heardAfter, cadenceAfter, ?_⟩
      intro loud inStep
      exact inStepAfter loud (inStep.round heard plain loud)

/-! ### The start -/

/-- A new poller on a meter that was sent nothing has heard everything. -/
theorem heard_new {options : Options} (between : model.inbox = []) (prompt : model.Prompt)
    (unscripted : model.script = []) (empty : model.queue.bytes = [])
    (unlocks : options.unlock.register = Frame.unlockRegister)
    (reads : Frame.unlockRegister ∉ table.addresses) :
    (new model table options).Heard table model where
  legible := ⟨between, unlocks, reads⟩
  like := { prompt with registers := rfl, modes := rfl, script := unscripted }
  polls := rfl
  heard := empty
  tidy := rfl
  unread register _ _ := by cases register.quantity <;> rfl
  silent := nofun

/-- A new poller is in step. -/
theorem inStep_new {options : Options} (unasked : model.requests = []) :
    (new model table options).InStep model where
  requests := by
    change model.requests.reverse = _
    rw [unasked]
    rfl
  place := by
    have last : table.length - 1 + 1 = table.length := Nat.sub_add_cancel table.length_pos
    change (table.length - 1 + 1) % table.length = 0 % table.length
    rw [last, Nat.mod_self, Nat.zero_mod]
  misses := rfl
  abandoned := rfl
  tally := rfl
  wrong := by
    change 0 + 0 = model.requests.countP _
    rw [unasked]
    rfl

theorem InStep.started (inStep : poller.InStep model) (log : List Event) (sent : List UInt8) :
    (poller.started log sent).InStep model := by
  have kept : (poller.started log sent).line.requests = poller.line.requests := by
    change (Line.discardAll poller.line).line.requests = _
    rw [Meter.discardAll_eq]
  exact { inStep with
    requests := (congrArg List.reverse kept).trans inStep.requests
    wrong := by rw [kept]; exact inStep.wrong }

end Poller

end MeterPoll
