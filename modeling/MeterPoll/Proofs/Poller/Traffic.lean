import MeterPoll.Proofs.Poller.Legible

/-!
# The traffic between a poller and a meter

A poller on a meter sends requests and unlock frames in any order, and the meter searches the bytes
for frames. As long as unlock frames are for the register by which the meter knows them, and no
request is (`Poller.Legible`), the two never lose one another: after every operation the meter is
between two frames, and what it has taken in is what the operations of the poller said that they
sent (`Poller.traffic_run`).
-/

namespace MeterPoll

namespace Command

/-- The bytes of a command, if unlock frames carry this key. -/
def bytes (key : UInt8) : Command → List UInt8
  | read register => [Frame.head, register]
  | unlock => Frame.unlock Frame.unlockRegister key

/-- What a meter is told by a tick of the scheduler with this outcome. -/
def ofTick : Except Fault Tick → List Command
  | .ok (.requested register _ _) => [read register]
  | .ok .unlocked => [unlock]
  | .ok .skipped | .error _ => []

/-- What a meter is told by the start of polling with this outcome. -/
def ofStart (policy : UnlockPolicy) : Except Fault Unit → List Command
  | .ok () => if policy.onStartup then [unlock] else []
  | .error _ => []

end Command

namespace Meter

/-- A meter that has taken in these commands, the first of the list first, and nothing else. -/
structure Told (key : UInt8) (commands : List Command) (meter : Meter) : Prop where
  between : meter.inbox = []
  sent : meter.sent.reverse = commands.flatMap (·.bytes key)
  requests : meter.requests.reverse = commands.filterMap (·.register?)
  unlocks : meter.unlocks = commands.count .unlock

/-- A meter to which nothing was sent. -/
structure Fresh (meter : Meter) : Prop where
  between : meter.inbox = []
  sent : meter.sent = []
  requests : meter.requests = []
  unlocks : meter.unlocks = 0

variable {key : UInt8} {commands : List Command} {meter after : Meter}

/-- A meter to which nothing was sent was told nothing. -/
theorem Fresh.told (fresh : meter.Fresh) : meter.Told key [] where
  between := fresh.between
  sent := congrArg List.reverse fresh.sent
  requests := congrArg List.reverse fresh.requests
  unlocks := fresh.unlocks

namespace Told

/-- What a meter was told depends on what it was sent and took in alone. -/
theorem same (told : meter.Told key commands) (between : after.inbox = meter.inbox)
    (sent : after.sent = meter.sent) (requests : after.requests = meter.requests)
    (unlocks : after.unlocks = meter.unlocks) : after.Told key commands where
  between := between.trans told.between
  sent := by rw [sent, told.sent]
  requests := by rw [requests, told.requests]
  unlocks := unlocks.trans told.unlocks

/-- A meter takes in one more command by its frame. -/
theorem send (told : meter.Told key commands) (command : Command)
    (spells : command.Spells (command.bytes key)) :
    (Line.send meter (command.bytes key)).line.Told key (commands ++ [command]) := by
  have sent : ((command.bytes key).reverse ++ meter.sent).reverse =
      (commands ++ [command]).flatMap (·.bytes key) := by
    rw [List.reverse_append, List.reverse_reverse, told.sent, List.flatMap_append,
      List.flatMap_singleton]
  rw [line_send spells told.between]
  cases command with
  | unlock =>
      refine ⟨told.between, sent, ?_, ?_⟩
      · rw [List.filterMap_append]
        exact told.requests.trans (List.append_nil _).symm
      · rw [List.count_append, ← told.unlocks]
        rfl
  | read register =>
      rw [line_obey_read]
      refine ⟨told.between, sent, ?_, ?_⟩
      · rw [List.filterMap_append, ← told.requests]
        exact List.reverse_cons
      · rw [List.count_append, ← told.unlocks]
        rfl

theorem apply (told : meter.Told key commands) (handling : Handling) :
    (handling.apply meter).line.Told key commands := by
  cases handling <;> exact told.same rfl rfl rfl rfl

end Told

end Meter

namespace Poller

variable {poller : Poller Meter}

/-- The poller and the meter agree on what was sent: the meter was told these commands, and the
counters say how many of them were requests and unlock frames. -/
structure Agrees (policy : UnlockPolicy) (commands : List Command) (poller : Poller Meter) :
    Prop where
  told : poller.line.Told policy.key commands
  settings : poller.options.unlock = policy
  unlocks : policy.register = Frame.unlockRegister
  reads : Frame.unlockRegister ∉ poller.table.addresses
  asked : poller.progress.counters.tx = (commands.filterMap (·.register?)).length
  unlocked : poller.progress.counters.unlocks = commands.count .unlock

namespace Agrees

variable {policy : UnlockPolicy} {commands : List Command} {after : Poller Meter}

/-- A meter that was told commands only can tell the frames apart. -/
theorem legible (agrees : poller.Agrees policy commands) : poller.Legible where
  between := agrees.told.between
  unlocks := by rw [agrees.settings, agrees.unlocks]
  reads := agrees.reads

theorem same (agrees : poller.Agrees policy commands)
    (told : after.line.Told policy.key commands) (settings : after.options = poller.options)
    (addresses : after.table.addresses = poller.table.addresses)
    (asked : after.progress.counters.tx = poller.progress.counters.tx)
    (unlocked : after.progress.counters.unlocks = poller.progress.counters.unlocks) :
    after.Agrees policy commands where
  told := told
  settings := by rw [settings, agrees.settings]
  unlocks := agrees.unlocks
  reads := by rw [addresses]; exact agrees.reads
  asked := asked.trans agrees.asked
  unlocked := unlocked.trans agrees.unlocked

theorem collect (agrees : poller.Agrees policy commands) :
    poller.collect.2.Agrees policy commands := by
  have effect := poller.collectEffect
  generalize poller.collect = result at effect ⊢
  cases effect with
  | idle => exact agrees
  | waiting => exact agrees.same agrees.told rfl rfl rfl rfl
  | accepted => exact agrees.same (agrees.told.same rfl rfl rfl rfl) rfl rfl rfl rfl
  | rejected => exact agrees.same (agrees.told.same rfl rfl rfl rfl) rfl rfl rfl rfl

theorem emptied (agrees : poller.Agrees policy commands) (log : List Event) :
    (poller.emptied log).Agrees policy commands :=
  agrees.same (agrees.told.same rfl rfl rfl rfl) rfl rfl rfl rfl

theorem choose (agrees : poller.Agrees policy commands) :
    poller.choose.2.Agrees policy commands := by
  have emptied := agrees.emptied
  have effect := poller.chooseEffect
  generalize poller.choose = result at effect ⊢
  cases effect with
  | gaveUp log => exact (emptied log).same (emptied log).told rfl rfl rfl rfl
  | retrying log => exact (emptied log).same (emptied log).told rfl rfl rfl rfl
  | resumed => exact agrees
  | advanced => exact agrees.same agrees.told rfl rfl rfl rfl

/-- The unlock frame tells the meter to unlock. -/
theorem unlock (agrees : poller.Agrees policy commands)
    {result : Except Fault Unit × Poller Meter} (effect : poller.UnlockEffect result) :
    result.1 = .ok () ∧ result.2.Agrees policy (commands ++ [.unlock]) := by
  obtain rfl := agrees.settings
  cases effect with
  | unsent fault log refused =>
      rw [Meter.answer_send] at refused
      cases refused
  | sent log =>
      have told := agrees.told.send .unlock (Command.spells_unlock poller.options.unlock.key)
      rw [Command.bytes, ← agrees.unlocks] at told
      refine ⟨rfl, ?_, rfl, agrees.unlocks, agrees.reads, ?_, ?_⟩
      · dsimp only
        exact told
      · rw [List.filterMap_append, List.length_append, ← agrees.asked]
        rfl
      · rw [List.count_append, ← agrees.unlocked]
        rfl

/-- A request tells the meter to read its register. -/
theorem request (agrees : poller.Agrees policy commands) {choice : Choice}
    {result : Except Fault Tick × Poller Meter} (effect : RequestEffect choice poller result) :
    result.2.Agrees policy (commands ++ Command.ofTick result.1) := by
  cases effect with
  | unsent fault log refused =>
      rw [Meter.answer_send] at refused
      cases refused
  | sent log =>
      have emptied := agrees.emptied log
      obtain ⟨frame, spells⟩ := agrees.legible.request_eq
      rw [frame] at spells
      have told := emptied.told.send (.read poller.register.address) spells
      rw [Command.bytes, ← frame] at told
      refine ⟨told, agrees.settings, agrees.unlocks, agrees.reads, ?_, ?_⟩
      · rw [List.filterMap_append, List.length_append, ← agrees.asked]
        rfl
      · rw [List.count_append, ← agrees.unlocked]
        rfl

/-- A turn tells the meter what its outcome says. -/
theorem act (agrees : poller.Agrees policy commands) :
    poller.act.2.Agrees policy (commands ++ Command.ofTick poller.act.1) := by
  have chosen := agrees.choose
  have effect := poller.actEffect
  generalize poller.act = result at effect ⊢
  generalize poller.choose = choice at effect chosen
  have held (log : List Event) :
      ({ choice.2.emptied log with resume := true } : Poller Meter).Agrees policy commands :=
    (chosen.emptied log).same (chosen.emptied log).told rfl rfl rfl rfl
  cases effect with
  | unlocked log onward due effect => exact ((held log).unlock effect).2
  | unlockFailed log fault onward due effect =>
      have sent := ((held log).unlock effect).1
      cases sent
  | asked result undue effect =>
      have free : ({ choice.2 with resume := false } : Poller Meter).Agrees policy commands :=
        chosen.same chosen.told rfl rfl rfl rfl
      exact free.request effect

theorem looked (agrees : poller.Agrees policy commands) :
    poller.looked.Agrees policy commands :=
  agrees.collect.same agrees.collect.told rfl rfl rfl rfl

/-- A tick tells the meter what its outcome says. -/
theorem slowTick (agrees : poller.Agrees policy commands) :
    poller.slowTick.2.Agrees policy (commands ++ Command.ofTick poller.slowTick.1) := by
  rw [slowTick_eq]
  split_ifs
  · exact agrees.looked.act
  · rw [Command.ofTick, List.append_nil]
    exact agrees.looked

/-- The start of polling tells it to unlock if the policy says so. -/
theorem start (agrees : poller.Agrees policy commands) :
    poller.start.2.Agrees policy (commands ++ Command.ofStart policy poller.start.1) := by
  have effect := poller.startEffect
  generalize poller.start = result at effect ⊢
  obtain rfl := agrees.settings
  cases effect with
  | plain log unasked =>
      rw [Command.ofStart, unasked, if_neg Bool.false_ne_true, List.append_nil]
      exact agrees.emptied log
  | unlocking before after result asked effect =>
      obtain ⟨sent, unlocked⟩ := (agrees.emptied before).unlock effect
      rw [sent, Command.ofStart, asked, if_pos rfl]
      exact unlocked.same unlocked.told rfl rfl rfl rfl

theorem calibrate (agrees : poller.Agrees policy commands)
    {result : Except Fault Unit × Poller Meter} (effect : poller.CalibrationEffect result) :
    result.2.Agrees policy commands := by
  cases effect with
  | calibrated table log addresses => exact agrees.same agrees.told rfl addresses rfl rfl
  | refused => exact agrees

end Agrees

/-- What a meter is told by a move, according to what the operation of the poller returns. -/
def tells (poller : Poller Meter) : Move Handling → List Command
  | .start => Command.ofStart poller.options.unlock poller.start.1
  | .slowTick => Command.ofTick poller.slowTick.1
  | .fastTick | .setScale .. | .setConversion .. | .line _ => []

/-- What a meter is told by several moves, the first of the list first. -/
def tellsAll (poller : Poller Meter) : List (Move Handling) → List Command
  | [] => []
  | move :: rest => poller.tells move ++ (poller.perform Handling.apply move).tellsAll rest

namespace Agrees

variable {policy : UnlockPolicy} {commands : List Command}

/-- A move tells the meter what the operation returns. -/
theorem perform (agrees : poller.Agrees policy commands) (move : Move Handling) :
    (poller.perform Handling.apply move).Agrees policy (commands ++ poller.tells move) := by
  cases move with
  | start =>
      rw [tells, agrees.settings]
      exact agrees.start
  | slowTick => exact agrees.slowTick
  | fastTick =>
      rw [tells, List.append_nil]
      exact agrees.collect
  | setScale quantity scale =>
      rw [tells, List.append_nil]
      exact agrees.calibrate (poller.setScale_effect quantity scale)
  | setConversion quantity conversion =>
      rw [tells, List.append_nil]
      exact agrees.calibrate (poller.setConversion_effect quantity conversion)
  | line handling =>
      rw [tells, List.append_nil]
      exact agrees.same (agrees.told.apply handling) rfl rfl rfl rfl

/-- The poller and the meter go on agreeing on every run. -/
theorem run (agrees : poller.Agrees policy commands) (moves : List (Move Handling)) :
    (poller.run Handling.apply moves).Agrees policy (commands ++ poller.tellsAll moves) := by
  induction moves generalizing poller commands with
  | nil =>
      rw [tellsAll, List.append_nil]
      exact agrees
  | cons move rest ih =>
      rw [tellsAll, ← List.append_assoc]
      exact ih (agrees.perform move)

end Agrees

/-- **The poller and the meter agree on the traffic.** On every run from the start on a fresh meter,
what the meter has taken in is what the operations of the poller said that they sent. -/
theorem traffic_run {meter : Meter} (fresh : meter.Fresh) {table : Table}
    (reads : Frame.unlockRegister ∉ table.addresses) {options : Options}
    (unlocks : options.unlock.register = Frame.unlockRegister) (moves : List (Move Handling)) :
    let poller := (new meter table options).run Handling.apply moves
    let commands := (new meter table options).tellsAll moves
    poller.line.Told options.unlock.key commands ∧
      poller.line.requests.length = poller.progress.counters.tx ∧
      poller.line.unlocks = poller.progress.counters.unlocks := by
  intro poller commands
  have begun : (new meter table options).Agrees options.unlock [] :=
    ⟨fresh.told, rfl, unlocks, reads, rfl, rfl⟩
  have agrees : poller.Agrees options.unlock commands := begun.run moves
  refine ⟨agrees.told, ?_, ?_⟩
  · rw [agrees.asked, ← agrees.told.requests, List.length_reverse]
  · rw [agrees.told.unlocks, agrees.unlocked]

/-- A key that looks like the head of a frame does no harm, and neither do a silent meter and bytes
that nobody asked for. -/
theorem traffic_run_head_as_key :
    let options : Options := ⟨2, 1, 0, ⟨true, 1, 0x52, 0x6A⟩⟩
    let moves : List (Move Handling) :=
      [.start, .slowTick, .line (.setMode 0x06 .silent), .slowTick, .line (.inject [0x6A]),
        .slowTick, .fastTick, .slowTick]
    let commands : List Command := [.unlock, .read 0x08, .unlock, .read 0x06, .unlock]
    Meter.reference.Fresh ∧ Frame.unlockRegister ∉ Table.reference.addresses ∧
      options.unlock.register = Frame.unlockRegister ∧
      (new Meter.reference .reference options).tellsAll moves = commands ∧
      let poller := (new Meter.reference .reference options).run Handling.apply moves
      poller.line.Told options.unlock.key commands ∧
        poller.line.requests.length = poller.progress.counters.tx ∧
        poller.line.unlocks = poller.progress.counters.unlocks := by
  intro options moves commands
  have fresh : Meter.reference.Fresh := ⟨rfl, rfl, rfl, rfl⟩
  have reads : Frame.unlockRegister ∉ Table.reference.addresses := by decide
  have told : (new Meter.reference .reference options).tellsAll moves = commands := by
    decide +kernel
  refine ⟨fresh, reads, rfl, told, ?_⟩
  rw [← told]
  exact traffic_run fresh reads rfl moves

end Poller

end MeterPoll
