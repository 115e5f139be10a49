import MeterPoll.Proofs.Line.Reporting
import MeterPoll.Proofs.Poller.Run

/-!
# The log and the counters

Everything a poller counts can be counted in its log as well, and its latest fault is the one of
the latest warning that names a fault. One equation carries this: the counters are what the events
of the log make of zero (`Counters.ofLog`), and so are the latest fault and the losses of a line
that reports them. What the log says is read from the fields and messages of its events. Every
operation keeps it (`Poller.Told.perform`), and the numbers of each kind of event are read off it
(`Counters.counts_ofLog`).
-/

namespace MeterPoll

namespace Event

/-- The fault that an event is the warning of. -/
def fault? : Event → Option Fault
  | rejected register _ mismatch => some (.checksum register mismatch)
  | abandoned register attempts _ => some (.noReply register attempts)
  | _ => none

/-- Whether an event is a warning of a poller, and not one of its line. -/
def warns (event : Event) : Bool :=
  event.level = .warn ∧ event.kind ≠ .overrun

/-- The events that name a fault. -/
theorem isSome_fault?_iff (event : Event) :
    event.fault?.isSome ↔ event.kind = .rejected ∨ event.kind = .abandoned := by
  cases event <;> simp [fault?, kind]

/-- An event that names a fault is a warning, with the text of the fault. -/
theorem message_of_fault? {event : Event} {fault : Fault} (names : event.fault? = some fault) :
    event.warns = true ∧ event.message =
      "HT7017: " ++ fault.message ++ (if event.kind = .abandoned then ", skipping" else "") := by
  cases event with
  | rejected register reply mismatch =>
      cases names
      exact ⟨rfl, (String.append_empty).symm⟩
  | abandoned register attempts stale =>
      cases names
      exact ⟨rfl, rfl⟩
  | _ => cases names

/-- A miss that is not the last is a warning too, and names no register. -/
theorem message_of_retrying {event : Event} (retrying : event.kind = .retrying) :
    event.warns = true ∧ event.message = "HT7017: no response, retrying" := by
  cases event with
  | retrying => exact ⟨rfl, rfl⟩
  | _ => cases retrying

/-- The kinds of event that tell of something that went as it should. -/
def Kind.Routine (kind : Kind) : Prop :=
  kind = .request ∨ kind = .accepted ∨ kind = .unlock

/-- What goes as it should is logged for debugging. -/
theorem level_of_routine {event : Event} (routine : event.kind.Routine) :
    event.level = .debug := by
  cases event <;> simp [Kind.Routine, kind, level] at routine ⊢

/-- How many events of a log are of a kind. -/
def Kind.count (kind : Kind) (log : List Event) : Nat :=
  log.countP (·.kind = kind)

/-- One more event counts for its kind only. -/
theorem Kind.count_cons (kind : Kind) (event : Event) (log : List Event) :
    kind.count (event :: log) = kind.count log + if event.kind = kind then 1 else 0 := by
  simp only [count, List.countP_cons, decide_eq_true_eq]

/-- What a line logs says nothing about the poller. -/
theorem fault?_of_overrun {event : Event} (overrun : event.kind = .overrun) :
    event.fault? = none := by
  cases event with
  | overrun => rfl
  | _ => cases overrun

end Event

namespace Counters

/-- The counters after an event. -/
def after (counters : Counters) : Event → Counters
  | .requestSent .. => { counters with tx := counters.tx + 1 }
  | .accepted .. => { counters with good := counters.good + 1 }
  | .rejected .. => { counters with bad := counters.bad + 1 }
  | .retrying _ _ stale =>
    { counters with misses := counters.misses + 1, discarded := counters.discarded + stale }
  | .abandoned _ _ stale =>
    { counters with
      misses := counters.misses + 1
      abandoned := counters.abandoned + 1
      discarded := counters.discarded + stale }
  | .startupDiscarded bytes | .partialDiscarded bytes | .unsolicitedDiscarded bytes =>
    { counters with discarded := counters.discarded + bytes }
  | .unlockSent => { counters with unlocks := counters.unlocks + 1 }
  | .overrun .. | .ready .. | .scaleSet .. | .conversionSet .. => counters

/-- What a line logs counts for nothing. -/
theorem after_of_overrun (counters : Counters) {event : Event} (overrun : event.kind = .overrun) :
    counters.after event = counters := by
  cases event with
  | overrun => rfl
  | _ => cases overrun

/-- The counters that a log makes of zero. The latest event stands first. -/
def ofLog : List Event → Counters
  | [] => zero
  | event :: earlier => (ofLog earlier).after event

/-- What a line logs in the meantime counts for nothing. -/
theorem ofLog_append {events : List Event} (overruns : ∀ event ∈ events, event.kind = .overrun)
    (log : List Event) : ofLog (events ++ log) = ofLog log := by
  induction events with
  | nil => rfl
  | cons event rest ih =>
      have others := ih fun other member => overruns other (List.mem_cons_of_mem event member)
      have first := overruns event List.mem_cons_self
      exact ((ofLog (rest ++ log)).after_of_overrun first).trans others

/-- The counters are the numbers of events of each kind and the bytes that these name. -/
structure Counts (counters : Counters) (log : List Event) : Prop where
  tx : counters.tx = Event.Kind.request.count log
  good : counters.good = Event.Kind.accepted.count log
  bad : counters.bad = Event.Kind.rejected.count log
  misses : counters.misses = Event.Kind.retrying.count log + Event.Kind.abandoned.count log
  abandoned : counters.abandoned = Event.Kind.abandoned.count log
  discarded : counters.discarded = (log.map Event.thrown).sum
  unlocks : counters.unlocks = Event.Kind.unlock.count log
  warnings : log.countP Event.warns = counters.bad + counters.misses

/-- One more event keeps the counters and the numbers of events together. -/
theorem Counts.after {counters : Counters} {log : List Event} (counts : counters.Counts log)
    (event : Event) : (counters.after event).Counts (event :: log) := by
  obtain ⟨tx, good, bad, misses, abandoned, discarded, unlocks, warnings⟩ := counts
  cases event <;>
    constructor <;>
    simp [Event.Kind.count_cons, Event.kind, Event.level, Event.thrown_eq, Event.warns,
      Counters.after, *] <;>
    omega

/-- The counters that a log makes count its events. -/
theorem counts_ofLog (log : List Event) : (ofLog log).Counts log := by
  induction log with
  | nil => exact ⟨rfl, rfl, rfl, rfl, rfl, rfl, rfl, rfl⟩
  | cons event earlier ih => exact ih.after event

end Counters

namespace Poller

variable {σ ε : Type} {lost : σ → Nat} {base : Nat} {poller onward : Poller σ}

/-- The log tells what the counters, the latest fault and the losses of the line say. The line had
lost `base` bytes before. -/
structure Told (lost : σ → Nat) (base : Nat) (poller : Poller σ) : Prop where
  counters : poller.progress.counters = .ofLog poller.log
  lastFault : poller.lastFault = poller.log.findSome? Event.fault?
  lost : lost poller.line = base + (poller.log.map Event.dropped).sum

/-- A poller that notes an event and counts what the event says. -/
theorem Told.note (told : poller.Told lost base) (event : Event)
    (line : lost onward.line = lost poller.line) (log : onward.log = event :: poller.log)
    (counters : onward.progress.counters = poller.progress.counters.after event)
    (lastFault : onward.lastFault = event.fault?.or poller.lastFault)
    (kept : event.dropped = 0) : onward.Told lost base where
  counters := by rw [counters, log, told.counters]; rfl
  lastFault := by
    rw [lastFault, log, told.lastFault, List.findSome?_cons]
    cases event.fault? <;> rfl
  lost := by rw [line, log, told.lost, List.map_cons, List.sum_cons, kept, Nat.zero_add]

/-- A new poller has an empty log and counts nothing. -/
theorem Told.new (lost : σ → Nat) (line : σ) (table : Table) (options : Options) :
    (Poller.new line table options).Told lost (lost line) :=
  ⟨rfl, rfl, rfl⟩

/-- What the line reports of its losses is all that a poller logs for it. -/
theorem Told.goOn {α : Type} (told : poller.Told lost base) {served : Served σ α}
    (reports : served.Reports lost poller.line) : (poller.goOn served).Told lost base := by
  have overruns : ∀ event ∈ served.events.reverse, event.kind = .overrun :=
    fun event member => reports.kind event (List.mem_reverse.mp member)
  have silent : served.events.reverse.findSome? Event.fault? = none :=
    List.findSome?_eq_none_iff.mpr fun event member =>
      Event.fault?_of_overrun (overruns event member)
  refine ⟨told.counters.trans (Counters.ofLog_append overruns poller.log).symm, ?_, ?_⟩
  · change poller.lastFault = (served.events.reverse ++ poller.log).findSome? Event.fault?
    rw [List.findSome?_append, silent, Option.none_or, told.lastFault]
  · change lost served.line = base + ((served.events.reverse ++ poller.log).map Event.dropped).sum
    rw [reports.lost, told.lost, List.map_append, List.sum_append, List.map_reverse,
      List.sum_reverse, Nat.add_assoc, Nat.add_comm (List.sum _)]

theorem Told.hold (told : poller.Told lost base) (resume : Bool) :
    ({ poller with resume } : Poller σ).Told lost base :=
  ⟨told.counters, told.lastFault, told.lost⟩

/-- A calibration is not counted. -/
theorem Told.setScale (told : poller.Told lost base) (quantity : Quantity) (scale : Float) :
    (poller.setScale quantity scale).2.Told lost base := by
  unfold Poller.setScale
  cases poller.table.setScale quantity scale with
  | error fault => exact told
  | ok table => exact told.note (.scaleSet quantity scale) rfl rfl rfl rfl rfl

theorem Told.setConversion (told : poller.Told lost base) (quantity : Quantity)
    (conversion : Conversion) : (poller.setConversion quantity conversion).2.Told lost base := by
  unfold Poller.setConversion
  cases poller.table.setConversion quantity conversion with
  | error fault => exact told
  | ok table => exact told.note (.conversionSet quantity conversion) rfl rfl rfl rfl rfl

variable [Line σ] (reporting : Line.Reporting lost)

include reporting

/-- The bytes thrown away before a frame are logged as they are counted. -/
theorem Told.flush (told : poller.Told lost base) : poller.flush.Told lost base := by
  have onward := told.goOn (reporting.discardAll poller.line)
  unfold Poller.flush Poller.discard
  simp only
  split_ifs with none few
  · rw [none]
    exact onward
  · exact onward.note (.partialDiscarded _) rfl rfl rfl rfl rfl
  · exact onward.note (.unsolicitedDiscarded _) rfl rfl rfl rfl rfl

/-- An unlock frame is logged as it is counted, if the line takes it. -/
theorem Told.sendUnlock (told : poller.Told lost base) : poller.sendUnlock.2.Told lost base := by
  have onward := told.goOn (reporting.send poller.line
    (Frame.unlock poller.options.unlock.register poller.options.unlock.key))
  simp only [Poller.sendUnlock]
  cases (Line.send poller.line
    (Frame.unlock poller.options.unlock.register poller.options.unlock.key)).answer with
  | error fault => exact onward
  | ok done => exact onward.note .unlockSent rfl rfl rfl rfl rfl

/-- The start of polling logs what it throws away and what it sends. -/
theorem Told.start (told : poller.Told lost base) : poller.start.2.Told lost base := by
  have onward := told.goOn (reporting.discardAll poller.line)
  simp only [Poller.start]
  have noted : (if poller.discard.1 = 0 then poller.discard.2
      else poller.discard.2.note (.startupDiscarded poller.discard.1)).Told lost base := by
    unfold Poller.discard
    simp only
    split_ifs with none
    · rw [none]
      exact onward
    · exact onward.note (.startupDiscarded _) rfl rfl rfl rfl rfl
  generalize (if poller.discard.1 = 0 then poller.discard.2
    else poller.discard.2.note (.startupDiscarded poller.discard.1)) = ready at noted ⊢
  split_ifs
  · have unlocked := noted.sendUnlock reporting
    cases ready.sendUnlock.1 with
    | error fault => exact unlocked
    | ok done => exact unlocked.note (.ready _ _) rfl rfl rfl rfl rfl
  · exact noted.note (.ready _ _) rfl rfl rfl rfl rfl

/-- A reply is logged as accepted or as rejected, as it is counted. -/
theorem Told.settle (told : poller.Told lost base) (reply : Reply) :
    (poller.settle reply).2.Told lost base := by
  have taken : lost (Line.consume poller.line Frame.replyLength) = lost poller.line :=
    reporting.consume poller.line Frame.replyLength
  simp only [Poller.settle]
  cases reply.decode poller.register.address with
  | ok raw => exact told.note (.accepted _ _ raw _) taken rfl rfl rfl rfl
  | error mismatch => exact told.note (.rejected _ reply mismatch) taken rfl rfl rfl rfl

/-- What a look for a reply finds is logged as it is counted. -/
theorem Told.collect (told : poller.Told lost base) : poller.collect.2.Told lost base := by
  have onward := told.goOn (reporting.available poller.line)
  simp only [Poller.collect]
  split_ifs
  · exact told
  · exact onward
  · cases peekReply (poller.goOn (Line.available poller.line)).line with
    | error count => exact onward
    | ok reply => exact onward.settle reporting reply

/-- A miss is logged as it is counted, and the last one names the fault. -/
theorem Told.choose (told : poller.Told lost base) : poller.choose.2.Told lost base := by
  have onward := told.goOn (reporting.discardAll poller.line)
  simp only [Poller.choose, Poller.miss, Poller.discard]
  split_ifs
  · exact onward.note (.abandoned _ _ _) rfl rfl rfl rfl rfl
  · exact onward.note (.retrying _ _ _) rfl rfl rfl rfl rfl
  · exact told
  · exact ⟨told.counters, told.lastFault, told.lost⟩

/-- A request is logged as it is counted, if the line takes it. -/
theorem Told.request (told : poller.Told lost base) (choice : Choice) :
    (poller.request choice).2.Told lost base := by
  have onward := (told.flush reporting).goOn (reporting.send poller.flush.line
    (Frame.request poller.flush.register.address))
  simp only [Poller.request]
  cases (Line.send poller.flush.line (Frame.request poller.flush.register.address)).answer with
  | error fault => exact onward
  | ok done => exact onward.note (.requestSent _ _) rfl rfl rfl rfl rfl

/-- What a turn sends is logged as it is counted. -/
theorem Told.act (told : poller.Told lost base) : poller.act.2.Told lost base := by
  have chosen := (told.choose reporting).hold false
  simp only [Poller.act]
  split_ifs
  · exact ((chosen.flush reporting).hold true).sendUnlock reporting
  · exact chosen.request reporting _

theorem Told.slowTick (told : poller.Told lost base) : poller.slowTick.2.Told lost base := by
  have collected := told.collect reporting
  have looked : poller.looked.Told lost base :=
    ⟨collected.counters, collected.lastFault, collected.lost⟩
  rw [slowTick_eq]
  split_ifs
  · exact looked.act reporting
  · exact looked

variable {handle : ε → σ → Served σ Unit}
  (reports : ∀ event line, (handle event line).Reports lost line)

include reports

/-- Every move is logged as it is counted. -/
theorem Told.perform (told : poller.Told lost base) (move : Move ε) :
    (poller.perform handle move).Told lost base := by
  cases move with
  | start => exact told.start reporting
  | slowTick => exact told.slowTick reporting
  | fastTick => exact told.collect reporting
  | setScale quantity scale => exact told.setScale quantity scale
  | setConversion quantity conversion => exact told.setConversion quantity conversion
  | line event => exact told.goOn (reports event poller.line)

/-- A run is logged as it is counted. -/
theorem Told.run (told : poller.Told lost base) (moves : List (Move ε)) :
    (poller.run handle moves).Told lost base := by
  induction moves generalizing poller with
  | nil => exact told
  | cons move rest ih => exact ih (told.perform reporting reports move)

omit reporting reports in
/-- On a simulated meter with faulty wires the log, the counters and the latest fault say the same,
however the poller, the meter and the wires are handled. The poller's own warnings are one for each
rejected reply and one for each miss, and those that say a register is skipped are the registers
given up. Each other counter is the number of the events of its kind, or the sum of the bytes that
their fields and messages name, and the latest fault is the one worded in the latest warning of a
rejected reply or of a register given up. The kind of an event can be read from its message: those
two kinds word a fault, and every other kind begins in its own way. -/
theorem log_run (bench : Bench) (table : Table) (options : Options)
    (moves : List (Move Bench.Access)) :
    let after := (new bench table options).run Bench.Access.apply moves
    let counters := after.progress.counters
    after.log.countP Event.warns = counters.bad + counters.misses ∧
      counters.bad = Event.Kind.rejected.count after.log ∧
      counters.misses =
        Event.Kind.retrying.count after.log + Event.Kind.abandoned.count after.log ∧
      counters.abandoned = Event.Kind.abandoned.count after.log ∧
      counters.good = Event.Kind.accepted.count after.log ∧
      counters.tx = Event.Kind.request.count after.log ∧
      counters.unlocks = Event.Kind.unlock.count after.log ∧
      counters.discarded = (after.log.map Event.thrown).sum ∧
      after.line.lost = bench.lost + (after.log.map Event.dropped).sum ∧
      after.lastFault = after.log.findSome? Event.fault? ∧
      ∀ event ∈ after.log, (event.kind.Routine → event.level = .debug) ∧
        (event.kind = .retrying →
          event.warns = true ∧ event.message = "HT7017: no response, retrying") ∧
        (event.fault?.isSome ↔ event.kind = .rejected ∨ event.kind = .abandoned) ∧
        (∀ fault ∈ event.fault?, event.warns = true ∧
          event.message = "HT7017: " ++ fault.message ++
            (if event.kind = .abandoned then ", skipping" else "")) ∧
        ∀ kind, kind ≠ .rejected → kind ≠ .abandoned →
          (event.kind = kind ↔ ∃ words ∈ kind.openings, event.Begins words) := by
  intro after counters
  have told : after.Told Bench.lost bench.lost :=
    (Told.new Bench.lost bench table options).run Bench.reporting Bench.Access.reports moves
  have counts : counters.Counts after.log := by
    have read : counters = .ofLog after.log := told.counters
    rw [read]
    exact Counters.counts_ofLog after.log
  exact ⟨counts.warnings, counts.bad, counts.misses, counts.abandoned, counts.good, counts.tx,
    counts.unlocks, counts.discarded, told.lost, told.lastFault,
    fun event _ => ⟨Event.level_of_routine, Event.message_of_retrying, event.isSome_fault?_iff,
      fun _ names => Event.message_of_fault? names,
      fun _ accepts stays => event.kind_eq_iff_begins (Event.Kind.plain_of_ne accepts stays)⟩⟩

end Poller

end MeterPoll
