import MeterPoll.Poller.Basic

/-!
# Polling

The two ticks of a poller. The collector takes a complete reply from the line, checks it against
the register that was asked for and stores its value. The scheduler first lets the collector look,
then counts a request without reply as a miss, chooses the register to ask for (the same one again
after a miss, the next one after an answer or after the last try), throws away what is left of
earlier replies, and sends the next request; when an unlock frame is due it is sent instead and the
chosen register keeps its turn.
-/

namespace MeterPoll

namespace Poller

variable {σ : Type} [Line σ]

/-- Throws away all received bytes and counts them. -/
def discard (poller : Poller σ) : Nat × Poller σ :=
  let discarded := Line.discardAll poller.line
  let onward := poller.goOn discarded
  let counters := onward.progress.counters
  (discarded.answer, { onward with
    progress.counters.discarded := counters.discarded + discarded.answer })

/-- Throws away what is left of earlier replies before a frame is sent. -/
def flush (poller : Poller σ) : Poller σ :=
  let (stale, onward) := poller.discard
  if stale = 0 then onward
  else if stale < Frame.replyLength then onward.note (.partialDiscarded stale)
  else onward.note (.unsolicitedDiscarded stale)

/-- Sends the unlock frame. A frame that the line does not take counts as not sent. -/
def sendUnlock (poller : Poller σ) : Except Fault Unit × Poller σ :=
  let policy := poller.options.unlock
  let sent := Line.send poller.line (Frame.unlock policy.register policy.key)
  let onward := poller.goOn sent
  match sent.answer with
  | .error fault => (.error fault, onward)
  | .ok () =>
    (.ok (), { onward with
      sinceUnlock := 0
      progress.counters.unlocks := onward.progress.counters.unlocks + 1 }.note .unlockSent)

/-- Starts polling: throws away what the device sent so far and unlocks writes if the policy says
so. -/
def start (poller : Poller σ) : Except Fault Unit × Poller σ :=
  let (startup, onward) := poller.discard
  let onward := if startup = 0 then onward else onward.note (.startupDiscarded startup)
  let (unlocked, onward) :=
    if onward.options.unlock.onStartup then onward.sendUnlock else (.ok (), onward)
  match unlocked with
  | .error fault => (.error fault, onward)
  | .ok () => (.ok (), onward.note (.ready onward.table.length onward.options.maxRetries))

/-- The first bytes of the line as a reply, or how many of them can be seen. -/
def peekReply (line : σ) : Except Nat Reply :=
  match Line.peek? line 0 with
  | none => .error 0
  | some high =>
    match Line.peek? line 1 with
    | none => .error 1
    | some middle =>
      match Line.peek? line 2 with
      | none => .error 2
      | some low =>
        match Line.peek? line 3 with
        | none => .error 3
        | some check => .ok ⟨high, middle, low, check⟩

/-- Takes a reply from the line and settles the request that is out with it. -/
def settle (poller : Poller σ) (reply : Reply) : Collected × Poller σ :=
  let register := poller.register
  let counters := poller.progress.counters
  let taken := { poller with
    line := Line.consume poller.line Frame.replyLength
    progress.awaiting := false }
  match reply.decode register.address with
  | .ok raw =>
    let value := register.value raw poller.options.noise
    (.accepted register.quantity raw value, { taken with
      readings := taken.readings.set register.quantity value
      progress.consecutive := 0
      progress.counters.good := counters.good + 1 }.note
        (.accepted register.address register.quantity raw value))
  | .error mismatch =>
    let fault := Fault.checksum register.address mismatch
    (.rejected fault, { taken with
      lastFault := some fault
      progress.counters.bad := counters.bad + 1 }.note
        (.rejected register.address reply mismatch))

/-- The collector: settles the request that is out if its reply is complete. -/
def collect (poller : Poller σ) : Collected × Poller σ :=
  if !poller.progress.awaiting then (.idle, poller)
  else
    let counted := Line.available poller.line
    let onward := poller.goOn counted
    if counted.answer < Frame.replyLength then (.waiting counted.answer, onward)
    else
      match peekReply onward.line with
      | .error seen => (.waiting seen, onward)
      | .ok reply => onward.settle reply

/-- How a register came to be chosen. -/
structure Choice where
  /-- Whether the register was asked for before and did not answer. -/
  retry : Bool
  /-- The register that was given up to make the choice. -/
  abandoned : Option UInt8

/-- Counts the request that is out as a miss and chooses the register to ask for: the same one, or
the next one after the last try. -/
def miss (poller : Poller σ) : Choice × Poller σ :=
  let address := poller.register.address
  let misses := poller.progress.consecutive + 1
  let (stale, onward) := { poller with
    progress.consecutive := misses
    progress.counters.misses := poller.progress.counters.misses + 1 }.discard
  if poller.options.maxRetries ≤ misses then
    let counters := onward.progress.counters
    let abandoning := { onward with
      progress.awaiting := false
      progress.counters.abandoned := counters.abandoned + 1
      lastFault := some (.noReply address misses) }.note (.abandoned address misses stale)
    (⟨false, some address⟩,
      { abandoning with progress := abandoning.progress.advance abandoning.table })
  else
    (⟨true, none⟩, { onward with progress.awaiting := false }.note (.retrying address misses stale))

/-- Chooses the register to ask for on this tick. -/
def choose (poller : Poller σ) : Choice × Poller σ :=
  if poller.progress.awaiting then poller.miss
  else if poller.resume then (⟨decide (0 < poller.progress.consecutive), none⟩, poller)
  else (⟨false, none⟩, { poller with progress := poller.progress.advance poller.table })

/-- Whether the unlock frame takes the place of the next request. -/
def unlockDue (poller : Poller σ) : Bool :=
  0 < poller.options.unlock.interval && poller.options.unlock.interval ≤ poller.sinceUnlock

/-- Sends the unlock frame in place of a request, for which the chosen register keeps its turn. -/
def unlockInstead (poller : Poller σ) : Except Fault Tick × Poller σ :=
  let (unlocked, onward) := { poller.flush with resume := true }.sendUnlock
  (unlocked.map fun _ => .unlocked, onward)

/-- Sends the request for the chosen register. A request that the line does not take counts as not
sent. -/
def request (poller : Poller σ) (choice : Choice) : Except Fault Tick × Poller σ :=
  let flushed := poller.flush
  let address := flushed.register.address
  let sent := Line.send flushed.line (Frame.request address)
  let onward := flushed.goOn sent
  match sent.answer with
  | .error fault => (.error fault, onward)
  | .ok () =>
    (.ok (.requested address choice.retry choice.abandoned), { onward with
      sinceUnlock := onward.sinceUnlock + 1
      progress.awaiting := true
      progress.counters.tx := onward.progress.counters.tx + 1 }.note
        (.requestSent address choice.retry))

/-- What the scheduler does on a tick that it acts on. -/
def act (poller : Poller σ) : Except Fault Tick × Poller σ :=
  let (choice, chosen) := poller.choose
  let chosen := { chosen with resume := false }
  if chosen.unlockDue then chosen.unlockInstead else chosen.request choice

/-- Whether the scheduler acts on the next tick. -/
def acts (poller : Poller σ) : Bool :=
  poller.ticks % poller.options.requestEvery == 0

/-- The collector's tick, to be run as often as the host can. -/
def fastTick (poller : Poller σ) : Collected × Poller σ :=
  poller.collect

/-- The scheduler's tick, to be run once per period. -/
def slowTick (poller : Poller σ) : Except Fault Tick × Poller σ :=
  let collected := poller.collect.2
  let counted := { collected with ticks := collected.ticks + 1 }
  if collected.acts then counted.act else (.ok .skipped, counted)

/-- A tick of the scheduler and then one of the collector, up to `count` times or to the first
fault of the scheduler. -/
def rounds : Nat → Poller σ → Except Fault (Poller σ)
  | 0, poller => .ok poller
  | count + 1, poller =>
    match poller.slowTick with
    | (.error fault, _) => .error fault
    | (.ok _, onward) => rounds count onward.fastTick.2

end Poller

end MeterPoll
