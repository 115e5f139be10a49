import MeterPoll.CommandLine.Plan
import MeterPoll.Installation

/-!
# Sessions

Polling an installation from the start until it is interrupted. A request that cannot be sent does
not end a session.
-/

namespace MeterPoll.CommandLine

/-- What happens while an installation is polled. -/
structure Course where
  /-- The ticks of the scheduler, each with one of the collector behind it, before the
  interrupt. -/
  ticks : Nat
  /-- After how many bytes the far end goes, once polling has started. -/
  hangUpAfter : Option Nat

/-- The end of a session and every byte that the far end got. -/
structure Session where
  ending : Ending
  received : List UInt8

namespace Session

/-- The far end goes if it has got all the bytes it stays for. -/
def leave (course : Course) (installation : Installation) : Installation :=
  if course.hangUpAfter.any (· ≤ installation.port.sent.length) then installation.hangUp
  else installation

/-- Lets ticks pass. -/
def pass (course : Course) : Nat → Poller Installation → Poller Installation
  | 0, poller => poller
  | ticks + 1, poller =>
    let present := { poller with line := leave course poller.line }
    pass course ticks present.slowTick.2.fastTick.2

/-- A session that ends with a poller. -/
def ended (ending : Ending) (poller : Poller Installation) : Session :=
  ⟨ending, poller.line.port.sent.reverse⟩

/-- Polls a meter at the far end of a port that the host opens. -/
def run (polling : Polling) (meter : Meter) (course : Course) : Session :=
  let installation : Installation := ⟨.opened polling.config.serial, meter⟩
  match polling.poller installation with
  | .error failure => ⟨.failed "" failure, []⟩
  | .ok poller =>
    match Polling.start poller with
    | (.error failure, onward) => ended (.failed "" failure) onward
    | (.ok (), onward) =>
      let last := pass course course.ticks onward
      ended (.success (statusReport last)) last

end Session

end MeterPoll.CommandLine
