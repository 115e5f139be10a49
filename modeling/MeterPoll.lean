import MeterPoll.Bench
import MeterPoll.CommandLine.Session
import MeterPoll.Main
import MeterPoll.Proofs.Poller.Abandonment
import MeterPoll.Proofs.Poller.Accounting
import MeterPoll.Proofs.Poller.FastTicks
import MeterPoll.Proofs.Poller.Mirror
import MeterPoll.Proofs.Poller.Provenance
import MeterPoll.Proofs.Meter.Answers
import MeterPoll.Proofs.Poller.Staleness
import MeterPoll.Proofs.Bench.Journal
import MeterPoll.Proofs.Poller.Conservation
import MeterPoll.Proofs.Line.Watched
import MeterPoll.Proofs.Poller.Pacing
import MeterPoll.Proofs.Poller.Waiting
import MeterPoll.Proofs.Meter.Frames
import MeterPoll.Proofs.Poller.Deferral
import MeterPoll.Proofs.Poller.Refusal
import MeterPoll.Proofs.Poller.Traffic
import MeterPoll.Proofs.Poller.Attribution
import MeterPoll.Proofs.Reply.RoundTrip
import MeterPoll.Proofs.Poller.Isolation
import MeterPoll.Proofs.Poller.Tries
import MeterPoll.Proofs.Poller.Collection
import MeterPoll.Proofs.Poller.Divider
import MeterPoll.Proofs.Poller.Logbook
import MeterPoll.Proofs.Poller.Reports
import MeterPoll.Proofs.Table.Acceptance
import MeterPoll.Proofs.Queue.Uses
import MeterPoll.Proofs.Meter.Stream
import MeterPoll.Proofs.Poller.Delivery
import MeterPoll.Proofs.CommandLine.Overrides
import MeterPoll.Proofs.Poller.DeadLine
import MeterPoll.Proofs.CommandLine.Simulation
import MeterPoll.Proofs.Poller.Finiteness
import MeterPoll.Proofs.Register.Band
import MeterPoll.Proofs.Line.Boxing
import MeterPoll.Proofs.Config.Validation
import MeterPoll.Proofs.CommandLine.Bytes
