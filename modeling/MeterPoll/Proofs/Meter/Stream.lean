import MeterPoll.Proofs.Meter.Answers
import MeterPoll.Proofs.Meter.Grammar

/-!
# A stream in pieces

A meter searches its inbox for frames again after every byte. The search ends on every inbox
(`Meter.exists_unique_searched`) and leaves the start of a frame, and however a stream of bytes is
cut into frames and single bytes, the meter ends up as if the whole stream had been read at once and
the commands in it obeyed one after another (`Meter.stream_takeIn`).
-/

namespace MeterPoll

namespace Meter

variable {meter first second : Meter}

/-- The search for frames in the inbox of a meter, from a round to the end. -/
inductive Searched : Meter → Meter → Prop where
  /-- There is no complete frame, and the noise is dropped. -/
  | ended {meter : Meter} (none : Command.next? meter.inbox = none) :
      Searched meter { meter with inbox := meter.inbox.dropWhile (· ≠ Frame.head) }
  /-- The next frame is taken out of the inbox and obeyed, and the search goes on. -/
  | round {meter after : Meter} {command : Command} {rest : List UInt8}
      (found : Command.next? meter.inbox = some (command, rest))
      (onward : Searched (obey { meter with inbox := rest } command).line after) :
      Searched meter after

/-- A meter whose answer has arrived or waits. -/
def answered (meter : Meter) (answer : List UInt8) : Meter :=
  { meter with
    queue := meter.queue.push (meter.atOnce answer)
    pending := meter.pending ++ if meter.immediate then [] else answer }

/-- A meter that has obeyed these commands. -/
def obeyed (meter : Meter) (commands : List Command) : Meter :=
  answered { meter with
    requests := (commands.filterMap (·.register?)).reverse ++ meter.requests
    unlocks := meter.unlocks + commands.count .unlock
    script := meter.script.drop (commands.filterMap (·.register?)).length }
  (meter.answers commands)

theorem answered_nil (meter : Meter) : meter.answered [] = meter := by
  simp only [answered, atOnce, ite_self, Queue.push_nil, List.append_nil]

/-- Two answers are one that is made of both. -/
theorem answered_append (meter : Meter) (first second : List UInt8) :
    meter.answered (first ++ second) = (meter.answered first).answered second := by
  have pending : (meter.pending ++ if meter.immediate then [] else first ++ second) =
      (meter.pending ++ if meter.immediate then [] else first) ++
        if meter.immediate then [] else second := by
    split_ifs
    · rw [List.append_nil, List.append_nil]
    · rw [List.append_assoc]
  unfold answered
  rw [atOnce_append, Queue.push_append, pending]
  rfl

theorem obeyed_nil (meter : Meter) : meter.obeyed [] = meter :=
  meter.answered_nil

/-- The first command is obeyed before the rest. -/
theorem obeyed_cons (meter : Meter) (command : Command) (rest : List Command) :
    meter.obeyed (command :: rest) = (meter.obey command).line.obeyed rest := by
  have answers := meter.answers_cons command rest
  cases command with
  | unlock =>
      have counted : meter.unlocks + (Command.unlock :: rest).count .unlock =
          meter.unlocks + 1 + rest.count .unlock := by
        rw [List.count_cons_self]
        omega
      unfold obeyed
      rw [answers, counted]
      rfl
  | read register =>
      have requests : ((Command.read register :: rest).filterMap (·.register?)).reverse ++
          meter.requests = (rest.filterMap (·.register?)).reverse ++ register :: meter.requests := by
        change (register :: rest.filterMap (·.register?)).reverse ++ meter.requests = _
        rw [List.reverse_cons, List.append_assoc]
        rfl
      have script : meter.script.drop
          ((Command.read register :: rest).filterMap (·.register?)).length =
            meter.script.tail.drop (rest.filterMap (·.register?)).length :=
        List.drop_tail.symm
      unfold obeyed
      rw [answers, answered_append, requests, script, line_obey_read]
      rfl

/-- Commands in two portions are obeyed as one sequence. -/
theorem obeyed_obeyed (meter : Meter) (first second : List Command) :
    (meter.obeyed first).obeyed second = meter.obeyed (first ++ second) := by
  induction first generalizing meter with
  | nil => rw [obeyed_nil, List.nil_append]
  | cons command rest ih => rw [obeyed_cons, ih, List.cons_append, obeyed_cons]

/-- Commands that are obeyed in turn add up to what the sequence does. -/
theorem line_obeyAll (meter : Meter) (commands : List Command) :
    (meter.obeyAll commands).line = meter.obeyed commands := by
  induction commands generalizing meter with
  | nil => exact meter.obeyed_nil.symm
  | cons command rest ih =>
      rw [obeyed_cons]
      exact ih (meter.obey command).line

/-- Noise in front makes no difference to the search. -/
theorem Searched.noise {byte : UInt8} {rest : List UInt8} {after : Meter}
    (noise : byte ≠ Frame.head) (searched : Searched { meter with inbox := rest } after) :
    Searched { meter with inbox := byte :: rest } after := by
  have same := Command.next?_noise noise rest
  cases searched with
  | ended none =>
      have dropped := Command.dropWhile_noise noise rest
      have ended : Searched { meter with inbox := byte :: rest } _ := .ended (same.trans none)
      change Searched _ { meter with inbox := (byte :: rest).dropWhile (· ≠ Frame.head) } at ended
      rwa [dropped] at ended
  | round found onward => exact .round (same.trans found) onward

/-- A command does the same whatever is in the inbox. -/
theorem obey_withInbox (meter : Meter) (inbox : List UInt8) (command : Command) :
    (obey { meter with inbox } command).line = { (meter.obey command).line with inbox } := by
  cases command with
  | unlock => rfl
  | read register =>
      rw [line_obey_read, line_obey_read]
      rfl

/-- A search that finds a frame is the search for the rest after it. -/
theorem searched_next {bytes rest left : List UInt8} {command : Command} {commands : List Command}
    (found : Command.next? bytes = some (command, rest))
    (onward : ∀ meter : Meter, Searched { meter with inbox := rest }
      (obeyed { meter with inbox := left } commands)) (meter : Meter) :
    Searched { meter with inbox := bytes }
      (obeyed { meter with inbox := left } (command :: commands)) := by
  have further := onward (meter.obey command).line
  rw [← obey_withInbox, ← obey_withInbox, ← obeyed_cons] at further
  exact .round found further

/-- The search obeys what the inbox holds and leaves what the grammar leaves. -/
theorem searched_of_reads {bytes left : List UInt8} {commands : List Command}
    (reads : Command.Reads bytes commands left) (meter : Meter) :
    Searched { meter with inbox := bytes } (obeyed { meter with inbox := left } commands) := by
  induction reads generalizing meter with
  | begun begun =>
      have ended : Searched { meter with inbox := _ } _ := .ended (Command.next?_of_begun begun)
      simp only [Command.dropWhile_of_begun begun] at ended
      rwa [obeyed_nil]
  | noise noise onward ih => exact (ih meter).noise noise
  | unlock onward ih => exact searched_next (Command.next?_unlock ..) ih meter
  | read other onward ih => exact searched_next (Command.next?_read other _) ih meter

/-- A search ends in one state. -/
theorem Searched.unique (searched : meter.Searched first) (other : meter.Searched second) :
    first = second := by
  induction searched with
  | ended none =>
      cases other with
      | ended => rfl
      | round found => cases none.symm.trans found
  | round found onward ih =>
      cases other with
      | ended none => cases none.symm.trans found
      | round again further =>
          cases found.symm.trans again
          exact ih further

/-- The search for frames comes to an end on every inbox. -/
theorem exists_unique_searched (meter : Meter) : ∃! after, meter.Searched after := by
  have searched := searched_of_reads (Command.reads_scan meter.inbox) meter
  refine ⟨_, searched, ?_⟩
  intro after other
  exact other.unique searched

/-- What a meter does with a byte is the search of its inbox with the byte at the end. -/
theorem searched_receive (meter : Meter) (byte : UInt8) :
    Searched { meter with sent := byte :: meter.sent, inbox := meter.inbox ++ [byte] }
      (meter.receive byte).line := by
  unfold receive
  rw [line_obeyAll]
  exact searched_of_reads (Command.reads_scan _) { meter with sent := byte :: meter.sent }

/-- What a meter obeys touches neither its inbox nor the record of what was sent. -/
theorem obeyed_noting (meter : Meter) (inbox sent : List UInt8) (commands : List Command) :
    { meter.obeyed commands with inbox, sent } = obeyed { meter with inbox, sent } commands := by
  have same := answers_congr { meter with inbox, sent } meter rfl rfl rfl commands
  unfold obeyed
  rw [same]
  rfl

/-- After a byte the inbox holds what the scan leaves over. -/
theorem inbox_receive (meter : Meter) (byte : UInt8) :
    (meter.receive byte).line.inbox = (Command.scan (meter.inbox ++ [byte])).2 := by
  unfold receive
  rw [line_obeyAll]
  rfl

/-- Bytes are obeyed as if they had all been in the inbox of a meter at once. -/
theorem line_send_of_reads {bytes left : List UInt8} {commands : List Command}
    (begun : Command.Begun meter.inbox)
    (reads : Command.Reads (meter.inbox ++ bytes) commands left) :
    (Line.send meter bytes).line =
      obeyed { meter with inbox := left, sent := bytes.reverse ++ meter.sent } commands := by
  -- With every byte the start of a frame in the inbox is read again, together with what follows.
  induction bytes generalizing meter commands with
  | nil =>
      rw [List.append_nil] at reads
      obtain ⟨rfl, rfl⟩ := reads.unique (.begun begun)
      exact (obeyed_nil meter).symm
  | cons byte rest ih =>
      let sooner := Command.scan (meter.inbox ++ [byte])
      let later := Command.scan (sooner.2 ++ rest)
      have readSooner : Command.Reads (meter.inbox ++ [byte]) sooner.1 sooner.2 :=
        Command.reads_scan _
      have readLater : Command.Reads (sooner.2 ++ rest) later.1 later.2 := Command.reads_scan _
      have whole := readSooner.append readLater
      rw [List.append_assoc] at whole
      obtain ⟨rfl, rfl⟩ := whole.unique reads
      let noted : Meter := { meter with inbox := sooner.2, sent := byte :: meter.sent }
      have received : (meter.receive byte).line = noted.obeyed sooner.1 := line_obeyAll ..
      calc (Line.send meter (byte :: rest)).line
        _ = (Line.send (noted.obeyed sooner.1) rest).line := by
          rw [← received]
          rfl
        _ = obeyed { noted.obeyed sooner.1 with
              inbox := later.2, sent := rest.reverse ++ noted.sent } later.1 :=
          ih readSooner.begun_left readLater
        _ = obeyed { meter with inbox := later.2, sent := rest.reverse ++ noted.sent }
              (sooner.1 ++ later.1) := by
          rw [obeyed_noting, obeyed_obeyed]
        _ = _ := by
          rw [List.reverse_cons, List.append_assoc]
          rfl

/-- Bytes that are sent together or one by one. -/
inductive Piece where
  | frame (bytes : List UInt8)
  | single (byte : UInt8)
  deriving DecidableEq, Repr

def Piece.bytes : Piece → List UInt8
  | frame bytes => bytes
  | single byte => [byte]

/-- Sends a piece to a meter. -/
def Piece.send (meter : Meter) : Piece → Meter
  | frame bytes => (Line.send meter bytes).line
  | single byte => (Line.sendByte meter byte).line

/-- Sends pieces to a meter one after another. -/
def takeIn (meter : Meter) (pieces : List Piece) : Meter :=
  pieces.foldl Piece.send meter

/-- Bytes sent in two portions are received as one sequence. -/
theorem line_send_append (meter : Meter) (first second : List UInt8) :
    (Line.send meter (first ++ second)).line =
      (Line.send (Line.send meter first).line second).line := by
  induction first generalizing meter with
  | nil => rfl
  | cons byte rest ih => exact ih (meter.receive byte).line

/-- Only the bytes of the pieces matter. -/
theorem takeIn_eq_send (meter : Meter) (pieces : List Piece) :
    meter.takeIn pieces = (Line.send meter (pieces.flatMap Piece.bytes)).line := by
  induction pieces generalizing meter with
  | nil => rfl
  | cons piece rest ih =>
      have first : Piece.send meter piece = (Line.send meter piece.bytes).line := by
        cases piece <;> rfl
      calc takeIn (Piece.send meter piece) rest
        _ = (Line.send (Line.send meter piece.bytes).line (rest.flatMap Piece.bytes)).line := by
          rw [ih, first]
        _ = (Line.send meter ((piece :: rest).flatMap Piece.bytes)).line := by
          rw [List.flatMap_cons, line_send_append]

/-- **However a stream is cut, a meter reads it as a whole.** A meter that is between two frames
ends up as if it had read the stream at once, in the only way the grammar allows, and obeyed the
commands in it. On every inbox the search for frames comes to one end. It is what a meter does with
a byte, and it leaves the start of a frame in the inbox. -/
theorem stream_takeIn (meter : Meter) (pieces : List Piece) (between : meter.inbox = []) :
    let stream := pieces.flatMap Piece.bytes
    (∃ commands left,
      (∀ others rest, Command.Reads stream others rest ↔ others = commands ∧ rest = left) ∧
        meter.takeIn pieces =
          obeyed { meter with inbox := left, sent := stream.reverse ++ meter.sent } commands) ∧
    (∀ any : Meter, ∃! after, any.Searched after) ∧
    ∀ (any : Meter) (byte : UInt8),
      Searched { any with sent := byte :: any.sent, inbox := any.inbox ++ [byte] }
        (Line.sendByte any byte).line ∧
      Command.Begun (Line.sendByte any byte).line.inbox := by
  intro stream
  refine ⟨?_, exists_unique_searched, ?_⟩
  · refine ⟨_, _, fun others rest => Command.reads_iff, ?_⟩
    rw [takeIn_eq_send]
    refine line_send_of_reads (.inl between) ?_
    rw [between]
    exact Command.reads_scan stream
  · intro any byte
    refine ⟨any.searched_receive byte, ?_⟩
    change Command.Begun (any.receive byte).line.inbox
    rw [inbox_receive]
    exact (Command.reads_scan _).begun_left

/-- An unlock frame of which the bytes look like the starts of others, in pieces. -/
theorem stream_takeIn_lookalike :
    let meter := reference.takeIn [.frame [0x00, 0x6A], .single 0x52, .frame [0x6A, 0x52, 0x6A],
      .single 0x08, .frame [0x6A, 0x88, 0x6A]]
    reference.inbox = [] ∧ meter.unlocks = 1 ∧ meter.requests = [0x08] ∧
      meter.queue.bytes = [0x29, 0x10, 0x00, 0x54] ∧ meter.inbox = [0x6A] := by
  intro meter
  obtain ⟨⟨commands, left, reads, taken⟩, -, -⟩ := stream_takeIn reference
    [.frame [0x00, 0x6A], .single 0x52, .frame [0x6A, 0x52, 0x6A], .single 0x08,
      .frame [0x6A, 0x88, 0x6A]] rfl
  have whole : Command.Reads
      [0x00, 0x6A, 0x52, 0x6A, 0x52, 0x6A, 0x08, 0x6A, 0x88, 0x6A] [.unlock, .read 0x08] [0x6A] :=
    .noise (by decide) (.unlock (.read (by decide) (.begun (.inr (.inl rfl)))))
  obtain ⟨rfl, rfl⟩ := (reads _ _).mp whole
  change meter = _ at taken
  rw [taken]
  decide

end Meter

end MeterPoll
