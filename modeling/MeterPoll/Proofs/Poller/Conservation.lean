import MeterPoll.Proofs.Bench.Journal

/-!
# Conservation of received bytes

Received bytes leave a line when the collector takes a reply and when what is left of earlier ones
is thrown away. A relation of the line to the number of bytes that left it, if every operation on
the line keeps it (`Line.Books`), holds on every run of the number that the counters account for
(`Poller.preserved_booked`). On a line with a journal the relation is that the bytes which wait are
those that come in the journal after the ones that left (`Journaled.Settled`), so that no byte is
lost or counted twice (`Poller.received_run`).
-/

namespace MeterPoll

variable {σ ε : Type}

/-- How many received bytes the counters account for: four for each reply and those thrown away. -/
def Counters.spent (counters : Counters) : Nat :=
  Frame.replyLength * (counters.good + counters.bad) + counters.discarded

/-- An accepted reply accounts for its bytes. -/
theorem Counters.spent_good (counters : Counters) :
    Counters.spent { counters with good := counters.good + 1 } =
      counters.spent + Frame.replyLength := by
  simp only [spent, Frame.replyLength]
  omega

theorem Counters.spent_bad (counters : Counters) :
    Counters.spent { counters with bad := counters.bad + 1 } =
      counters.spent + Frame.replyLength := by
  simp only [spent, Frame.replyLength]
  omega

/-- A relation of a line to a number of bytes that goes up by the bytes that are taken from the line
and does not change otherwise. -/
structure Line.Books [Line σ] (books : σ → Nat → Prop) : Prop where
  send : ∀ {line bytes}, books line bytes → ∀ frame, books (Line.send line frame).line bytes
  available : ∀ {line bytes}, books line bytes → books (Line.available line).line bytes
  discardAll : ∀ {line bytes}, books line bytes →
    books (Line.discardAll line).line (bytes + (Line.discardAll line).answer)
  consume : ∀ {line bytes count}, books line bytes → count ≤ (Line.available line).answer →
    books (Line.consume (Line.available line).line count) (bytes + count)

namespace Poller

/-- The books are right about the bytes that the poller has taken from its line. -/
def Booked (books : σ → Nat → Prop) (poller : Poller σ) : Prop :=
  books poller.line poller.progress.counters.spent

variable [Line σ] {books : σ → Nat → Prop} {poller : Poller σ}

/-- Bytes that are thrown away are on the books. -/
theorem Booked.emptied (keeps : Line.Books books) (booked : poller.Booked books)
    (log : List Event) : (poller.emptied log).Booked books := by
  have taken := keeps.discardAll booked
  unfold Booked Counters.spent at *
  rw [Nat.add_assoc] at taken
  exact taken

theorem Booked.collect (keeps : Line.Books books) (booked : poller.Booked books) :
    poller.collect.2.Booked books := by
  have effect := poller.collectEffect
  generalize poller.collect = result at effect ⊢
  cases effect with
  | idle => exact booked
  | waiting => exact keeps.available booked
  | accepted reply raw log out enough =>
      have taken := keeps.consume booked enough
      rw [← Counters.spent_good] at taken
      exact taken
  | rejected reply mismatch log out enough =>
      have taken := keeps.consume booked enough
      rw [← Counters.spent_bad] at taken
      exact taken

theorem Booked.unlock (keeps : Line.Books books) (booked : poller.Booked books)
    {result : Except Fault Unit × Poller σ} (effect : poller.UnlockEffect result) :
    result.2.Booked books := by
  cases effect with
  | sent => exact keeps.send booked _
  | unsent => exact keeps.send booked _

theorem Booked.start (keeps : Line.Books books) (booked : poller.Booked books) :
    poller.start.2.Booked books := by
  have effect := poller.startEffect
  generalize poller.start = result at effect ⊢
  cases effect with
  | plain log => exact booked.emptied keeps log
  | unlocking before after result asked effect =>
      have sent := (booked.emptied keeps before).unlock keeps effect
      exact sent

theorem Booked.choose (keeps : Line.Books books) (booked : poller.Booked books) :
    poller.choose.2.Booked books := by
  have effect := poller.chooseEffect
  generalize poller.choose = result at effect ⊢
  cases effect with
  | gaveUp log => exact booked.emptied keeps log
  | retrying log => exact booked.emptied keeps log
  | resumed => exact booked
  | advanced => exact booked

/-- A turn of the scheduler keeps the books right. -/
theorem Booked.act (keeps : Line.Books books) (booked : poller.Booked books) :
    poller.act.2.Booked books := by
  have chosen := booked.choose keeps
  have effect := poller.actEffect
  generalize poller.act = result at effect ⊢
  generalize poller.choose = choice at effect chosen
  have held (log : List Event) :
      ({ choice.2.emptied log with resume := true } : Poller σ).Booked books :=
    chosen.emptied keeps log
  cases effect with
  | unlocked log onward due effect =>
      exact (held log).unlock keeps effect
  | unlockFailed log fault onward due effect =>
      exact (held log).unlock keeps effect
  | asked result undue effect =>
      cases effect with
      | sent log => exact keeps.send (chosen.emptied keeps log) _
      | unsent fault log => exact keeps.send (chosen.emptied keeps log) _

variable {handle : ε → σ → Served σ Unit}

/-- The books stay right along every run, if what happens to the line keeps them. -/
theorem preserved_booked (keeps : Line.Books books)
    (handles : ∀ event line bytes, books line bytes → books (handle event line).line bytes) :
    Preserved handle (Booked books) where
  collected _ booked := booked.collect keeps
  counted _ _ booked := booked
  acted _ booked := booked.act keeps
  started _ booked := booked.start keeps
  calibrated _ _ _ booked _ := booked
  handled poller event booked := handles event poller.line _ booked

end Poller

/-- The bytes that wait are those of the journal after the first `bytes`, which have left. -/
def Journaled.Settled (journaled : Journaled) (bytes : Nat) : Prop :=
  bytes ≤ journaled.received.length ∧ journaled.bench.waiting = journaled.received.drop bytes

namespace Journaled

variable {journaled : Journaled} {bytes : Nat}

/-- Bytes that come to the waiting ones are entered in the journal. -/
theorem Settled.record {α : Type} (settled : journaled.Settled bytes) {served : Served Bench α}
    (grows : journaled.bench.waiting <+: served.line.waiting) :
    (journaled.record served).line.Settled bytes := by
  obtain ⟨within, waiting⟩ := settled
  obtain ⟨stored, grown⟩ := grows
  -- What is written down is exactly what the queue gained.
  have added : served.line.waiting.drop journaled.bench.waiting.length = stored := by
    rw [← grown, List.drop_left]
  constructor
  · calc bytes
      _ ≤ journaled.received.length := within
      _ ≤ (journaled.received ++ _).length := by
        rw [List.length_append]
        exact Nat.le_add_right _ _
  · change served.line.waiting = (journaled.received ++ _).drop bytes
    rw [added, List.drop_append_of_le_length within, ← waiting, grown]

/-- Consumed bytes have left the journal's waiting part. -/
theorem Settled.consume (settled : journaled.Settled bytes) {count : Nat}
    (enough : count ≤ journaled.bench.waiting.length) :
    (Line.consume journaled count).Settled (bytes + count) := by
  obtain ⟨within, waiting⟩ := settled
  constructor
  · rw [waiting, List.length_drop] at enough
    change bytes + count ≤ journaled.received.length
    omega
  · change journaled.bench.waiting.drop count = journaled.received.drop (bytes + count)
    rw [waiting, List.drop_drop]

/-- Sending takes no byte away. -/
theorem Settled.send (settled : journaled.Settled bytes) (frame : List UInt8) :
    (Line.send journaled frame).line.Settled bytes := by
  change (sendEach Line.sendByte journaled frame).line.Settled bytes
  induction frame generalizing journaled with
  | nil => exact settled
  | cons byte rest ih =>
      have sent : (Line.sendByte journaled byte).line.Settled bytes :=
        settled.record (Bench.prefix_sendByte journaled.bench byte)
      simp only [sendEach]
      cases (Line.sendByte journaled byte).answer with
      | error fault => exact sent
      | ok done => exact ih sent

theorem Settled.available (settled : journaled.Settled bytes) :
    (Line.available journaled).line.Settled bytes :=
  settled.record List.prefix_rfl

/-- A journaled bench keeps right books. -/
theorem books_settled : Line.Books Settled where
  send settled := settled.send
  available settled := settled.available
  discardAll settled := settled.available.consume (Nat.le_refl _)
  consume settled enough := settled.available.consume enough

theorem Settled.handle (handling : Bench.Handling) (settled : journaled.Settled bytes) :
    (Journaled.handle handling journaled).line.Settled bytes :=
  settled.record (Bench.prefix_apply handling journaled.bench)

end Journaled

namespace Poller

/-- **Conservation of received bytes.** On every run on a meter, however its wires fail and however
it is handled, the bytes that were ever stored in its receive queue, written down in a journal,
are those that made up the replies, those that were thrown away and those that still wait. -/
theorem received_run (bench : Bench) (table : Table) (options : Options)
    (moves : List (Move Bench.Handling)) :
    let poller := (new bench table options).run Bench.Handling.apply moves
    let journaled := (new (Journaled.begun bench) table options).run Journaled.handle moves
    let counters := poller.progress.counters
    journaled.Mirrors Journaled.bench 0 poller ∧
      journaled.line.received.length =
        Frame.replyLength * (counters.good + counters.bad) + counters.discarded +
          poller.line.meter.queue.length ∧
      poller.line.meter.queue.bytes = journaled.line.received.drop
        (Frame.replyLength * (counters.good + counters.bad) + counters.discarded) := by
  intro poller journaled counters
  have mirrors : journaled.Mirrors Journaled.bench 0 poller :=
    Mirrors.run Journaled.view (fun _ _ => ⟨rfl, rfl⟩) ⟨[], rfl⟩ moves
  have begun : (new (Journaled.begun bench) table options).Booked Journaled.Settled :=
    ⟨Nat.zero_le _, rfl⟩
  have preserved : Preserved Journaled.handle (Booked Journaled.Settled) :=
    preserved_booked Journaled.books_settled fun handling _ _ settled => settled.handle handling
  have booked : journaled.Booked Journaled.Settled := preserved.run begun moves
  have line : poller.line = journaled.line.bench := mirrors.line
  have spent : counters.spent = journaled.progress.counters.spent := by
    obtain ⟨log, same⟩ := mirrors
    exact congrArg (·.progress.counters.spent) same
  obtain ⟨within, waiting⟩ : journaled.line.Settled counters.spent := spent ▸ booked
  rw [← line] at waiting
  have length := congrArg List.length waiting
  rw [List.length_drop] at length
  refine ⟨mirrors, ?_, waiting⟩
  change journaled.line.received.length = counters.spent + poller.line.waiting.length
  omega

end Poller

end MeterPoll
