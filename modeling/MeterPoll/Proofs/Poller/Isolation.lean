import MeterPoll.Proofs.Poller.Conservation
import MeterPoll.Proofs.Poller.Legible
import MeterPoll.Proofs.Poller.Provenance
import MeterPoll.Proofs.Poller.Staleness
import MeterPoll.Proofs.Poller.Verdict
import MeterPoll.Proofs.Reply.RoundTrip

/-!
# Registers do not disturb one another

When a request goes out, the meter is between two frames and its receive queue is empty, whatever
it answered before and whatever noise came in. So what the queue holds after the request is the
answer of the register that was asked (`Poller.Legible.bytes_slowTick`), and the look that follows
comes to what its mode and its content say (`Poller.isolation_run`).
-/

namespace MeterPoll

namespace Collected

/-- What the content of a register comes to when it arrives as it is. -/
def intact (register : Register) (noise : UInt32) (raw : UInt32) : Collected :=
  .accepted register.quantity (raw % 0x1000000) (register.value (raw % 0x1000000) noise)

/-- What the answer of a register in a mode comes to, given its content if it has one. -/
def inMode (register : Register) (noise : UInt32) : ReplyMode → Option UInt32 → Collected
  | .raw bytes, _ => .ofBytes register noise bytes
  | _, none => .waiting 0
  | .silent, some _ => .waiting 0
  | .respond, some raw => .intact register noise raw
  | .corrupt, some raw =>
    let check := (Reply.encode register.address raw).check
    .rejected (.checksum register.address ⟨check, ~~~check⟩)
  | .truncate length, some raw =>
    if length < Frame.replyLength then .waiting length else .intact register noise raw

variable {register : Register} {noise : UInt32}

/-- What bytes come to depends on those of one reply alone. -/
theorem ofBytes_take {bytes : List UInt8} {count : Nat} (enough : Frame.replyLength ≤ count) :
    ofBytes register noise (bytes.take count) = ofBytes register noise bytes := by
  by_cases short : bytes.length < Frame.replyLength
  · rw [List.take_of_length_le (Nat.le_trans (Nat.le_of_lt short) enough)]
  · obtain ⟨reply, rest, rfl⟩ := Reply.exists_toList_append (Nat.le_of_not_lt short)
    rw [List.take_append, List.take_of_length_le enough, ofBytes_append, ofBytes_append]

/-- The right reply of a register comes to its content. -/
theorem ofBytes_encode (raw : UInt32) :
    ofBytes register noise (Reply.encode register.address raw).toList =
      .intact register noise raw := by
  have decoded := Reply.decode_encode_eq register.address raw
  change ofReply register noise (Reply.encode register.address raw) = _
  rw [ofReply, decoded]
  rfl

/-- A reply with a wrong checksum is rejected, and the fault names both checksums. -/
theorem ofBytes_corrupt (raw : UInt32) :
    ofBytes register noise (Reply.encode register.address raw).corrupt.toList =
      .inMode register noise .corrupt (some raw) := by
  have wrong (check : UInt8) : check ≠ ~~~check := by simp
  have decoded : (Reply.encode register.address raw).corrupt.decode register.address =
      .error ⟨(Reply.encode register.address raw).check,
        ~~~(Reply.encode register.address raw).check⟩ := if_neg (wrong _)
  change ofReply register noise (Reply.encode register.address raw).corrupt = _
  rw [ofReply, decoded]
  rfl

/-- What the answer of a register comes to is said by its mode. -/
theorem ofBytes_answer (mode : ReplyMode) (content? : Option UInt32) :
    ofBytes register noise (mode.answer register.address content?) =
      .inMode register noise mode content? := by
  cases content? with
  | none => cases mode <;> rfl
  | some raw =>
      cases mode with
      | raw bytes => rfl
      | silent => rfl
      | respond => exact ofBytes_encode raw
      | corrupt => exact ofBytes_corrupt raw
      | truncate length =>
          change ofBytes register noise ((Reply.encode register.address raw).toList.take length) =
            if length < Frame.replyLength then _ else _
          split_ifs with short
          · have cut : ((Reply.encode register.address raw).toList.take length).length = length :=
              List.length_take_of_le (Nat.le_of_lt short)
            rw [ofBytes_of_short (by rwa [cut]), cut]
          · rw [ofBytes_take (Nat.le_of_not_lt short), ofBytes_encode]

end Collected

namespace Meter

/-- What can become of a meter to which no bytes are sent: its registers and modes and what it has
received may change, but not the frame it is in, nor how it delivers answers. -/
structure Unfed (before after : Meter) : Prop where
  inbox : after.inbox = before.inbox
  immediate : after.immediate = before.immediate
  capacity : after.queue.capacity = before.queue.capacity

/-- No handling of a meter sends it bytes. -/
theorem unfed_apply (handling : Handling) (meter : Meter) :
    meter.Unfed (handling.apply meter).line := by
  cases handling <;> exact ⟨rfl, rfl, rfl⟩

/-- A meter that delivers answers at once, into a queue that has room for a reply. -/
structure Prompt (meter : Meter) : Prop where
  immediate : meter.immediate = true
  roomy : Frame.replyLength ≤ meter.queue.capacity

variable {meter : Meter}

/-- Frames do not change how a meter delivers its answers. -/
theorem Prompt.send (prompt : meter.Prompt) (frame : List UInt8) :
    (Line.send meter frame).line.Prompt where
  immediate := (meter.immediate_send frame).trans prompt.immediate
  roomy := by
    rw [meter.send_withQueue meter.queue frame]
    exact prompt.roomy

/-- A meter stays prompt whatever a poller does on the line. -/
theorem books_prompt : Line.Books fun (meter : Meter) _ => meter.Prompt where
  send prompt := prompt.send
  available prompt := prompt
  discardAll prompt := ⟨prompt.immediate, prompt.roomy⟩
  consume prompt _ := ⟨prompt.immediate, prompt.roomy⟩

end Meter

namespace Poller

variable {ε : Type} {handle : ε → Meter → Meter.Done}

/-- A meter goes on telling the frames apart, and is never left within one. -/
theorem preserved_legible
    (unfed : ∀ event (meter : Meter), meter.Unfed (handle event meter).line) :
    Preserved handle Legible where
  collected _ legible := legible.collect
  counted _ _ legible := legible.same rfl rfl rfl
  acted _ legible := legible.act
  started _ legible := legible.start
  calibrated _ _ _ legible addresses := legible.same rfl rfl addresses
  handled poller event legible := legible.same (unfed event poller.line).inbox rfl rfl

theorem preserved_prompt
    (unfed : ∀ event (meter : Meter), meter.Unfed (handle event meter).line) :
    Preserved handle fun poller => poller.line.Prompt :=
  preserved_booked Meter.books_prompt fun event meter _ prompt =>
    ⟨(unfed event meter).immediate.trans prompt.immediate,
      Nat.le_trans prompt.roomy (Nat.le_of_eq (unfed event meter).capacity.symm)⟩

section Requested

variable {poller : Poller Meter} {address : UInt8} {retry : Bool} {abandoned : Option UInt8}

/-- A request throws away what was received and has the meter read the register. -/
theorem Legible.line_slowTick (legible : poller.Legible)
    (requested : poller.slowTick.1 = .ok (.requested address retry abandoned)) :
    poller.slowTick.2.progress.awaiting = true ∧
      poller.slowTick.2.register.address = address ∧
      poller.slowTick.2.line = (Meter.obey { poller.line with
        queue := poller.line.queue.clear
        sent := (Frame.request address).reverse ++ poller.line.sent } (.read address)).line := by
  have acted : poller.slowTick.1 ≠ .ok .skipped := by
    rw [requested]
    nofun
  have spells := legible.slowTick.request_eq.2
  rw [slowTick_of_acted acted] at requested spells ⊢
  obtain ⟨out, register, line⟩ := act_of_requested requested
  rw [register] at spells
  have between : { poller.line with queue := poller.line.queue.clear }.inbox = [] :=
    legible.between
  refine ⟨out, register, ?_⟩
  rw [line, line_discardAll_choose_looked, Meter.line_send spells between]

/-- After a request the receive queue holds what the register that was asked answers, in its mode
or the one that the script has for it. -/
theorem Legible.bytes_slowTick (legible : poller.Legible) (prompt : poller.line.Prompt)
    (requested : poller.slowTick.1 = .ok (.requested address retry abandoned)) :
    poller.slowTick.2.progress.awaiting = true ∧
      poller.slowTick.2.register.address = address ∧
      poller.slowTick.2.line.queue.bytes =
        ((poller.line.modeFor address).answer address (poller.line.registers address)).take
          poller.line.queue.capacity := by
  obtain ⟨out, register, line⟩ := legible.line_slowTick requested
  refine ⟨out, register, ?_⟩
  rw [line, Meter.line_obey_read]
  simp only [Meter.atOnce, prompt.immediate, if_true, Meter.answers, List.append_nil]
  exact List.nil_append _

/-- A look right after a request finds what the mode of the register asked says. -/
theorem Legible.answer_fastTick (legible : poller.Legible) (prompt : poller.line.Prompt)
    (requested : poller.slowTick.1 = .ok (.requested address retry abandoned)) :
    ∃ register, poller.table.byAddress? address = some register ∧
      poller.slowTick.2.fastTick.1 = .inMode register poller.options.noise
        (poller.line.modeFor address) (poller.line.registers address) := by
  obtain ⟨out, register, bytes⟩ := legible.bytes_slowTick prompt requested
  have found := poller.slowTick.2.table.byAddress?_get poller.slowTick.2.progress.index
  refine ⟨poller.slowTick.2.register, ?_, ?_⟩
  · rw [← register, ← poller.table_readings_slowTick.1]
    exact found
  · calc poller.slowTick.2.collect.1
      _ = .ofBytes poller.slowTick.2.register poller.options.noise
          (((poller.line.modeFor address).answer address (poller.line.registers address)).take
            poller.line.queue.capacity) := by
        rw [answer_collect out, poller.ticks_options_slowTick.2, bytes]
      _ = .ofBytes poller.slowTick.2.register poller.options.noise
          ((poller.line.modeFor address).answer poller.slowTick.2.register.address
            (poller.line.registers address)) := by
        rw [Collected.ofBytes_take prompt.roomy, register]
      _ = _ := Collected.ofBytes_answer _ _

end Requested

/-- **Registers do not disturb one another.** Let a poller run on a meter that delivers answers at
once, into a queue that has room for a reply, and to which nobody else sends bytes, with unlock
frames for the register through which writes are unlocked and no request for it. Whatever the
registers answered before and whatever noise came in, when a request goes out and no script stands
in for the mode of its register, the look that follows comes to what the mode and the content of
that register say. -/
theorem isolation_run {ε : Type} (handle : ε → Meter → Meter.Done)
    (unfed : ∀ event (meter : Meter), meter.Unfed (handle event meter).line) {meter : Meter}
    (between : meter.inbox = []) (prompt : meter.Prompt) {table : Table}
    (reads : Frame.unlockRegister ∉ table.addresses) {options : Options}
    (unlocks : options.unlock.register = Frame.unlockRegister) (moves : List (Move ε)) :
    let poller := (new meter table options).run handle moves
    ∀ address retry abandoned, poller.line.script = [] →
      poller.slowTick.1 = .ok (.requested address retry abandoned) →
      ∃ register, poller.table.byAddress? address = some register ∧
        poller.slowTick.2.fastTick.1 = .inMode register options.noise
          (poller.line.modes address) (poller.line.registers address) := by
  intro poller address retry abandoned unscripted requested
  have legible : poller.Legible :=
    (preserved_legible unfed).run ⟨between, unlocks, reads⟩ moves
  have ready : poller.line.Prompt := (preserved_prompt unfed).run prompt moves
  have kept : poller.options = options.atLeastOne := options_run _ moves
  have mode : poller.line.modeFor address = poller.line.modes address := by
    unfold Meter.modeFor
    rw [unscripted]
    rfl
  obtain ⟨register, found, answer⟩ := legible.answer_fastTick ready requested
  rw [kept, mode] at answer
  exact ⟨register, found, answer⟩

/-- The current register sends junk until it is given up, with noise on the line. -/
theorem isolation_run_junk :
    let moves : List (Move Handling) := [.line (.setMode 0x06 (.raw [0x6A, 0x52])), .start,
      .slowTick, .fastTick, .slowTick, .slowTick, .slowTick, .line (.inject [0xFF])]
    let poller := (new Meter.reference .reference .standard).run Handling.apply moves
    poller.line.script = [] ∧
      poller.slowTick.1 = .ok (.requested 0x09 false (some 0x06)) ∧
      ∃ register, poller.table.byAddress? 0x09 = some register ∧
        poller.slowTick.2.fastTick.1 = .intact register 0 5000 := by
  intro moves poller
  have script : poller.line.script = [] := by decide +kernel
  have asked : poller.slowTick.1.toOption = some (.requested 0x09 false (some 0x06)) := by
    decide +kernel
  have mode : poller.line.modes 0x09 = .respond := by decide +kernel
  have content : poller.line.registers 0x09 = some 5000 := by decide +kernel
  have prompt : Meter.reference.Prompt := ⟨rfl, by decide⟩
  have reads : Frame.unlockRegister ∉ Table.reference.addresses := by decide
  have unlocks : Options.standard.unlock.register = Frame.unlockRegister := rfl
  have isolated := isolation_run Handling.apply (fun event meter => meter.unfed_apply event) rfl
    prompt reads unlocks moves
  -- From here on the state of the poller is not to be computed any more.
  have reached : (new Meter.reference .reference .standard).run Handling.apply moves = poller := rfl
  rw [reached] at isolated
  clear_value poller
  have requested : poller.slowTick.1 = .ok (.requested 0x09 false (some 0x06)) := by
    cases answer : poller.slowTick.1 with
    | error fault => rw [answer] at asked; cases asked
    | ok tick => rw [answer] at asked; cases asked; rfl
  have look := isolated 0x09 false (some 0x06) script requested
  rw [mode, content] at look
  exact ⟨script, requested, look⟩

end Poller

end MeterPoll
