import MeterPoll.Proofs.Meter.Frames
import MeterPoll.Proofs.Poller.Cadence
import MeterPoll.Proofs.Poller.FastTicks

/-!
# A dead line

A line may take every frame and never have anything to read (`Line.Dead`). On such a line every
request is missed, so each register has all its tries and then gives way to the next one. The number
of requests says where the poller is in the rotation and what it has counted
(`Poller.Fruitless`), whichever turns the unlock frames take (`Poller.run_of_dead`).
-/

namespace MeterPoll

variable {σ ε : Type}

/-- Lines in these states are dead: they take every frame, nothing is received on them, and they
stay dead whatever a poller does with them. -/
structure Line.Dead [Line σ] (dead : σ → Prop) : Prop where
  takes : ∀ {line}, dead line → ∀ frame, (Line.send line frame).answer = .ok ()
  silent : ∀ {line}, dead line → (Line.available line).answer = 0
  send : ∀ {line}, dead line → ∀ frame, dead (Line.send line frame).line
  available : ∀ {line}, dead line → dead (Line.available line).line
  discardAll : ∀ {line}, dead line → dead (Line.discardAll line).line

/-- A meter whose answers are held back, as long as nothing is delivered. -/
def Meter.Mute (meter : Meter) : Prop :=
  meter.immediate = false ∧ meter.queue.bytes = []

/-- A meter whose answers are held back is a dead line. -/
theorem Meter.dead_mute : Line.Dead Meter.Mute where
  takes {meter} _ frame := meter.answer_send frame
  silent mute := congrArg List.length mute.2
  send {meter} mute frame := by
    refine ⟨(meter.immediate_send frame).trans mute.1, ?_⟩
    have held : meter.atOnce (meter.answerTo frame) = [] := by
      rw [Meter.atOnce, mute.1]
      rfl
    rw [meter.send_withQueue meter.queue frame, held, Queue.push_nil]
    exact mute.2
  available mute := mute
  discardAll {meter} mute := by
    rw [Meter.discardAll_eq]
    exact ⟨mute.1, rfl⟩

/-- One more try at the same register. -/
theorem div_mod_succ_of_lt {tries maxRetries : Nat} (left : tries % maxRetries + 1 < maxRetries) :
    (tries + 1) / maxRetries = tries / maxRetries ∧
      (tries + 1) % maxRetries = tries % maxRetries + 1 := by
  have whole := Nat.mod_add_div tries maxRetries
  refine (Nat.div_mod_unique (Nat.zero_lt_of_lt left)).mpr ⟨?_, left⟩
  omega

/-- The last try at a register. -/
theorem div_mod_succ_of_le {tries maxRetries : Nat} (positive : 0 < maxRetries)
    (spent : maxRetries ≤ tries % maxRetries + 1) :
    (tries + 1) / maxRetries = tries / maxRetries + 1 ∧ (tries + 1) % maxRetries = 0 := by
  have whole := Nat.mod_add_div tries maxRetries
  have small := Nat.mod_lt tries positive
  refine (Nat.div_mod_unique positive).mpr ⟨?_, positive⟩
  rw [Nat.mul_succ]
  omega

namespace Poller

/-- The request that a tick of the scheduler sent: its place in the table, its register, and
whether it is a retry. -/
def requestOf? : Except Fault Tick × Poller σ → Option (Nat × UInt8 × Bool)
  | (.ok (.requested register retry _), after) => some (after.progress.index, register, retry)
  | (.ok .unlocked, _) | (.ok .skipped, _) | (.error _, _) => none

/-- The request with this number, counted from zero, if none is ever answered. -/
def tryOf (table : Table) (maxRetries number : Nat) : Nat × UInt8 × Bool :=
  (number / maxRetries % table.length, (table.get (number / maxRetries)).address,
    decide (number % maxRetries ≠ 0))

variable {table : Table} {maxRetries interval before turns : Nat} {dead : σ → Prop}
  {poller after : Poller σ}

/-- Nothing came back so far: every so many misses a register was given up, and there are no
readings. -/
structure Fruitless (table : Table) (maxRetries : Nat) (dead : σ → Prop) (poller : Poller σ) :
    Prop where
  line : dead poller.line
  addresses : poller.table.addresses = table.addresses
  settings : poller.options.maxRetries = maxRetries
  abandoned : poller.progress.counters.abandoned = poller.progress.counters.misses / maxRetries
  consecutive : poller.progress.consecutive = poller.progress.counters.misses % maxRetries
  readings : poller.readings = .zero

/-- Where a fruitless poller is between two turns. -/
structure Waits (table : Table) (maxRetries : Nat) (dead : σ → Prop) (poller : Poller σ) :
    Prop extends Fruitless table maxRetries dead poller where
  outstanding : poller.progress.counters.misses + poller.progress.awaiting.toNat =
    poller.progress.counters.tx
  serving : (poller.progress.awaiting || poller.resume) = true →
    poller.progress.index = poller.progress.counters.misses / maxRetries % table.length
  fresh : (poller.progress.awaiting || poller.resume) = false →
    poller.progress.counters.tx = 0 ∧ table.next poller.progress.index = 0

/-- Where a fruitless poller is once it has chosen the register for its next request. -/
structure Chose (table : Table) (maxRetries : Nat) (dead : σ → Prop) (poller : Poller σ) :
    Prop extends Fruitless table maxRetries dead poller where
  calm : poller.progress.awaiting = false
  missed : poller.progress.counters.misses = poller.progress.counters.tx
  index : poller.progress.index = poller.progress.counters.tx / maxRetries % table.length

/-- A new poller waits for its first turn. -/
theorem waits_new (line : σ) (dies : dead line) (table : Table) (options : Options) :
    (new line table options).Waits table options.atLeastOne.maxRetries dead where
  line := dies
  addresses := rfl
  settings := rfl
  abandoned := (Nat.zero_div _).symm
  consecutive := (Nat.zero_mod _).symm
  readings := rfl
  outstanding := rfl
  serving busy := absurd busy Bool.false_ne_true
  fresh _ := by
    have last : table.length - 1 + 1 = table.length := Nat.sub_add_cancel table.length_pos
    refine ⟨rfl, ?_⟩
    change (table.length - 1 + 1) % table.length = 0
    rw [last, Nat.mod_self]

variable [Line σ]

/-- A look for a reply finds nothing. -/
theorem Waits.collect (waits : poller.Waits table maxRetries dead) (lines : Line.Dead dead) :
    poller.collect.2.Waits table maxRetries dead := by
  have silent := lines.silent waits.line
  have effect := poller.collectEffect
  generalize poller.collect = result at effect ⊢
  cases effect with
  | idle => exact waits
  | waiting => exact { waits with line := lines.available waits.line }
  | accepted reply raw log out enough =>
      rw [silent] at enough
      exact absurd enough (by decide)
  | rejected reply mismatch log out enough =>
      rw [silent] at enough
      exact absurd enough (by decide)

theorem Waits.looked (waits : poller.Waits table maxRetries dead) (lines : Line.Dead dead) :
    poller.looked.Waits table maxRetries dead :=
  { waits.collect lines with }

/-- Starting finds nothing to throw away. -/
theorem Waits.start (waits : poller.Waits table maxRetries dead) (lines : Line.Dead dead) :
    poller.start.2.Waits table maxRetries dead := by
  have emptied := lines.discardAll waits.line
  have effect := poller.startEffect
  generalize poller.start = result at effect ⊢
  cases effect with
  | plain => exact { waits with line := emptied }
  | unlocking before after result asked effect =>
      cases effect with
      | sent => exact { waits with line := lines.send emptied _ }
      | unsent => exact { waits with line := lines.send emptied _ }

omit [Line σ] in
/-- With a request out, all but one of the requests were missed. -/
theorem Waits.of_out (waits : poller.Waits table maxRetries dead)
    (out : poller.progress.awaiting = true) :
    poller.progress.counters.misses + 1 = poller.progress.counters.tx ∧
      poller.progress.index = poller.progress.counters.misses / maxRetries % table.length := by
  have outstanding := waits.outstanding
  rw [out, Bool.toNat_true] at outstanding
  exact ⟨outstanding, waits.serving (by rw [out, Bool.true_or])⟩

omit [Line σ] in
/-- With no request out, all of them were missed. -/
theorem Waits.of_calm (waits : poller.Waits table maxRetries dead)
    (calm : poller.progress.awaiting = false) :
    poller.progress.counters.misses = poller.progress.counters.tx := by
  have outstanding := waits.outstanding
  rwa [calm, Bool.toNat_false, Nat.add_zero] at outstanding

/-- The request that is out is missed, and the next one is for the register that has tries left. -/
theorem Waits.choose (waits : poller.Waits table maxRetries dead) (lines : Line.Dead dead)
    (positive : 0 < maxRetries) : poller.choose.2.Chose table maxRetries dead := by
  have consecutive := waits.consecutive
  have abandoned := waits.abandoned
  have settings := waits.settings
  have next := Table.next_eq_of_addresses waits.addresses poller.progress.index
  have effect := poller.chooseEffect
  generalize poller.choose = result at effect ⊢
  cases effect with
  | gaveUp log out spent =>
      obtain ⟨outstanding, index⟩ := waits.of_out out
      rw [settings, consecutive] at spent
      obtain ⟨quotient, rest⟩ := div_mod_succ_of_le positive spent
      exact { waits.toFruitless with
        line := lines.discardAll waits.line
        abandoned := by
          change poller.progress.counters.abandoned + 1 = (_ + 1) / maxRetries
          rw [quotient, abandoned]
        consecutive := rest.symm
        calm := rfl
        missed := outstanding
        index := by
          change poller.table.next poller.progress.index =
            poller.progress.counters.tx / maxRetries % table.length
          rw [next, ← outstanding, quotient, index]
          exact Nat.mod_add_mod .. }
  | retrying log out left =>
      obtain ⟨outstanding, index⟩ := waits.of_out out
      rw [settings, consecutive] at left
      obtain ⟨quotient, rest⟩ := div_mod_succ_of_lt left
      exact { waits.toFruitless with
        line := lines.discardAll waits.line
        abandoned := by
          change poller.progress.counters.abandoned = (_ + 1) / maxRetries
          rw [quotient, abandoned]
        consecutive := by
          change poller.progress.consecutive + 1 = (_ + 1) % maxRetries
          rw [rest, consecutive]
        calm := rfl
        missed := outstanding
        index := by
          change poller.progress.index =
            poller.progress.counters.tx / maxRetries % table.length
          rw [← outstanding, quotient, index] }
  | resumed calm held =>
      have missed := waits.of_calm calm
      have index := waits.serving (by rw [held, Bool.or_true])
      exact { waits.toFruitless with
        calm, missed
        index := by rw [index, missed] }
  | advanced calm free =>
      have missed := waits.of_calm calm
      obtain ⟨first, wraps⟩ := waits.fresh (by rw [calm, free, Bool.or_false])
      have none : poller.progress.counters.misses = 0 := missed.trans first
      exact { waits.toFruitless with
        consecutive := by
          change 0 = poller.progress.counters.misses % maxRetries
          rw [none, Nat.zero_mod]
        calm, missed
        index := by
          change poller.table.next poller.progress.index =
            poller.progress.counters.tx / maxRetries % table.length
          rw [next, wraps, first, Nat.zero_div, Nat.zero_mod] }

/-- What a turn of the scheduler comes to if nothing ever comes back, when there were so many turns
and requests before it. -/
structure DeadTurn (table : Table) (maxRetries interval before turns requests : Nat)
    (dead : σ → Prop) (turn : Except Fault Tick × Poller σ) : Prop where
  waits : turn.2.Waits table maxRetries dead
  cadence : turn.2.Cadence interval before (turns + 1)
  unlocked : turn.1 = .ok .unlocked ↔ UnlocksAt interval turns
  requested : (List.range requests).map (tryOf table maxRetries) ++ (requestOf? turn).toList =
    (List.range turn.2.progress.counters.tx).map (tryOf table maxRetries)

/-- A turn for the unlock frame puts the chosen register off. -/
theorem Chose.unlocked (chose : poller.Chose table maxRetries dead) (lines : Line.Dead dead)
    (cadence : poller.Cadence interval before turns) (due : poller.unlockDue = true)
    {log : List Event} {result : Except Fault Unit × Poller σ}
    (effect : UnlockEffect { poller.emptied log with resume := true } result) :
    result.1 = .ok () ∧ DeadTurn table maxRetries interval before turns
      poller.progress.counters.tx dead (.ok .unlocked, result.2) := by
  have emptied := lines.discardAll chose.line
  have turn := cadence.unlockDue_iff.mp due
  cases effect with
  | unsent fault log refused => cases refused.symm.trans (lines.takes emptied _)
  | sent log taken =>
      exact ⟨rfl, {
        waits := { chose.toFruitless with
          line := lines.send emptied _
          outstanding := by
            change poller.progress.counters.misses + poller.progress.awaiting.toNat =
              poller.progress.counters.tx
            rw [chose.calm]
            exact chose.missed
          serving := fun _ => by
            change poller.progress.index =
              poller.progress.counters.misses / maxRetries % table.length
            rw [chose.index, chose.missed]
          fresh := fun free => absurd free (by
            change (poller.progress.awaiting || true) ≠ false
            rw [Bool.or_true]
            decide) }
        cadence := cadence.unlocked due rfl rfl rfl rfl
        unlocked := iff_of_true rfl turn
        requested := List.append_nil _ }⟩

/-- A turn that is not for the unlock frame asks the chosen register. -/
theorem Chose.requested (chose : poller.Chose table maxRetries dead) (lines : Line.Dead dead)
    (cadence : poller.Cadence interval before turns) (undue : poller.unlockDue = false)
    {choice : Choice} (retry : choice.retry = decide (0 < poller.progress.consecutive))
    {result : Except Fault Tick × Poller σ}
    (effect : RequestEffect choice { poller with resume := false } result) :
    DeadTurn table maxRetries interval before turns poller.progress.counters.tx dead result := by
  have emptied := lines.discardAll chose.line
  have turn : ¬ UnlocksAt interval turns := by
    rw [← cadence.unlockDue_iff, undue]
    exact Bool.false_ne_true
  have asked : (poller.progress.index, poller.register.address, choice.retry) =
      tryOf table maxRetries poller.progress.counters.tx := by
    have address := Table.address_get_eq_of_addresses chose.addresses poller.progress.index
    have consecutive := chose.consecutive
    rw [chose.missed] at consecutive
    rw [tryOf, retry, consecutive, ← Table.get_mod, ← chose.index, ← address]
    simp only [Nat.pos_iff_ne_zero]
    rfl
  cases effect with
  | unsent fault log refused => cases refused.symm.trans (lines.takes emptied _)
  | sent log taken =>
      exact {
        waits := { chose.toFruitless with
          line := lines.send emptied _
          outstanding := congrArg (· + 1) chose.missed
          serving := fun _ => by
            change poller.progress.index =
              poller.progress.counters.misses / maxRetries % table.length
            rw [chose.index, chose.missed]
          fresh := fun free => absurd free.symm Bool.false_ne_true }
        cadence := cadence.requested undue rfl rfl rfl rfl
        unlocked := iff_of_false nofun turn
        requested := by
          change _ ++ [(poller.progress.index, poller.register.address, choice.retry)] =
            (List.range (poller.progress.counters.tx + 1)).map (tryOf table maxRetries)
          rw [List.range_succ, List.map_append, List.map_singleton, asked] }

/-- A turn of the scheduler on a dead line. -/
theorem Waits.act (waits : poller.Waits table maxRetries dead) (lines : Line.Dead dead)
    (positive : 0 < maxRetries) (cadence : poller.Cadence interval before turns) :
    DeadTurn table maxRetries interval before turns poller.progress.counters.tx dead
      poller.act := by
  have chose := waits.choose lines positive
  have paced := cadence.choose
  have retry := poller.retry_choose
  have effect := poller.actEffect
  rw [← poller.steady_choose.tx]
  generalize poller.act = result at effect ⊢
  generalize poller.choose = choice at *
  cases effect with
  | unlocked log onward due effect => exact (chose.unlocked lines paced due effect).2
  | unlockFailed log fault onward due effect =>
      cases (chose.unlocked lines paced due effect).1
  | asked result undue effect => exact chose.requested lines paced undue retry effect

/-- A tick on a dead line is a turn if every tick is one. -/
theorem Waits.slowTick (waits : poller.Waits table maxRetries dead) (lines : Line.Dead dead)
    (positive : 0 < maxRetries) (every : poller.options.requestEvery = 1)
    (cadence : poller.Cadence interval before turns) :
    DeadTurn table maxRetries interval before turns poller.progress.counters.tx dead
      poller.slowTick := by
  have acts : poller.acts = true := by
    rw [acts, every, Nat.mod_one]
    rfl
  have tx : poller.looked.progress.counters.tx = poller.progress.counters.tx :=
    poller.steady_collect.tx
  rw [slowTick_eq, if_pos acts, ← tx]
  exact (waits.looked lines).act lines positive cadence.looked

variable {handle : ε → σ → Served σ Unit}

/-- Nothing but a tick changes what a fruitless poller waits for. -/
theorem lasting_waits (lines : Line.Dead dead)
    (handles : ∀ event line, dead line → dead (handle event line).line) :
    Lasting handle (Waits table maxRetries dead) where
  collected _ waits := waits.collect lines
  counted _ _ waits := { waits with }
  started _ waits := waits.start lines
  calibrated _ _ _ waits same := { waits with addresses := same.trans waits.addresses }
  handled _ event waits := { waits with line := handles event _ waits.line }

/-- What comes before the first tick changes nothing either. -/
theorem Waits.opened (waits : poller.Waits table maxRetries dead) (lines : Line.Dead dead)
    (handles : ∀ event line, dead line → dead (handle event line).line)
    {opening : List (Move ε)} (unticked : ∀ move ∈ opening, move ≠ .slowTick) :
    (poller.run handle opening).Waits table maxRetries dead := by
  induction opening generalizing poller with
  | nil => exact waits
  | cons move rest ih =>
      obtain ⟨first, others⟩ := List.forall_mem_cons.mp unticked
      exact ih ((lasting_waits lines handles).perform waits move fun slow => absurd slow first)
        others

/-- What the calls of the scheduler come to on a run if nothing ever comes back. -/
structure DeadRun (table : Table) (maxRetries interval before turns requests : Nat)
    (dead : σ → Prop) (calls : List (Except Fault Tick × Poller σ)) (after : Poller σ) : Prop where
  waits : after.Waits table maxRetries dead
  cadence : after.Cadence interval before (turns + calls.length)
  unlocked : ∀ (call : Nat) (inside : call < calls.length),
    calls[call].1 = .ok .unlocked ↔ UnlocksAt interval (turns + call)
  requested : (List.range requests).map (tryOf table maxRetries) ++ calls.filterMap requestOf? =
    (List.range after.progress.counters.tx).map (tryOf table maxRetries)

omit [Line σ] in
/-- A turn in front of a run of turns makes a run of turns. -/
theorem DeadTurn.run {requests : Nat} {turn : Except Fault Tick × Poller σ}
    {calls : List (Except Fault Tick × Poller σ)}
    (first : DeadTurn table maxRetries interval before turns requests dead turn)
    (rest : DeadRun table maxRetries interval before (turns + 1) turn.2.progress.counters.tx dead
      calls after) :
    DeadRun table maxRetries interval before turns requests dead (turn :: calls) after where
  waits := rest.waits
  cadence := by
    rw [List.length_cons, Nat.add_comm calls.length, ← Nat.add_assoc]
    exact rest.cadence
  unlocked call inside := by
    cases call with
    | zero => exact first.unlocked
    | succ call =>
        have later := rest.unlocked call (Nat.lt_of_succ_lt_succ inside)
        rw [Nat.add_assoc, Nat.add_comm 1] at later
        exact later
  requested :=
    calc (List.range requests).map (tryOf table maxRetries) ++
        (turn :: calls).filterMap requestOf?
      _ = (List.range requests).map (tryOf table maxRetries) ++ (requestOf? turn).toList ++
          calls.filterMap requestOf? := by
        rw [List.append_assoc]
        cases asked : requestOf? turn with
        | none => rw [List.filterMap_cons_none asked]; rfl
        | some request => rw [List.filterMap_cons_some asked]; rfl
      _ = _ := by rw [first.requested, rest.requested]

/-- A run on a dead line is a run of turns. -/
theorem Waits.run (waits : poller.Waits table maxRetries dead) (lines : Line.Dead dead)
    (handles : ∀ event line, dead line → dead (handle event line).line)
    (positive : 0 < maxRetries) (every : poller.options.requestEvery = 1)
    (cadence : poller.Cadence interval before turns)
    {moves : List (Move ε)} (unstarted : ∀ move ∈ moves, move ≠ .start) :
    DeadRun table maxRetries interval before turns poller.progress.counters.tx dead
      (poller.scheduled handle moves) (poller.run handle moves) := by
  induction moves generalizing poller turns with
  | nil =>
      exact {
        waits, cadence
        unlocked := nofun
        requested := List.append_nil _ }
  | cons move rest ih =>
      obtain ⟨first, others⟩ := List.forall_mem_cons.mp unstarted
      have onward : (poller.perform handle move).options.requestEvery = 1 := by
        have kept : (poller.perform handle move).options = poller.options :=
          options_run poller [move]
        rw [kept, every]
      by_cases slow : move = .slowTick
      · subst slow
        have turn := waits.slowTick lines positive every cadence
        exact turn.run (ih turn.waits onward turn.cadence others)
      · have paced : (poller.perform handle move).Cadence interval before turns :=
          cadence.perform slow first
        have still : (poller.perform handle move).Waits table maxRetries dead :=
          (lasting_waits lines handles).perform waits move fun same => absurd same slow
        have skipped : poller.scheduled handle (move :: rest) =
            (poller.perform handle move).scheduled handle rest := by
          cases move with
          | slowTick => exact absurd rfl slow
          | _ => rfl
        have unasked : (poller.perform handle move).progress.counters.tx =
            poller.progress.counters.tx :=
          Nat.add_right_cancel (paced.requests.trans cadence.requests.symm)
        rw [skipped, ← unasked]
        exact ih still onward paced others

/-- **On a dead line everything is a function of the number of turns.** Let a line take every frame
and never have anything to read, and let a poller act on every tick of its scheduler. After its
start, whatever else happens in between, every turn after `interval` requests goes to an unlock
frame and every other turn to a request. Each register is asked for `maxRetries` times before the
next one is, in the order of the table, and all but its first request are retries. All requests but
one that may still be out are misses, every `maxRetries` misses give up a register, and no reading
changes. -/
theorem run_of_dead (lines : Line.Dead dead) (handle : ε → σ → Served σ Unit)
    (handles : ∀ event line, dead line → dead (handle event line).line) {line : σ}
    (dies : dead line) (table : Table) (options : Options) (every : options.requestEvery ≤ 1)
    (opening moves : List (Move ε)) (unticked : ∀ move ∈ opening, move ≠ .slowTick)
    (unstarted : ∀ move ∈ moves, move ≠ .start) :
    let opened := (new line table options).run handle opening
    let calls := opened.scheduled handle moves
    let poller := opened.run handle moves
    let progress := poller.progress
    let counters := progress.counters
    let maxRetries := options.atLeastOne.maxRetries
    let interval := options.unlock.interval
    counters.tx =
        calls.length - (if interval = 0 then 0 else calls.length / (interval + 1)) ∧
      (∀ (call : Nat) (inside : call < calls.length),
        calls[call].1 = .ok .unlocked ↔ 0 < interval ∧ interval + 1 ∣ call + 1) ∧
      calls.filterMap requestOf? = (List.range counters.tx).map (fun number =>
        (number / maxRetries % table.length, (table.get (number / maxRetries)).address,
          decide (number % maxRetries ≠ 0))) ∧
      counters.misses = counters.tx - (if progress.awaiting then 1 else 0) ∧
      counters.abandoned = counters.misses / maxRetries ∧
      progress.consecutive = counters.misses % maxRetries ∧
      poller.readings = .zero := by
  intro opened calls poller progress counters maxRetries interval
  have positive : 0 < maxRetries := Nat.le_max_right _ _
  obtain ⟨before, cadence⟩ : ∃ before, opened.Cadence interval before 0 :=
    (Cadence.new line table options).opened unticked
  have waits : opened.Waits table maxRetries dead :=
    (waits_new line dies table options).opened lines handles unticked
  have acts : opened.options.requestEvery = 1 := by
    have kept : opened.options = options.atLeastOne := options_run _ opening
    rw [kept]
    exact Nat.max_eq_right every
  have none : opened.progress.counters.tx = 0 := by
    have requests := cadence.requests
    rw [unlocksAmong_zero] at requests
    exact requests
  have run : DeadRun table maxRetries interval before 0 opened.progress.counters.tx dead calls
      poller := waits.run lines handles positive acts cadence unstarted
  obtain ⟨fruitless, paced, unlocked, requested⟩ := run
  rw [Nat.zero_add] at paced
  rw [none] at requested
  have outstanding := fruitless.outstanding
  refine ⟨Nat.eq_sub_of_add_eq paced.requests, ?_, requested, ?_, fruitless.abandoned,
    fruitless.consecutive, fruitless.readings⟩
  · intro call inside
    have turn := unlocked call inside
    rw [Nat.zero_add] at turn
    exact turn
  · change counters.misses + progress.awaiting.toNat = counters.tx at outstanding
    rw [← outstanding]
    cases progress.awaiting with
    | false => rfl
    | true => rfl

/-- A meter whose answers are held back is polled nine times. -/
theorem run_of_dead_mute :
    let options : Options := ⟨2, 1, 0, ⟨true, 3, Frame.unlockRegister, Frame.unlockKey⟩⟩
    let handle := fun mode (meter : Meter) => (⟨(), meter.addScript mode, []⟩ : Meter.Done)
    let opened :=
      (new Meter.reference.withManualDelivery .reference options).run handle [.start, .fastTick]
    let moves := [.slowTick, .fastTick, .slowTick, .slowTick, .line (.raw [0xFF]), .slowTick,
      .slowTick, .fastTick, .slowTick, .setScale .power 2.0, .slowTick, .slowTick, .slowTick]
    let calls := opened.scheduled handle moves
    let poller := opened.run handle moves
    Meter.reference.withManualDelivery.Mute ∧ options.requestEvery ≤ 1 ∧ calls.length = 9 ∧
      calls.filterMap requestOf? = [(0, 0x08, false), (0, 0x08, true), (1, 0x06, false),
        (1, 0x06, true), (2, 0x09, false), (2, 0x09, true), (3, 0x0A, false)] ∧
      poller.progress.counters.abandoned = poller.progress.counters.misses / 2 ∧
      poller.readings = .zero := by
  intro options handle opened moves calls poller
  have mute : Meter.reference.withManualDelivery.Mute := ⟨rfl, rfl⟩
  have nine : calls.length = 9 := rfl
  have described := run_of_dead Meter.dead_mute handle (fun _ _ mute => mute) mute .reference
    options (Nat.le_refl 1) [.start, .fastTick] moves (by simp) (by simp [moves])
  -- From here on the run is not to be computed any more.
  have start : (new Meter.reference.withManualDelivery .reference options).run handle
    [.start, .fastTick] = opened := rfl
  have called : opened.scheduled handle moves = calls := rfl
  have ended : opened.run handle moves = poller := rfl
  simp only [start, called, ended] at described
  clear_value calls poller
  obtain ⟨tx, -, requested, -, abandoned, -, readings⟩ := described
  rw [tx, nine] at requested
  exact ⟨mute, Nat.le_refl 1, nine, requested.trans (by decide +kernel), abandoned, readings⟩

end Poller

end MeterPoll
