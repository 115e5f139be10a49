import MeterPoll.Meter
import MeterPoll.Proofs.Poller.Order

/-!
# The rotation

A poller is always about to ask for what its history calls for (`Poller.Tracks`), so every history
is lawful, and the requests of a run are in the order of the table (`Poller.rotation_run`): the next
register has its turn after an answer, after the last try and after a request that could not be
sent, and the same register is asked again after every other miss, whatever comes in between.
-/

namespace MeterPoll

/-- The order in which registers have their turns, given the addresses of the table and how many
tries a register has. In all cases any number of unlock frames, sent or not, may lie in between. -/
structure History.Rotation (table : Table) (maxRetries : Nat) (history : History) : Prop where
  /-- Every request carries the address at its position. -/
  register : ∀ request ∈ history.requests,
    request.index < table.length ∧ request.register = (table.get request.index).address
  /-- The first request is for the first register and is no retry. -/
  first : ∀ later turn earlier, history = later ++ turn :: earlier → ¬ turn.IsUnlock →
    (∀ frame ∈ earlier, frame.IsUnlock) → turn.AsksFor 0 false
  /-- When the scheduler acts again, a request was accepted, rejected or missed. -/
  ended : ∀ later turn between request earlier,
    history = later ++ turn :: (between ++ .request request :: earlier) → request.fate ≠ .out
  /-- A burst has no more requests than a register has tries. -/
  tries : ∀ later earlier, history = later ++ earlier → earlier.attempts ≤ maxRetries
  /-- After an answer, or a miss on the last try, the next register has its turn. -/
  advance : ∀ later turn between request earlier,
    history = later ++ turn :: (between ++ .request request :: earlier) → ¬ turn.IsUnlock →
    (∀ frame ∈ between, frame.IsUnlock) →
    (request.fate = .accepted ∨ request.fate = .rejected ∨
      request.fate = .missed ∧ attempts (.request request :: earlier) = maxRetries) →
    turn.AsksFor (table.next request.index) false
  /-- After a miss on an earlier try the same register is asked again. -/
  again : ∀ later turn between request earlier,
    history = later ++ turn :: (between ++ .request request :: earlier) → ¬ turn.IsUnlock →
    (∀ frame ∈ between, frame.IsUnlock) →
    request.fate = .missed → attempts (.request request :: earlier) < maxRetries →
    turn.AsksFor request.index true
  /-- Right after a request that the line did not take the next register is asked. -/
  unsent : ∀ later turn index earlier, history = later ++ turn :: .unsent index :: earlier →
    turn.AsksFor (table.next index) false

/-- Lawful histories follow the rotation. -/
theorem History.Lawful.rotation {table : Table} {maxRetries : Nat} {history : History}
    (lawful : history.Lawful table maxRetries) (positive : 1 ≤ maxRetries) :
    history.Rotation table maxRetries where
  register _ := lawful.mem_requests
  first later turn earlier same asks unlocks := by
    rw [same] at lawful
    have due : due table maxRetries (earlier ++ []) = due table maxRetries [] :=
      due_append_unlocks unlocks
    have asked := lawful.of_append.asksFor asks
    rw [List.append_nil] at due
    rw [due] at asked
    exact asked
  ended later turn between request earlier same := by
    rw [same] at lawful
    exact lawful.of_append.ended_of_cons request
      (List.mem_filterMap.mpr ⟨.request request, by simp, rfl⟩)
  tries later earlier same := by
    rw [same] at lawful
    exact lawful.of_append.attempts_le positive
  advance later turn between request earlier same asks unlocks resolved := by
    rw [same] at lawful
    have asked := lawful.of_append.asksFor asks
    rw [due_append_unlocks unlocks] at asked
    have due : due table maxRetries (.request request :: earlier) =
        (table.next request.index, false) := by
      rcases resolved with fate | fate | ⟨fate, spent⟩
      · simp only [History.due, fate]
      · simp only [History.due, fate]
      · simp only [History.due, fate, spent, Nat.lt_irrefl, if_false]
    rw [due] at asked
    exact asked
  again later turn between request earlier same asks unlocks fate left := by
    rw [same] at lawful
    have asked := lawful.of_append.asksFor asks
    rw [due_append_unlocks unlocks] at asked
    have due : due table maxRetries (.request request :: earlier) = (request.index, true) := by
      simp only [History.due, fate, left, if_true]
    rw [due] at asked
    exact asked
  unsent later turn index earlier same := by
    rw [same] at lawful
    have step := lawful.of_append
    refine step.asksFor fun unlock => ?_
    cases step with
    | unlock sent _ _ free => exact free index earlier rfl
    | request => exact unlock
    | unsent => exact unlock

namespace Poller

variable {σ ε : Type}

/-- The position for which the next request will be and whether it will be a retry, if nothing is
received before. -/
def upcoming (poller : Poller σ) : Nat × Bool :=
  if poller.progress.awaiting then
    if poller.options.maxRetries ≤ poller.progress.consecutive + 1 then
      (poller.table.next poller.progress.index, false)
    else (poller.progress.index, true)
  else if poller.resume then (poller.progress.index, decide (0 < poller.progress.consecutive))
  else (poller.table.next poller.progress.index, false)

/-- The history of a poller with these addresses and options tells where it is in the rotation. -/
structure Tracks (table : Table) (options : Options) (poller : Poller σ) (history : History) :
    Prop where
  addresses : poller.table.addresses = table.addresses
  settings : poller.options = options
  lawful : history.Lawful table options.maxRetries
  upcoming : poller.upcoming = history.due table options.maxRetries
  inside : poller.progress.index < table.length
  calm : poller.progress.awaiting = false → history.Ended
  out : poller.progress.awaiting = true → poller.resume = false ∧
    poller.progress.consecutive + 1 = history.attempts ∧
      ∃ asked earlier, history = .request asked :: earlier ∧ asked.fate = .out ∧
        asked.index = poller.progress.index
  held : poller.resume = true → 0 < poller.progress.consecutive →
    poller.progress.consecutive = history.attempts
  /-- After a request that the line did not take comes a request. -/
  free : ∀ index earlier, history = .unsent index :: earlier → poller.unlockDue = false

variable {table : Table} {options : Options} {poller : Poller σ} {history : History}

/-- A new poller has the first register before it. -/
theorem tracks_new (line : σ) (table : Table) (options : Options) :
    Tracks table options.atLeastOne (new line table options) [] := by
  have size := table.length_pos
  have next : table.next (table.length - 1) = 0 := by
    rw [Table.next, Nat.sub_add_cancel size, Nat.mod_self]
  refine {
    addresses := rfl
    settings := rfl
    lawful := .nil
    upcoming := ?_
    inside := Nat.sub_lt size Nat.one_pos
    calm := ?_
    out := ?_
    held := ?_
    free := ?_ }
  · change (table.next (table.length - 1), false) = (0, false)
    rw [next]
  · intro _ request member
    exact absurd member List.not_mem_nil
  · intro out
    cases out
  · intro held
    cases held
  · intro index earlier same
    cases same

/-- An answer leaves the register behind and makes no other difference to the rotation. -/
theorem Tracks.answered (tracks : Tracks table options poller history) {after : Poller σ}
    {fate : Fate} (fates : fate = .accepted ∨ fate = .rejected)
    (out : poller.progress.awaiting = true) (addresses : after.table = poller.table)
    (settings : after.options = poller.options)
    (index : after.progress.index = poller.progress.index) (resume : after.resume = poller.resume)
    (ended : after.progress.awaiting = false) :
    Tracks table options after (history.settle fate) := by
  obtain ⟨free, _, asked, earlier, rfl, pending, here⟩ := tracks.out out
  have settled := History.settle_cons_request tracks.lawful.ended_of_cons pending fate
  have next := Table.next_eq_of_addresses tracks.addresses poller.progress.index
  refine {
    addresses := by rw [addresses, tracks.addresses]
    settings := by rw [settings, tracks.settings]
    lawful := tracks.lawful.settle fate
    upcoming := ?_
    inside := by rw [index]; exact tracks.inside
    calm := fun _ => History.ended_settle _ (by rcases fates with rfl | rfl <;> decide)
    out := fun still => absurd still (by rw [ended]; decide)
    held := fun held => absurd held (by rw [resume, free]; decide)
    free := fun _ _ same => by rw [settled] at same; cases same }
  rw [settled]
  rcases fates with rfl | rfl
  · simp only [Poller.upcoming, ended, resume, free, addresses, index, History.due, here, next,
      Bool.false_eq_true, if_false]
  · simp only [Poller.upcoming, ended, resume, free, addresses, index, History.due, here, next,
      Bool.false_eq_true, if_false]

/-- What is out is the request for the register that is being served. -/
theorem Tracks.exists_asked (tracks : Tracks table options poller history)
    (out : poller.progress.awaiting = true) :
    ∃ request earlier, history = .request request :: earlier ∧ request.fate = .out ∧
      request.register = poller.register.address := by
  obtain ⟨_, _, request, earlier, rfl, pending, here⟩ := tracks.out out
  have named := (tracks.lawful.mem_requests List.mem_cons_self).2
  refine ⟨request, earlier, rfl, pending, ?_⟩
  rw [named, here]
  exact (Table.address_get_eq_of_addresses tracks.addresses _).symm

/-- A request that the line did not take is not followed by an unlock frame, however the earlier
ones ended. -/
theorem Tracks.free_settle (tracks : Tracks table options poller history) (fate : Fate) :
    ∀ index earlier, history.settle fate = .unsent index :: earlier →
      poller.unlockDue = false := by
  intro index earlier same
  cases history with
  | nil => cases same
  | cons turn rest =>
      cases turn with
      | unsent attempted => exact tracks.free attempted rest rfl
      | request asked => cases same
      | unlock sent => cases same

/-- What a poller that has chosen a register is about to do. -/
structure Chosen (table : Table) (options : Options) (choice : Choice) (chosen : Poller σ)
    (history : History) : Prop where
  addresses : chosen.table.addresses = table.addresses
  settings : chosen.options = options
  lawful : history.Lawful table options.maxRetries
  ended : history.Ended
  due : (chosen.progress.index, choice.retry) = history.due table options.maxRetries
  inside : chosen.progress.index < table.length
  calm : chosen.progress.awaiting = false
  retry : choice.retry = decide (0 < chosen.progress.consecutive)
  tries : 0 < chosen.progress.consecutive → chosen.progress.consecutive = history.attempts
  free : ∀ index earlier, history = .unsent index :: earlier → chosen.unlockDue = false

/-- The same register is served, with the same misses. -/
structure Stays (before after : Poller σ) : Prop where
  table : after.table = before.table
  settings : after.options = before.options
  index : after.progress.index = before.progress.index
  misses : after.progress.consecutive = before.progress.consecutive

variable {choice : Choice} {chosen : Poller σ}

/-- A register that lost its turn to an unlock frame stays due. -/
theorem Chosen.unlock (facts : Chosen table options choice chosen history)
    (due : chosen.unlockDue = true) (sent : Bool) {after : Poller σ} (stays : chosen.Stays after)
    (awaiting : after.progress.awaiting = chosen.progress.awaiting) (held : after.resume = true) :
    Tracks table options after (.unlock sent :: history) := by
  have calm : after.progress.awaiting = false := by rw [awaiting, facts.calm]
  refine {
    addresses := by rw [stays.table, facts.addresses]
    settings := by rw [stays.settings, facts.settings]
    lawful := .unlock sent facts.lawful facts.ended fun attempted earlier same => ?_
    upcoming := ?_
    inside := by rw [stays.index]; exact facts.inside
    calm := fun _ => facts.ended
    out := fun out => absurd out (by rw [calm]; decide)
    held := fun _ => by rw [stays.misses]; exact facts.tries
    free := by intro index earlier same; cases same }
  · exact absurd due (by rw [facts.free attempted earlier same]; decide)
  · -- An unlock frame does not show in what the history calls for.
    change _ = history.due table options.maxRetries
    rw [← facts.due]
    simp only [Poller.upcoming, calm, held, stays.index, stays.misses, facts.retry,
      Bool.false_eq_true, if_true, if_false]

/-- A request that the line took is for the register that was due, and counts as one more try. -/
theorem Chosen.request (facts : Chosen table options choice chosen history) {after : Poller σ}
    (stays : chosen.Stays after) (out : after.progress.awaiting = true)
    (free : after.resume = false) :
    Tracks table options after (.request ⟨chosen.progress.index, chosen.register.address,
      choice.retry, .out⟩ :: history) := by
  have tries : chosen.progress.consecutive + 1 = History.attempts (.request
      ⟨chosen.progress.index, chosen.register.address, choice.retry, .out⟩ :: history) := by
    rw [History.attempts_cons_request, facts.retry]
    by_cases positive : 0 < chosen.progress.consecutive
    · have tries := facts.tries positive
      rw [if_pos (decide_eq_true positive)]
      omega
    · rw [if_neg (by simpa using positive)]
      omega
  have next : after.table.next chosen.progress.index = table.next chosen.progress.index := by
    rw [stays.table]
    exact Table.next_eq_of_addresses facts.addresses _
  refine {
    addresses := by rw [stays.table, facts.addresses]
    settings := by rw [stays.settings, facts.settings]
    lawful := .request _ facts.lawful facts.ended facts.due facts.inside
      (Table.address_get_eq_of_addresses facts.addresses _)
    upcoming := ?_
    inside := by rw [stays.index]; exact facts.inside
    calm := fun calm => absurd out (by rw [calm]; decide)
    out := fun _ =>
      ⟨free, by rw [stays.misses]; exact tries, _, history, rfl, rfl, stays.index.symm⟩
    held := fun held => absurd held (by rw [free]; decide)
    free := by intro index earlier same; cases same }
  simp only [Poller.upcoming, out, if_true, History.due, ← tries, stays.index, stays.misses,
    stays.settings, facts.settings, next]
  by_cases spent : options.maxRetries ≤ chosen.progress.consecutive + 1
  · rw [if_pos spent, if_neg (Nat.not_lt.mpr spent)]
  · rw [if_neg spent, if_pos (Nat.lt_of_not_le spent)]

/-- A register whose request the line does not take loses its turn. -/
theorem Chosen.unsent (facts : Chosen table options choice chosen history) {after : Poller σ}
    (stays : chosen.Stays after)
    (awaiting : after.progress.awaiting = chosen.progress.awaiting) (free : after.resume = false)
    (undue : after.unlockDue = false) :
    Tracks table options after (.unsent chosen.progress.index :: history) := by
  have calm : after.progress.awaiting = false := by rw [awaiting, facts.calm]
  have next : after.table.next chosen.progress.index = table.next chosen.progress.index := by
    rw [stays.table]
    exact Table.next_eq_of_addresses facts.addresses _
  refine {
    addresses := by rw [stays.table, facts.addresses]
    settings := by rw [stays.settings, facts.settings]
    lawful := .unsent _ facts.lawful facts.ended (congrArg Prod.fst facts.due)
    upcoming := ?_
    inside := by rw [stays.index]; exact facts.inside
    calm := fun _ => facts.ended
    out := fun out => absurd out (by rw [calm]; decide)
    held := fun held => absurd held (by rw [free]; decide)
    free := fun _ _ _ => undue }
  simp only [Poller.upcoming, calm, free, Bool.false_eq_true, if_false, stays.index, next,
    History.due]

variable [Line σ]

/-- A look for a reply settles the request that is out, and what is due changes with it. -/
theorem Tracks.look (tracks : Tracks table options poller history) :
    Tracks table options poller.collect.2 (history.look poller.collect.1) := by
  have effect := poller.collectEffect
  generalize poller.collect = result at effect ⊢
  cases effect with
  | idle => exact tracks
  | waiting => exact { tracks with }
  | accepted _ _ _ out => exact tracks.answered (.inl rfl) out rfl rfl rfl rfl rfl
  | rejected _ _ _ out => exact tracks.answered (.inr rfl) out rfl rfl rfl rfl rfl

/-- The register chosen is the one that is due, once what is out is missed. -/
theorem Tracks.choose (tracks : Tracks table options poller history) :
    Chosen table options poller.choose.1 poller.choose.2 (history.settle .missed) := by
  have effect := poller.chooseEffect
  have upcoming := tracks.upcoming
  have free := tracks.free_settle .missed
  have lawful := tracks.lawful.settle .missed
  have ended : (history.settle .missed).Ended := History.ended_settle history (by decide)
  have next := Table.next_eq_of_addresses tracks.addresses poller.progress.index
  have wraps (index : Nat) : table.next index < table.length := Nat.mod_lt _ table.length_pos
  generalize poller.choose = result at effect ⊢
  rw [← History.due_settle_missed] at upcoming
  cases effect with
  | gaveUp log out spent =>
      simp only [Poller.upcoming, out, spent, if_true] at upcoming
      exact {
        addresses := tracks.addresses
        settings := tracks.settings
        lawful, ended, free
        due := upcoming
        inside := by change poller.table.next poller.progress.index < _; rw [next]; exact wraps _
        calm := rfl
        retry := rfl
        tries := fun positive => absurd positive (Nat.lt_irrefl 0) }
  | retrying log out left =>
      obtain ⟨_, tries, _⟩ := tracks.out out
      simp only [Poller.upcoming, out, Nat.not_le.mpr left, if_true, if_false] at upcoming
      exact {
        addresses := tracks.addresses
        settings := tracks.settings
        lawful, ended, free
        due := upcoming
        inside := tracks.inside
        calm := rfl
        retry := (decide_eq_true (Nat.succ_pos poller.progress.consecutive)).symm
        tries := fun _ => by rw [History.attempts_settle]; exact tries }
  | resumed calm held =>
      simp only [Poller.upcoming, calm, held, Bool.false_eq_true, if_true, if_false] at upcoming
      exact {
        addresses := tracks.addresses
        settings := tracks.settings
        lawful, ended, free
        due := upcoming
        inside := tracks.inside
        calm := calm
        retry := rfl
        tries := fun positive => by rw [History.attempts_settle]; exact tracks.held held positive }
  | advanced calm unheld =>
      simp only [Poller.upcoming, calm, unheld, Bool.false_eq_true, if_false] at upcoming
      exact {
        addresses := tracks.addresses
        settings := tracks.settings
        lawful, ended, free
        due := upcoming
        inside := by change poller.table.next poller.progress.index < _; rw [next]; exact wraps _
        calm := calm
        retry := rfl
        tries := fun positive => absurd positive (Nat.lt_irrefl 0) }

/-- A turn puts on record what it did for the register that was due. -/
theorem Tracks.act (tracks : Tracks table options poller history) {turn : Turn}
    (taken : turnOf poller.unlockDue poller.act = some turn) :
    Tracks table options poller.act.2 (turn :: history.settle .missed) := by
  have facts := tracks.choose
  have effect := poller.actEffect
  rw [← poller.unlockDue_choose] at taken
  generalize poller.act = result at effect taken ⊢
  generalize poller.choose = choice at effect facts taken
  cases effect with
  | unlocked log onward due effect =>
      cases taken
      cases effect
      exact facts.unlock due true ⟨rfl, rfl, rfl, rfl⟩ rfl rfl
  | unlockFailed log fault onward due effect =>
      simp only [turnOf, due, if_true] at taken
      cases taken
      cases effect
      exact facts.unlock due false ⟨rfl, rfl, rfl, rfl⟩ rfl rfl
  | asked result undue effect =>
      cases effect with
      | sent log =>
          cases taken
          exact facts.request ⟨rfl, rfl, rfl, rfl⟩ rfl rfl
      | unsent fault log =>
          simp only [turnOf, undue, Bool.false_eq_true, if_false] at taken
          cases taken
          exact facts.unsent ⟨rfl, rfl, rfl, rfl⟩ rfl rfl undue

/-- Starting does not change what is due. -/
theorem Tracks.start (tracks : Tracks table options poller history) :
    Tracks table options poller.start.2 history := by
  have effect := poller.startEffect
  generalize poller.start = result at effect ⊢
  cases effect with
  | plain => exact { tracks with }
  | unlocking before after result asked effect =>
      cases effect with
      | unsent => exact { tracks with }
      | sent =>
          refine { tracks with free := fun _ _ _ => ?_ }
          -- No request was sent since, so an interval that unlocks at all is not over.
          simp only [unlockDue, Nat.le_zero, Bool.and_eq_false_iff, decide_eq_false_iff_not]
          omega

/-- The history tells where the poller is in the rotation, along every run. -/
theorem invariant_tracks : Invariant (Tracks (σ := σ) table options) where
  looked _ _ := Tracks.look
  counted _ _ _ tracks := { tracks with }
  acted _ _ _ tracks taken := tracks.act taken
  started _ _ := Tracks.start
  calibrated poller _ calibrated log tracks same := by
    have next := Table.next_eq_of_addresses same poller.progress.index
    have upcoming : ({ poller with table := calibrated, log := log } : Poller σ).upcoming =
        poller.upcoming := by
      simp only [Poller.upcoming, next]
    exact { tracks with
      addresses := same.trans tracks.addresses
      upcoming := upcoming.trans tracks.upcoming }
  moved _ _ _ _ tracks := { tracks with }

theorem Tracks.looked (tracks : Tracks table options poller history) :
    Tracks table options poller.looked (history.look poller.collect.1) :=
  invariant_tracks.counted _ _ _ tracks.look

/-- **The rotation.** On every run from the start the registers have their turns in the order of the
table. -/
theorem rotation_run (handle : ε → σ → Served σ Unit) (line : σ) (table : Table)
    (options : Options) (moves : List (Move ε)) :
    ((new line table options).history handle moves).Rotation table
      options.atLeastOne.maxRetries := by
  have tracks := invariant_tracks.run handle moves _ _ (tracks_new line table options)
  exact tracks.lawful.rotation (Nat.le_max_right _ _)

/-- The first register does not answer before it has its second try. -/
example :
    (new Meter.bare .reference .standard).history
        (fun (content : UInt32) meter => ⟨(), meter.setRegister 0x08 content, []⟩)
        [.slowTick, .line 0x291000, .slowTick, .fastTick, .slowTick, .slowTick] =
      [.request ⟨1, 0x06, true, .out⟩, .request ⟨1, 0x06, false, .missed⟩,
        .request ⟨0, 0x08, true, .accepted⟩, .request ⟨0, 0x08, false, .missed⟩] := by
  decide +kernel

end Poller

end MeterPoll
