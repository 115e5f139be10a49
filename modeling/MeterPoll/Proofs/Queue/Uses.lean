import Mathlib.Algebra.GroupWithZero.Nat
import Mathlib.Tactic.Common
import MeterPoll.Queue

/-!
# A queue in use

What a queue holds is known from the answers of its uses so far: of every push the bytes it said
that it stored, in the order of the pushes, but for those that were dropped from the front. Every
byte that arrived was stored or counted as lost, and bytes are lost only from a queue that is full
(`Queue.fifo_useAll`).
-/

namespace MeterPoll

namespace Queue

/-- One use of a queue. -/
inductive Use where
  | push (arriving : List UInt8)
  | consume (count : Nat)
  | peek (offset : Nat)
  | clear
  deriving DecidableEq, Repr

/-- A use of a queue and what came of it. -/
inductive Entry where
  | pushed (arriving : List UInt8) (stored : Nat)
  | consumed (count dropped : Nat)
  | peeked (offset : Nat) (seen : Option UInt8)
  /-- A queue that held so many bytes was emptied. -/
  | cleared (held : Nat)
  deriving DecidableEq, Repr

namespace Entry

/-- The bytes that arrived. -/
def arrived : Entry → List UInt8
  | pushed arriving _ => arriving
  | _ => []

/-- How many bytes a push said that it stored. -/
def storedCount : Entry → Nat
  | pushed _ stored => stored
  | _ => 0

/-- The stored beginning of the bytes that arrived. -/
def stored (entry : Entry) : List UInt8 :=
  entry.arrived.take entry.storedCount

/-- How many bytes were consumed. -/
def consumedCount : Entry → Nat
  | consumed _ dropped => dropped
  | _ => 0

/-- How many bytes were cleared. -/
def clearedCount : Entry → Nat
  | cleared held => held
  | _ => 0

end Entry

/-- The sum of a count over the uses of a queue. -/
def total (count : Entry → Nat) (entries : List Entry) : Nat :=
  (entries.map count).sum

/-- Uses a queue once. -/
def use (queue : Queue) : Use → Entry × Queue
  | .push arriving => (.pushed arriving (queue.storable arriving), queue.push arriving)
  | .consume count => (.consumed count (queue.consumable count), queue.consume count)
  | .peek offset => (.peeked offset (queue.peek? offset), queue)
  | .clear => (.cleared queue.length, queue.clear)

/-- Uses a queue several times. -/
def useAll (queue : Queue) : List Use → List Entry × Queue
  | [] => ([], queue)
  | use :: rest =>
    let (entry, onward) := queue.use use
    let (entries, last) := onward.useAll rest
    (entry :: entries, last)

/-- The entries account for all that happened to a queue. -/
structure Accounts (before : Queue) (entries : List Entry) (after : Queue) : Prop where
  capacity : after.capacity = before.capacity
  stored : (entries.flatMap Entry.stored).length = total Entry.storedCount entries
  bytes : after.bytes = (before.bytes ++ entries.flatMap Entry.stored).drop
    (total Entry.consumedCount entries + total Entry.clearedCount entries)
  lost : (entries.flatMap Entry.arrived).length + before.overruns =
    total Entry.storedCount entries + after.overruns
  held : before.length + total Entry.storedCount entries =
    total Entry.consumedCount entries + total Entry.clearedCount entries + after.length

/-- A count over two lists of entries is the sum of both counts. -/
theorem total_append (count : Entry → Nat) (first second : List Entry) :
    total count (first ++ second) = total count first + total count second := by
  unfold total
  rw [List.map_append, List.sum_append]

/-- A queue grows by what a push stores. -/
theorem length_push (queue : Queue) (arriving : List UInt8) :
    (queue.push arriving).length = queue.length + queue.storable arriving := by
  unfold length storable
  rw [bytes_push, List.length_append, List.length_take, Nat.min_comm]

/-- Every arriving byte is stored or lost. -/
theorem storable_add_excess (queue : Queue) (arriving : List UInt8) :
    queue.storable arriving + queue.excess arriving = arriving.length := by
  unfold storable excess
  omega

/-- A push that loses bytes fills the queue. -/
theorem length_push_of_lost {queue : Queue} {arriving : List UInt8}
    (lost : queue.storable arriving < arriving.length) :
    (queue.push arriving).length = queue.capacity := by
  have bounded := queue.bounded
  rw [length_push]
  unfold storable room at lost ⊢
  unfold length
  omega

/-- A push stores as much as there is room for. -/
theorem take_storable (queue : Queue) (arriving : List UInt8) :
    arriving.take (queue.storable arriving) = arriving.take queue.room := by
  rw [storable, Nat.min_comm, ← List.take_eq_take_min]

variable {before between after : Queue} {first second : List Entry}

/-- One account after another is an account. -/
theorem Accounts.append (earlier : before.Accounts first between)
    (later : between.Accounts second after) : before.Accounts (first ++ second) after where
  capacity := later.capacity.trans earlier.capacity
  stored := by
    rw [List.flatMap_append, List.length_append, earlier.stored, later.stored, total_append]
  bytes := by
    have enough : total Entry.consumedCount first + total Entry.clearedCount first ≤
        (before.bytes ++ first.flatMap Entry.stored).length := by
      have held := earlier.held
      rw [List.length_append, earlier.stored]
      unfold length at held
      omega
    rw [later.bytes, earlier.bytes, List.flatMap_append, ← List.append_assoc,
      ← List.drop_append_of_le_length enough, List.drop_drop, total_append, total_append,
      Nat.add_add_add_comm]
  lost := by
    have sooner := earlier.lost
    have last := later.lost
    rw [List.flatMap_append, List.length_append, total_append]
    omega
  held := by
    have sooner := earlier.held
    have last := later.held
    rw [total_append, total_append, total_append]
    omega

/-- An account of one use. -/
theorem Accounts.single {entry : Entry} (capacity : after.capacity = before.capacity)
    (stored : entry.stored.length = entry.storedCount)
    (bytes : after.bytes =
      (before.bytes ++ entry.stored).drop (entry.consumedCount + entry.clearedCount))
    (lost : entry.arrived.length + before.overruns = entry.storedCount + after.overruns)
    (held : before.length + entry.storedCount =
      entry.consumedCount + entry.clearedCount + after.length) :
    before.Accounts [entry] after := by
  have one (count : Entry → Nat) : total count [entry] = count entry := Nat.add_zero _
  have alone (part : Entry → List UInt8) : [entry].flatMap part = part entry :=
    List.append_nil _
  constructor
  · exact capacity
  · rwa [alone, one]
  · rwa [alone, one, one]
  · rwa [alone, one]
  · rwa [one, one, one]

/-- One use is accounted for by its entry. -/
theorem accounts_use (queue : Queue) (use : Use) :
    queue.Accounts [(queue.use use).1] (queue.use use).2 := by
  cases use with
  | push arriving =>
      have all := queue.storable_add_excess arriving
      refine .single rfl ?_ ?_ ?_ ?_
      · exact List.length_take_of_le (Nat.min_le_left ..)
      · change _ = queue.bytes ++ arriving.take (queue.storable arriving)
        rw [take_storable]
        rfl
      · change arriving.length + queue.overruns =
          queue.storable arriving + (queue.overruns + queue.excess arriving)
        omega
      · change queue.length + queue.storable arriving = 0 + (queue.push arriving).length
        rw [length_push, Nat.zero_add]
  | consume count =>
      refine .single rfl rfl ?_ rfl ?_
      · change queue.bytes.drop count = (queue.bytes ++ []).drop (min count queue.bytes.length)
        rw [List.append_nil, ← List.drop_eq_drop_min]
      · change queue.length = min count queue.length + 0 + (queue.bytes.drop count).length
        rw [List.length_drop]
        unfold length
        omega
  | peek offset =>
      refine .single rfl rfl ?_ rfl ?_
      · exact (List.append_nil _).symm
      · exact (Nat.zero_add _).symm
  | clear =>
      refine .single rfl rfl ?_ rfl ?_
      · change [] = (queue.bytes ++ []).drop (0 + queue.bytes.length)
        rw [List.append_nil, Nat.zero_add, List.drop_length]
      · exact Nat.add_comm ..

/-- Many uses are accounted for by their entries. -/
theorem accounts_useAll (queue : Queue) (uses : List Use) :
    queue.Accounts (queue.useAll uses).1 (queue.useAll uses).2 := by
  induction uses generalizing queue with
  | nil =>
      constructor
      · rfl
      · rfl
      · exact (List.append_nil _).symm
      · rfl
      · exact (Nat.zero_add _).symm
  | cons use rest ih => exact (queue.accounts_use use).append (ih (queue.use use).2)

/-- **A bounded queue that loses the newest bytes and counts them.** After any uses of a queue that
was empty at first, it holds no more than its capacity, namely what the pushes stored, in order, but
for as many bytes from the front as were consumed or cleared. A peek answers with one of these bytes
and changes nothing. All bytes that arrived were stored or are counted as lost, all that were stored
were consumed or cleared or are there, and only a push that fills the queue loses any. -/
theorem fifo_useAll (capacity : Nat) (uses : List Use) :
    let entries := ((empty capacity).useAll uses).1
    let queue := ((empty capacity).useAll uses).2
    let contents := (entries.flatMap Entry.stored).drop
      (total Entry.consumedCount entries + total Entry.clearedCount entries)
    queue.capacity = capacity ∧ queue.length ≤ capacity ∧ queue.bytes = contents ∧
      (∀ offset, queue.use (.peek offset) = (.peeked offset contents[offset]?, queue)) ∧
      (entries.flatMap Entry.arrived).length = total Entry.storedCount entries + queue.overruns ∧
      total Entry.storedCount entries = total Entry.consumedCount entries +
        total Entry.clearedCount entries + queue.length ∧
      ∀ arriving, queue.storable arriving < arriving.length →
        (queue.push arriving).length = capacity := by
  intro entries queue contents
  have accounts : (empty capacity).Accounts entries queue := accounts_useAll ..
  have full : queue.capacity = capacity := accounts.capacity
  have bytes : queue.bytes = contents := accounts.bytes
  refine ⟨full, ?_, bytes, ?_, accounts.lost, ?_, ?_⟩
  · rw [← full]
    exact queue.bounded
  · intro offset
    rw [← bytes]
    rfl
  · have held := accounts.held
    change 0 + _ = _ at held
    rwa [Nat.zero_add] at held
  · intro arriving lost
    rw [length_push_of_lost lost, full]

example : ((empty 4).useAll [.push [1, 2, 3], .consume 1, .push [4, 5, 6], .peek 3]).1 =
    [.pushed [1, 2, 3] 3, .consumed 1 1, .pushed [4, 5, 6] 2, .peeked 3 (some 5)] := by decide

end Queue

end MeterPoll
