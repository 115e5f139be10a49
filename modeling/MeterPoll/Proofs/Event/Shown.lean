import Mathlib.Data.List.Infix
import MeterPoll.Event

/-!
# What a log shows of events

Whoever reads a log sees the fields and the messages of its events. A message begins with words that
tell what the event is about (`Event.exists_opening`), and where no other event begins in the same
way, the words decide it (`Event.kind_eq_iff_begins`).

The bytes that did not fit the receive queue stand in the field `dropped` of an event
(`Event.dropped`). Those that a poller threw away stand in the field `bytes` or `stale`, and after a
flush of less than a reply in the message (`Event.thrown`). Both numbers are read from the events as
they are logged, and they are the ones that the events were made with (`Event.dropped_eq`,
`Event.thrown_eq`).
-/

namespace MeterPoll

/-- What an event is about. -/
inductive Event.Kind where
  | overrun
  | startup
  | unlock
  | ready
  | request
  | accepted
  | rejected
  | retrying
  | abandoned
  | flush
  | calibration
  deriving DecidableEq

namespace Event

/-- The kind of an event. A flush is one kind, however many bytes it found. -/
def kind : Event → Kind
  | overrun .. => .overrun
  | startupDiscarded _ => .startup
  | unlockSent => .unlock
  | ready .. => .ready
  | requestSent .. => .request
  | accepted .. => .accepted
  | rejected .. => .rejected
  | retrying .. => .retrying
  | abandoned .. => .abandoned
  | partialDiscarded _ | unsolicitedDiscarded _ => .flush
  | scaleSet .. | conversionSet .. => .calibration

/-! ### How messages begin -/

/-- The message of an event begins with some words. -/
def Begins (event : Event) (words : String) : Prop :=
  words.toList <+: event.message.toList

instance (event : Event) (words : String) : Decidable (event.Begins words) :=
  inferInstanceAs (Decidable (_ <+: _))

/-- Words of which neither goes on from the other. -/
def Apart (first second : String) : Prop :=
  ¬ first.toList <+: second.toList ∧ ¬ second.toList <+: first.toList

instance (first second : String) : Decidable (Apart first second) :=
  inferInstanceAs (Decidable (_ ∧ _))

/-- The words with which messages of a kind begin. -/
def Kind.openings : Kind → List String
  | overrun => ["RX buffer overrun"]
  | startup => ["HT7017: discarded startup bytes"]
  | unlock => ["HT7017: sent write enable"]
  | ready => ["HT7017 initialized"]
  | request => ["HT7017: sent ["]
  | accepted => Quantity.all.map fun quantity => "HT7017: " ++ quantity.name ++ " = "
  | rejected | abandoned => ["HT7017: Register "]
  | retrying => ["HT7017: no response, retrying"]
  | flush => ["HT7017: Discarded ", "HT7017: discarded unsolicited bytes"]
  | calibration => Quantity.all.flatMap fun quantity =>
    ["HT7017: " ++ quantity.name ++ " calibration set to ",
      "HT7017: " ++ quantity.name ++ " conversion changed"]

/-- The kinds that the first words of a message tell from every other kind. A rejected reply and a
register that is given up begin alike. -/
def Kind.Plain (kind : Kind) : Prop :=
  ∀ other ≠ kind, ∀ own ∈ kind.openings, ∀ words ∈ other.openings, Apart own words

/-- A message does not begin with words apart from those that it begins with. -/
theorem not_begins_of_apart {event : Event} {words other : String} (apart : Apart words other)
    (begins : event.Begins other) : ¬ event.Begins words := by
  intro both
  rcases List.prefix_or_prefix_of_prefix both begins with within | longer
  · exact apart.1 within
  · exact apart.2 longer

/-- What is appended to a text does not change how it begins. -/
theorem prefix_append_right {words text : String} (begins : words.toList <+: text.toList)
    (rest : String) : words.toList <+: (text ++ rest).toList := by
  rw [String.toList_append]
  exact begins.trans (List.prefix_append _ _)

/-- What is put in front of a text is put in front of how it begins. -/
theorem prefix_append_left {words text : String} (front : String)
    (begins : words.toList <+: text.toList) :
    (front ++ words).toList <+: (front ++ text).toList := by
  rw [String.toList_append, String.toList_append]
  exact (List.prefix_append_right_inj front.toList).mpr begins

/-- Every message begins as those of its kind do. -/
theorem exists_opening (event : Event) : ∃ words ∈ event.kind.openings, event.Begins words := by
  -- Three messages put the name of the device in front of the wording of a fault.
  have register : "HT7017: Register " = "HT7017: " ++ "Register " := rfl
  have discarded : "HT7017: Discarded " = "HT7017: " ++ "Discarded " := rfl
  cases event with
  | overrun | startupDiscarded | unlockSent | ready | retrying =>
      exact ⟨_, List.mem_singleton_self _, List.prefix_rfl⟩
  | requestSent =>
      exact ⟨_, List.mem_singleton_self _, prefix_append_right (prefix_append_right
        (prefix_append_right (prefix_append_right List.prefix_rfl _) _) _) _⟩
  | accepted _ quantity =>
      exact ⟨_, List.mem_map_of_mem quantity.mem_all, prefix_append_right (prefix_append_right
        (prefix_append_right List.prefix_rfl _) _) _⟩
  | rejected =>
      refine ⟨_, List.mem_singleton_self _, ?_⟩
      rw [Begins, register]
      exact prefix_append_left _ (prefix_append_right (prefix_append_right (prefix_append_right
        List.prefix_rfl _) _) _)
  | abandoned =>
      refine ⟨_, List.mem_singleton_self _, ?_⟩
      rw [Begins, register]
      exact prefix_append_right (prefix_append_left _ (prefix_append_right (prefix_append_right
        (prefix_append_right (prefix_append_right List.prefix_rfl _) _) _) _)) _
  | partialDiscarded =>
      refine ⟨_, List.mem_cons_self, ?_⟩
      rw [Begins, discarded]
      exact prefix_append_left _ (prefix_append_right (prefix_append_right List.prefix_rfl _) _)
  | unsolicitedDiscarded =>
      exact ⟨_, List.mem_cons_of_mem _ (List.mem_singleton_self _), List.prefix_rfl⟩
  | scaleSet quantity =>
      exact ⟨_, List.mem_flatMap_of_mem quantity.mem_all List.mem_cons_self,
        prefix_append_right List.prefix_rfl _⟩
  | conversionSet quantity =>
      exact ⟨_, List.mem_flatMap_of_mem quantity.mem_all
        (List.mem_cons_of_mem _ (List.mem_singleton_self _)), List.prefix_rfl⟩

/-- The first words of a message tell whether an event is of a plain kind. -/
theorem kind_eq_iff_begins (event : Event) {kind : Kind} (plain : kind.Plain) :
    event.kind = kind ↔ ∃ words ∈ kind.openings, event.Begins words := by
  obtain ⟨opening, own, begins⟩ := event.exists_opening
  constructor
  · rintro rfl
    exact ⟨opening, own, begins⟩
  · rintro ⟨words, among, also⟩
    by_contra different
    exact not_begins_of_apart (plain event.kind different words among opening own) begins also

/-- All kinds of events. -/
def Kind.all : List Kind :=
  [overrun, startup, unlock, ready, request, accepted, rejected, retrying, abandoned, flush,
    calibration]

theorem Kind.mem_all (kind : Kind) : kind ∈ all := by
  cases kind <;> decide

/-- Only the messages of rejected replies and of registers that are given up begin alike. -/
theorem Kind.plain_of_ne {kind : Kind} (accepts : kind ≠ .rejected) (stays : kind ≠ .abandoned) :
    kind.Plain := by
  -- The openings are fixed texts, so all pairs of kinds can be gone through.
  have apart : ∀ kind ∈ Kind.all, kind ≠ .rejected → kind ≠ .abandoned →
      ∀ other ∈ Kind.all, other ≠ kind →
        ∀ own ∈ kind.openings, ∀ words ∈ other.openings, Apart own words := by
    decide +kernel
  intro other different
  exact apart kind kind.mem_all accepts stays other other.mem_all different

/-- The messages that tell of a flush of less than a reply. -/
theorem begins_discarded_iff {event : Event} :
    event.Begins "HT7017: Discarded " ↔ ∃ length, event = partialDiscarded length := by
  constructor
  · intro begins
    have plain : Kind.flush.Plain := Kind.plain_of_ne nofun nofun
    have flush : event.kind = .flush :=
      (event.kind_eq_iff_begins plain).mpr ⟨_, List.mem_cons_self, begins⟩
    cases event with
    | partialDiscarded length => exact ⟨length, rfl⟩
    | unsolicitedDiscarded bytes =>
        have apart : Apart "HT7017: Discarded " "HT7017: discarded unsolicited bytes" := by
          decide +kernel
        exact absurd begins (not_begins_of_apart apart List.prefix_rfl)
    | _ => cases flush
  · rintro ⟨length, rfl⟩
    have discarded : "HT7017: Discarded " = "HT7017: " ++ "Discarded " := rfl
    rw [Begins, discarded]
    exact prefix_append_left _ (prefix_append_right (prefix_append_right List.prefix_rfl _) _)

/-! ### Numbers in fields and messages -/

/-- The number in a field of an event. -/
def count? (event : Event) (key : String) : Option Nat :=
  match event.fields.lookup key with
  | some (.count n) => some n
  | _ => none

/-- The number that the message of an event spells behind some words, if it begins with them. -/
def spelled? (event : Event) (words : String) : Option Nat :=
  if event.Begins words then
    let behind := event.message.toList.drop words.toList.length
    some (Nat.ofDigitChars 10 (behind.takeWhile Char.isDigit) 0)
  else none

/-- The received bytes that did not fit the queue, according to an event. -/
def dropped (event : Event) : Nat :=
  (event.count? "dropped").getD 0

/-- The bytes that a poller threw away, according to an event. -/
def thrown (event : Event) : Nat :=
  ((event.count? "bytes").or ((event.count? "stale").or
    (event.spelled? "HT7017: Discarded "))).getD 0

/-- A number is read from its own digits, up to the blank behind them. -/
theorem ofDigitChars_takeWhile_toString (n : Nat) (rest : List Char) :
    Nat.ofDigitChars 10 (((toString n).toList ++ ' ' :: rest).takeWhile Char.isDigit) 0 = n := by
  have digits : ∀ c ∈ (toString n).toList, c.isDigit = true := by
    intro c among
    rw [Nat.toString_eq_repr, Nat.toList_repr] at among
    exact Nat.isDigit_of_mem_toDigits (by decide) (by decide) among
  have blank : Char.isDigit ' ' ≠ true := by decide
  rw [List.takeWhile_append_of_pos digits, List.takeWhile_cons_of_neg blank, List.append_nil,
    Nat.toString_eq_repr, Nat.toList_repr, Nat.ofDigitChars_ten_toDigits]

/-- A message of some words and a number spells the number. -/
theorem spelled?_eq_some {event : Event} {words : String} {n : Nat} (rest : String)
    (message : event.message = words ++ (toString n ++ (" " ++ rest))) :
    event.spelled? words = some n := by
  have begins : event.Begins words := by
    rw [Begins, message, String.toList_append]
    exact List.prefix_append _ _
  have behind : (toString n ++ (" " ++ rest)).toList =
      (toString n).toList ++ ' ' :: rest.toList := by
    rw [String.toList_append, String.toList_append]
    rfl
  rw [spelled?, if_pos begins, message, String.toList_append, List.drop_left, behind]
  exact congrArg some (ofDigitChars_takeWhile_toString n rest.toList)

/-- A flush of less than a reply spells how many bytes there were. -/
theorem spelled?_partialDiscarded (length : Nat) :
    (partialDiscarded length).spelled? "HT7017: Discarded " = some length := by
  have message : (partialDiscarded length).message = "HT7017: " ++ ("Discarded " ++
      toString length ++ " stale byte(s) that did not form a frame") := rfl
  have first : "HT7017: Discarded " = "HT7017: " ++ "Discarded " := rfl
  have last : " stale byte(s) that did not form a frame" =
      " " ++ "stale byte(s) that did not form a frame" := rfl
  apply spelled?_eq_some "stale byte(s) that did not form a frame"
  rw [message, first, last]
  simp only [String.append_assoc]

/-- Only overruns of the queue have the field, and it holds the bytes that were lost. -/
theorem dropped_eq (event : Event) : event.dropped =
    match event with
    | overrun dropped _ => dropped
    | _ => 0 := by
  cases event <;> simp [dropped, count?, fields, List.lookup_cons]

/-- The events that tell of bytes thrown away, and how many they tell of. -/
theorem thrown_eq (event : Event) : event.thrown =
    match event with
    | startupDiscarded bytes | partialDiscarded bytes | unsolicitedDiscarded bytes => bytes
    | retrying _ _ stale | abandoned _ _ stale => stale
    | _ => 0 := by
  -- Only one kind of event spells its number, and no event has both fields.
  by_cases short : event.Begins "HT7017: Discarded "
  · obtain ⟨length, rfl⟩ := begins_discarded_iff.mp short
    simp [thrown, spelled?_partialDiscarded, count?, fields]
  · have unspelled : event.spelled? "HT7017: Discarded " = none := if_neg short
    cases event with
    | partialDiscarded length => exact absurd (begins_discarded_iff.mpr ⟨length, rfl⟩) short
    | _ => simp [thrown, unspelled, count?, fields, List.lookup_cons]

end Event

end MeterPoll
