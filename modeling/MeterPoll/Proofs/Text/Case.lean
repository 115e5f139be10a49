import Mathlib.Tactic.Common
import MeterPoll.Logging

/-!
# Names in any case

A text has a plain lower-case word as its lower-case form exactly if it is that word but for the
case of its ASCII letters (`Text.lowerAfter_eq_iff`): of all other characters only the Kelvin sign
has a single ASCII letter as its lower-case form, and that letter is a `k`. None of the names of the
log levels has one (`LogLevel.ofText_eq_ok_iff`).
-/

namespace MeterPoll

namespace Text

/-- The texts are the same but for the case of their ASCII letters. -/
def Caseless (s t : String) : Prop :=
  s.toList.map Char.toLower = t.toList.map Char.toLower

/-- A lower-case letter of ASCII that is not the lower-case form of anything beyond ASCII. -/
def IsPlain (letter : Char) : Prop :=
  letter.isLower = true ∧ letter ≠ 'k'

instance (letter : Char) : Decidable (IsPlain letter) :=
  inferInstanceAs (Decidable (_ ∧ _))

/-- Only the run of the Kelvin sign leads from beyond ASCII into ASCII. -/
theorem lowercaseRuns_far : ∀ run ∈ lowercaseRuns,
    run.2.1 < 0x80 ∨ 0x80 ≤ (run.1 : Int) + run.2.2.2 ∨ run = (0x212A, 0x212A, 1, -8383) := by
  decide +kernel

/-- The lower-case form of a character beyond ASCII. -/
theorem lowerChar_of_foreign {c : Char} (foreign : 0x80 ≤ c.toNat) : lowerChar c = c ∨
    ∃ code, lowerChar c = Char.ofNat code ∧ (0x80 ≤ code ∨ code = 'k'.toNat) := by
  unfold lowerChar
  rw [if_neg (Nat.not_lt.mpr foreign)]
  split
  next first last step distance found =>
    refine .inr ⟨_, rfl, ?_⟩
    have within := Array.find?_some found
    simp only [Bool.and_eq_true, decide_eq_true_eq] at within
    obtain ⟨⟨above, below⟩, -⟩ := within
    rcases lowercaseRuns_far _ (Array.mem_of_find?_eq_some found) with near | far | kelvin
    · exact absurd (Nat.le_trans foreign below) (Nat.not_le.mpr near)
    · left
      dsimp only at far
      omega
    · right
      cases kelvin
      have code : c.toNat = 0x212A := Nat.le_antisymm below above
      rw [code]
      rfl
  next => exact .inl rfl

/-- A code that is no code point makes the zero character. -/
theorem toNat_ofNat (code : Nat) : (Char.ofNat code).toNat = code ∨ Char.ofNat code = '\x00' := by
  by_cases valid : code.isValidChar
  · exact .inl (congrArg Char.toNat (dif_pos valid : Char.ofNat code = Char.ofNatAux code valid))
  · exact .inr (dif_neg valid)

/-- The small letters of ASCII by their codes. -/
theorem isLower_iff {c : Char} : c.isLower = true ↔ 0x61 ≤ c.toNat ∧ c.toNat ≤ 0x7A := by
  change (decide (97 ≤ c.val) && decide (c.val ≤ 122)) = true ↔ _
  rw [Bool.and_eq_true, decide_eq_true_iff, decide_eq_true_iff]
  exact and_congr UInt32.le_iff_toNat_le UInt32.le_iff_toNat_le

/-- Plain letters are ASCII. -/
theorem not_isPlain_of_foreign {c : Char} (foreign : 0x80 ≤ c.toNat) : ¬ IsPlain c := by
  rintro ⟨lower, -⟩
  rw [isLower_iff] at lower
  omega

/-- No character outside ASCII is lowered to a plain letter. -/
theorem not_isPlain_lowerChar {c : Char} (foreign : 0x80 ≤ c.toNat) : ¬ IsPlain (lowerChar c) := by
  rcases lowerChar_of_foreign foreign with same | ⟨code, lowered, far | kelvin⟩
  · rw [same]
    exact not_isPlain_of_foreign foreign
  · rw [lowered]
    -- A code that is no character stands for NUL, which is no letter either.
    rcases toNat_ofNat code with same | invalid
    · exact not_isPlain_of_foreign (by rwa [same])
    · rw [invalid]
      decide
  · rw [lowered, kelvin]
    decide

/-- The lower case of core does not touch characters outside ASCII. -/
theorem toLower_of_foreign {c : Char} (foreign : 0x80 ≤ c.toNat) : c.toLower = c := by
  have high : ¬ (c.val ≥ 'A'.val ∧ c.val ≤ 'Z'.val) := by
    rintro ⟨-, below⟩
    have low : c.toNat ≤ 0x5A := UInt32.le_iff_toNat_le.mp below
    omega
  exact dif_neg high

/-- An ASCII character is lowered by itself, whatever stands before it. -/
theorem lowerAfter_cons_of_ascii {c : Char} (ascii : c.toNat < 0x80) (before rest : List Char) :
    lowerAfter before (c :: rest) = c.toLower :: lowerAfter (c :: before) rest := by
  have sigma : (c == 'Σ') = false := by
    rw [beq_eq_false_iff_ne]
    rintro rfl
    exact absurd ascii (by decide)
  have dotted : (c == 'İ') = false := by
    rw [beq_eq_false_iff_ne]
    rintro rfl
    exact absurd ascii (by decide)
  rw [lowerAfter, sigma, dotted, if_neg Bool.false_ne_true, if_neg Bool.false_ne_true,
    lowerChar_of_ascii ascii]
  rfl

/-- No lower-case form of a character beyond ASCII is made of plain letters alone. -/
theorem exists_not_isPlain_lowerAfter {c : Char} (foreign : 0x80 ≤ c.toNat)
    (before rest : List Char) : ∃ other ∈ lowerAfter before (c :: rest), ¬ IsPlain other := by
  rw [lowerAfter]
  split_ifs
  · exact ⟨'ς', by simp, by decide⟩
  · exact ⟨'σ', by simp, by decide⟩
  · exact ⟨'\u0307', by simp, by decide⟩
  · exact ⟨lowerChar c, by simp, not_isPlain_lowerChar foreign⟩

/-- The lower-case form of a text is a word of plain letters exactly if the text is that word but
for the case of its ASCII letters. -/
theorem lowerAfter_eq_iff {before cs word : List Char} (plain : ∀ letter ∈ word, IsPlain letter) :
    lowerAfter before cs = word ↔ cs.map Char.toLower = word := by
  induction cs generalizing before word with
  | nil => exact Iff.rfl
  | cons c rest ih =>
      by_cases ascii : c.toNat < 0x80
      · rw [lowerAfter_cons_of_ascii ascii, List.map_cons]
        cases word with
        | nil => exact iff_of_false nofun nofun
        | cons letter letters =>
            rw [List.cons.injEq, List.cons.injEq, ih (List.forall_mem_cons.mp plain).2]
      · have foreign := Nat.not_lt.mp ascii
        obtain ⟨other, among, notPlain⟩ := exists_not_isPlain_lowerAfter foreign before rest
        refine iff_of_false ?_ ?_
        · rintro rfl
          exact notPlain (plain other among)
        · rintro rfl
          rw [List.map_cons, toLower_of_foreign foreign] at plain
          exact not_isPlain_of_foreign foreign (plain c List.mem_cons_self)

/-- A text is lowered to a plain word exactly if it is the word in some case. -/
theorem lowercase_eq_iff {s word : String} (plain : ∀ letter ∈ word.toList, IsPlain letter) :
    lowercase s = word ↔ s.toList.map Char.toLower = word.toList := by
  rw [← lowerAfter_eq_iff plain, lowercase, ← String.toList_inj, String.toList_ofList]

end Text

namespace LogLevel

/-- The lower-case name. -/
def lowerName : LogLevel → String
  | error => "error"
  | warn => "warn"
  | info => "info"
  | debug => "debug"
  | trace => "trace"

/-- A level is named by the lower-case form of a text. -/
theorem ofText_eq_ok_iff_lowercase {s : String} {level : LogLevel} :
    ofText s = .ok level ↔ Text.lowercase s = level.lowerName := by
  unfold ofText
  split <;> cases level <;> simp_all [lowerName]

/-- The names of the levels are plain words. -/
theorem isPlain_of_mem_lowerName (level : LogLevel) :
    ∀ letter ∈ level.lowerName.toList, Text.IsPlain letter := by
  have all : level.lowerName.toList.all (fun letter => Text.IsPlain letter) = true := by
    cases level <;> decide
  intro letter among
  exact of_decide_eq_true (List.all_eq_true.mp all letter among)

/-- A level is named exactly by its name in any case. -/
theorem ofText_eq_ok_iff {s : String} {level : LogLevel} :
    ofText s = .ok level ↔ Text.Caseless s level.name := by
  have lowered : level.name.toList.map Char.toLower = level.lowerName.toList := by
    cases level <;> decide
  rw [ofText_eq_ok_iff_lowercase, Text.lowercase_eq_iff level.isPlain_of_mem_lowerName,
    ← lowered]
  rfl

/-- A text that is no name of a level is shown as it is. -/
theorem ofText_of_nameless {s : String}
    (nameless : ¬ ∃ level : LogLevel, Text.Caseless s level.name) :
    ofText s = .error (.configuration (.unknownLogLevel s)) := by
  have unread (level : LogLevel) : ofText s ≠ .ok level := fun read =>
    nameless ⟨level, ofText_eq_ok_iff.mp read⟩
  unfold ofText at unread ⊢
  split at unread
  case h_6 => rfl
  all_goals exact absurd rfl (unread _)

end LogLevel

end MeterPoll
