import MeterPoll.Text.Number

/-!
# Quoted text

What the inside of a text in quotation marks is made of: characters that stand for themselves, and
escapes, which begin with a backslash. Control characters other than the tab do not stand for
themselves.
-/

namespace MeterPoll.Text

/-- A character that may stand in quotes for itself. -/
def isPlain (c : Char) : Bool :=
  c == '\t' || (' ' ≤ c && c != '\x7f')

/-- The character whose code point the first `count` characters write in hexadecimal, if they are
so many digits and it is a Unicode scalar value. -/
def readCodePoint (count : Nat) (cs : List Char) : Option (Char × List Char) := do
  let digits := cs.take count
  let values ← digits.mapM (digitValue? 16)
  let n := values.foldl (fun value digit => value * 16 + digit) 0
  if digits.length = count ∧ n.isValidChar then some (Char.ofNat n, cs.drop count) else none

/-- Reads what follows the backslash of an escape. -/
def readEscape : List Char → Option (Char × List Char)
  | 'b' :: rest => some ('\x08', rest)
  | 't' :: rest => some ('\t', rest)
  | 'n' :: rest => some ('\n', rest)
  | 'f' :: rest => some ('\x0c', rest)
  | 'r' :: rest => some ('\r', rest)
  | '"' :: rest => some ('"', rest)
  | '\\' :: rest => some ('\\', rest)
  | 'u' :: rest => readCodePoint 4 rest
  | 'U' :: rest => readCodePoint 8 rest
  | _ => none

/-- The text that the inside of a text in quotes stands for, read in at most `fuel` steps. -/
def unescape? : Nat → List Char → Option (List Char)
  | 0, _ => none
  | _ + 1, [] => some []
  | fuel + 1, '\\' :: rest => do
    let (c, rest) ← readEscape rest
    (unescape? fuel rest).map (c :: ·)
  | fuel + 1, c :: rest => if isPlain c then (unescape? fuel rest).map (c :: ·) else none

end MeterPoll.Text
