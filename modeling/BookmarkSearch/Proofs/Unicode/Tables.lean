import Mathlib.Tactic.MkIffOfInductiveProp
import BookmarkSearch.Unicode.Alphanumeric
import BookmarkSearch.Unicode.Decomposition
import BookmarkSearch.Unicode.LetterCase
import BookmarkSearch.Unicode.Mark
import BookmarkSearch.Unicode.PlainLetter

/-!
What the tables of characters have to do with each other: which of them are apart, and which lie
within another. A set of code points is the number that has a bit for each of them, so that two
tables are compared by one operation on numbers and not point by point.
-/

namespace BookmarkSearch.Unicode

/-! Sets of code points as bits. -/

def pointBit (n : Nat) : Nat := 1 <<< n

def spanBits (lo hi : Nat) : Nat := (1 <<< (hi + 1 - lo) - 1) <<< lo

def unionBits {α : Type} (bits : α → Nat) : List α → Nat
  | [] => 0
  | a :: rest => bits a ||| unionBits bits rest

def CodeSet.bits (s : CodeSet) : Nat := unionBits (fun span => spanBits span.1 span.2) s.spans

@[simp] theorem testBit_pointBit (m n : Nat) : (pointBit m).testBit n = decide (m = n) := by
  rw [pointBit, Nat.one_shiftLeft, Nat.testBit_two_pow]

@[simp] theorem testBit_spanBits (lo hi n : Nat) :
    (spanBits lo hi).testBit n = decide (lo ≤ n ∧ n ≤ hi) := by
  rw [spanBits, Nat.one_shiftLeft, Nat.testBit_shiftLeft, Nat.testBit_two_pow_sub_one]
  rw [← Bool.decide_and, decide_eq_decide]
  omega

@[simp] theorem testBit_unionBits {α : Type} (bits : α → Nat) (items : List α) (n : Nat) :
    (unionBits bits items).testBit n = items.any fun a => (bits a).testBit n := by
  induction items with
  | nil => simp [unionBits]
  | cons a rest ih => rw [unionBits, Nat.testBit_or, ih, List.any_cons]

theorem CodeSet.testBit_bits (s : CodeSet) (n : Nat) : s.bits.testBit n = s.holds n := by
  rw [bits, testBit_unionBits, holds]
  simp

/-- A point of one set is in none that is apart from it. -/
theorem testBit_of_apart {a b n : Nat} (apart : a &&& b = 0) (member : a.testBit n = true) :
    b.testBit n = false := by
  have noneCommon : (a &&& b).testBit n = false := by rw [apart, Nat.zero_testBit]
  rwa [Nat.testBit_and, member, Bool.true_and] at noneCommon

theorem testBit_of_apart_right {a b n : Nat} (apart : a &&& b = 0) (member : b.testBit n = true) :
    a.testBit n = false :=
  testBit_of_apart (Nat.and_comm a b ▸ apart) member

theorem testBit_of_within {a b n : Nat} (within : a &&& b = a) (member : a.testBit n = true) :
    b.testBit n = true := by
  have common : (a &&& b).testBit n = true := by rw [within, member]
  rwa [Nat.testBit_and, member, Bool.true_and] at common

/-! The tables. -/

def decomposedBits : Nat :=
  unionBits (fun run => spanBits run.1 (run.1 + run.2.length - 1)) decompositionRuns |||
    spanBits 0xAC00 0xD7A3

/-- The characters that occur in decompositions, with all that a syllable can be made of. -/
def partBits : Nat :=
  unionBits (fun run => unionBits (unionBits pointBit) run.2) decompositionRuns |||
    spanBits 0x1100 0x11FF

def combiningBits : Nat := unionBits (fun run => spanBits run.1 run.2.1) combiningClassRuns

def capitalBits : Nat := unionBits (fun r => unionBits (pointBit ·.1) r.pairs) lowerRuns

/-- The lower case of the characters that have no decomposition. -/
def smallBits : Nat :=
  unionBits (fun r => unionBits
    (fun p => if decomposedBits.testBit p.1 then 0 else pointBit p.2) r.pairs) lowerRuns

def strokedBits : Nat := unionBits (pointBit ·.1) plainLetters

def imageBits : Nat := unionBits (fun r => unionBits (pointBit ·.2) r.pairs) lowerRuns

/-- The characters without a plain letter whose lower case has one. -/
def unsettledBits : Nat :=
  unionBits (fun r => unionBits
    (fun p => if !strokedBits.testBit p.1 && strokedBits.testBit p.2 then pointBit p.1 else 0)
    r.pairs) lowerRuns

/-- The Hangul syllables, whose decompositions are not in the table. -/
def syllableBits : Nat := spanBits 0xAC00 0xD7A3

/-- All characters that have to do with case. The lower case of U+0130 has a mark in it. -/
def casedBits : Nat := capitalBits ||| imageBits ||| unionBits pointBit [0x130, 0x69, 0x307]

def separatorBits : Nat :=
  spanBits 0x9 0xD ||| spanBits 0x2000 0x200A |||
    unionBits pointBit
      [0x20, 0x2C, 0x3B, 0x85, 0xA0, 0x1680, 0x2028, 0x2029, 0x202F, 0x205F, 0x3000]

def signBits : Nat := spanBits 0x20 0x2F

def plainBits : Nat := spanBits 0x61 0x7A

def characterBits : Nat := spanBits 0 0xD7FF ||| spanBits 0xE000 lastCodePoint

@[mk_iff] structure TablesFit : Prop where
  combining_within_marks : combiningBits &&& marks.bits = combiningBits
  parts_apart_decomposed : partBits &&& decomposedBits = 0
  parts_within_characters : partBits &&& characterBits = partBits
  small_apart : smallBits &&& (decomposedBits ||| marks.bits ||| capitalBits) = 0
  small_within_characters : smallBits &&& characterBits = smallBits
  small_within_alphanumerics : smallBits &&& alphanumerics.bits = smallBits
  plain_apart : plainBits &&& (decomposedBits ||| marks.bits ||| capitalBits ||| strokedBits) = 0
  plain_within_alphanumerics : plainBits &&& alphanumerics.bits = plainBits
  plainLetters_plain : ∀ entry ∈ plainLetters, plainBits.testBit entry.2.toNat = true
  stroked_apart : strokedBits &&& (decomposedBits ||| marks.bits) = 0
  stroked_within_alphanumerics : strokedBits &&& alphanumerics.bits = strokedBits
  unsettled_apart : unsettledBits &&& (decomposedBits ||| partBits) = 0
  cased_apart : (capitalBits ||| imageBits) &&& (marks.bits ||| syllableBits) = 0
  cased_apart_separators : casedBits &&& separatorBits = 0
  cased_apart_slash : casedBits &&& pointBit 0x2F = 0
  signs_apart : signBits &&& (decomposedBits ||| marks.bits ||| capitalBits ||| strokedBits |||
    alphanumerics.bits) = 0
  images_within_characters : imageBits &&& characterBits = imageBits
  /-- The Kelvin sign is the one letter beyond ASCII whose lower case is one of ASCII, the k. -/
  images_of_ascii : ∀ r ∈ lowerRuns, ∀ p ∈ r.pairs, p.1 < 128 ∨ 128 ≤ p.2 ∨ p.2 = 0x6B
  capitals_of_ascii : capitalBits &&& spanBits 0 0x7F = spanBits 0x41 0x5A
  lowerCase_of_ascii : ∀ n < 26, lowerCase (Char.ofNat (0x41 + n)) = [Char.ofNat (0x61 + n)]
  dottedCapital_decomposed : decomposedBits.testBit 0x130 = true
  decomposed_apart_low : decomposedBits &&& spanBits 0 0xBF = 0
  ascii_apart : spanBits 0 0x7F &&& (marks.bits ||| strokedBits) = 0

-- It is used as `TablesFit.small_apart tablesFit`. The name `tablesFit.small_apart` could also be
-- that of a part of this proof, and looking for it waits until the proof is through.
theorem tablesFit : TablesFit := by
  -- All at once, so that every table is made into a number only once.
  rw [tablesFit_iff]
  decide +kernel

end BookmarkSearch.Unicode
