import Mathlib.Data.List.Forall2
import BookmarkSearch.Proofs.Text.Normal

/-!
What lower case does to the normal form of a character. The plain letter is looked up before the
lower case is taken, and some capitals are not in its table while their lower case is, or the other
way round. All others have the normal form of their lower case.
-/

namespace BookmarkSearch.Unicode

section Pairs

variable {r : CaseRun} {n m : Nat}

theorem image_of_pair (member : r ∈ lowerRuns) (pair : (n, m) ∈ r.pairs) :
    imageBits.testBit m = true := testBit_pairs member pair (by simp)

theorem toNat_of_pair (member : r ∈ lowerRuns) (pair : (n, m) ∈ r.pairs) :
    (Char.ofNat m).toNat = m := by
  have image := image_of_pair member pair
  exact toNat_ofNat (testBit_of_within (TablesFit.images_within_characters tablesFit) image)

/-- A capital whose lower case has a plain letter has one itself, or is not settled. -/
theorem unsettled_of_pair (member : r ∈ lowerRuns) (pair : (n, m) ∈ r.pairs)
    (plain : strokedBits.testBit n = false) (stroked : strokedBits.testBit m = true) :
    unsettledBits.testBit n = true :=
  testBit_pairs member pair (by simp [plain, stroked])

end Pairs

def dottedCapital : Char := 'İ'

theorem lowerCase_shapes (c : Char) :
    c = dottedCapital ∨ lowerCase c = [c] ∨
      ∃ r ∈ lowerRuns, ∃ m, (c.toNat, m) ∈ r.pairs ∧ lowerCase c = [Char.ofNat m] := by
  by_cases dotted : c.toNat = 0x130
  · exact .inl (by rw [← Char.ofNat_toNat c, dotted]; rfl)
  · rw [lowerCase, if_neg dotted]
    cases found : lowerRuns.findSome? (·.image? c.toNat) with
    | none => exact .inr (.inl (by rw [Option.getD_none, Char.ofNat_toNat]))
    | some m =>
      obtain ⟨r, member, image⟩ := List.exists_of_findSome?_eq_some found
      exact .inr (.inr ⟨r, member, m, mem_pairs image, rfl⟩)

theorem plainLetter_of_unstroked {c : Char} (unstroked : strokedBits.testBit c.toNat = false) :
    plainLetter c = c := by
  refine (plainLetter_cases c).resolve_right fun stroked => ?_
  rw [unstroked] at stroked
  cases stroked.1

theorem plain_of_stroked {c : Char} (stroked : strokedBits.testBit c.toNat = true) :
    plainBits.testBit (plainLetter c).toNat = true := by
  rw [strokedBits, testBit_unionBits, List.any_eq_true] at stroked
  obtain ⟨entry, member, same⟩ := stroked
  rw [testBit_pointBit, decide_eq_true_eq] at same
  rw [plainLetter]
  cases found : plainLetters.lookup c.toNat with
  | none => simpa [same] using List.lookup_eq_none_iff.mp found entry member
  | some v => exact TablesFit.plainLetters_plain tablesFit _ (plainLetters_entry found)

end BookmarkSearch.Unicode

namespace BookmarkSearch.Text

open Unicode

/-- Whether it makes no difference to a character which comes first, the plain letter or the lower
case. -/
def Commutes (c : Char) : Prop := lowerCase (plainLetter c) = (lowerCase c).map plainLetter

instance (c : Char) : Decidable (Commutes c) := inferInstanceAs (Decidable (_ = _))

/-- Whether no letter that has a plain letter is left of a character. -/
def Settles (c : Char) : Prop := ∀ l ∈ lowerCase (plainLetter c), plainLetter l = l

instance (c : Char) : Decidable (Settles c) := List.decidableBAll _ _

/-- Capitals without a plain letter whose lower case has one, such as Ł, and Ⱥ and Ⱦ, which have a
plain letter while their lower case has none. -/
def oddLetters : List Nat := [
    0x110, 0x126, 0x13F, 0x141, 0x166, 0x182, 0x187, 0x18B, 0x191, 0x198, 0x1A4, 0x1A6, 0x1AC,
    0x1B3, 0x1B5, 0x1E4, 0x224, 0x23A, 0x23E, 0x1E9E, 0x2183, 0x2C62, 0x2C64, 0x2C6D, 0x2C6E,
    0x2C6F, 0x2C7E, 0x2C7F, 0xA78D, 0xA7AA, 0xA7AB, 0xA7AC, 0xA7AD, 0xA7AE, 0xA7B0, 0xA7B1, 0xA7B2,
    0xA7C5]

def foldPart (c : Char) : List Char :=
  if marks.bits.testBit c.toNat then []
  else if strokedBits.testBit c.toNat then [plainLetter c]
  else if capitalBits.testBit c.toNat then lowerCase c
  else [c]

def remnant (ns : List Nat) : Nat :=
  match (ns.map Char.ofNat).flatMap foldPart with
  | [l] => l.toNat
  | _ => 0

def decompositionEntries : List (Nat × List Nat) :=
  decompositionRuns.flatMap fun run => run.2.zipIdx.map fun e => (run.1 + e.2, e.1)

/-- What is left of each decomposed letter of either case, in 24 bits of one number. A look at these
bits takes the place of a search through the table for every letter and its lower case. -/
def remnantTable : Nat :=
  unionBits (fun e =>
    if (capitalBits ||| imageBits).testBit e.1 then remnant e.2 <<< (24 * e.1) else 0)
    decompositionEntries

def remnantAt (n : Nat) : Nat :=
  if decomposedBits.testBit n then (remnantTable >>> (24 * n)) % (1 <<< 24) else remnant [n]

structure LettersFit : Prop where
  /-- Both parts are about one table, which is put together only once for them. -/
  remnants :
    (∀ e ∈ decompositionEntries, (capitalBits ||| imageBits).testBit e.1 = true →
      (remnantTable >>> (24 * e.1)) % (1 <<< 24) = remnant e.2) ∧
    ∀ r ∈ lowerRuns, ∀ p ∈ r.pairs, decomposedBits.testBit p.1 = true →
      remnantAt p.1 ≠ 0 ∧ remnantAt p.2 = remnantAt p.1
  dottedCapital_caseless : normalizeChars (lowerCase dottedCapital) = normalOf dottedCapital
  dottedCapital_unstroked : plainLetter dottedCapital = dottedCapital
  dottedCapital_settles : Settles dottedCapital
  unsettled_within_odd : unsettledBits &&& unionBits pointBit oddLetters = unsettledBits
  stroked_commute : ∀ r ∈ lowerRuns, ∀ p ∈ r.pairs, strokedBits.testBit p.1 = true →
    p.1 ∈ oddLetters ∨ Commutes (Char.ofNat p.1)
  odd_not_commute : ∀ n ∈ oddLetters, ¬Commutes (Char.ofNat n)

theorem lettersFit : LettersFit := by
  constructor <;> decide +kernel

/-! Capitals with a decomposition. -/

theorem foldPart_eq {c : Char} (whole : decomposedBits.testBit c.toNat = false) :
    foldPart c = foldChar c := by
  rw [foldPart, foldChar, isMark_eq]
  refine if_congr Iff.rfl rfl ?_
  cases stroked : strokedBits.testBit c.toNat with
  | true =>
    rw [if_pos rfl]
    exact (folded_of_plain (plain_of_stroked stroked)).1.small.symm
  | false =>
    rw [if_neg Bool.false_ne_true, plainLetter_of_unstroked stroked]
    cases capital : capitalBits.testBit c.toNat with
    | true => rw [if_pos rfl]
    | false => rw [if_neg Bool.false_ne_true, lowerCase_eq_self whole capital]

theorem parts_entry {c : Char} (compound : decomposedBits.testBit c.toNat = true)
    (noSyllable : syllableBits.testBit c.toNat = false) :
    ∃ ns, (c.toNat, ns) ∈ decompositionEntries ∧ parts c = ns.map Char.ofNat := by
  rw [syllableBits, testBit_spanBits, decide_eq_false_iff_not] at noSyllable
  obtain ⟨ns, found, same⟩ :=
    (parts_of_decomposed compound).resolve_left fun syllable => noSyllable syllable.1
  refine ⟨ns, ?_, same⟩
  obtain ⟨run, member, here⟩ := List.exists_of_findSome?_eq_some found
  split at here
  · rename_i above
    refine List.mem_flatMap.mpr ⟨run, member, ?_⟩
    refine List.mem_map.mpr ⟨(ns, c.toNat - run.1), ?_, ?_⟩
    · exact List.mk_mem_zipIdx_iff_getElem?.mpr here
    · rw [Nat.add_sub_cancel' above]
  · cases here

theorem remnantAt_parts {c : Char}
    (cased : (capitalBits ||| imageBits).testBit c.toNat = true) :
    ∃ ns, parts c = ns.map Char.ofNat ∧ remnant ns = remnantAt c.toNat := by
  rw [remnantAt]
  cases compound : decomposedBits.testBit c.toNat with
  | true =>
    have apart := testBit_of_apart (TablesFit.cased_apart tablesFit) cased
    rw [Nat.testBit_or, Bool.or_eq_false_iff] at apart
    obtain ⟨ns, entry, same⟩ := parts_entry compound apart.2
    exact ⟨ns, same, ((LettersFit.remnants lettersFit).1 _ entry cased).symm⟩
  | false =>
    refine ⟨[c.toNat], ?_, rfl⟩
    rw [parts_of_undecomposed compound, List.map_singleton, Char.ofNat_toNat]

theorem normalOf_remnant {c : Char} (cased : (capitalBits ||| imageBits).testBit c.toNat = true)
    (something : remnantAt c.toNat ≠ 0) : normalOf c = [Char.ofNat (remnantAt c.toNat)] := by
  obtain ⟨ns, same, left⟩ := remnantAt_parts cased
  have folded : normalOf c = (ns.map Char.ofNat).flatMap foldPart := by
    rw [normalOf, ← same]
    exact List.flatMap_congr fun p part => (foldPart_eq (undecomposed_of_part part)).symm
  rw [← left] at something ⊢
  rw [folded]
  unfold remnant at something ⊢
  split
  · rename_i l single
    rw [single, Char.ofNat_toNat]
  · rename_i more
    split at something
    · rename_i l single
      exact absurd single (more l)
    · exact absurd rfl something

/-- A capital that has a decomposition has the normal form of its lower case. -/
theorem normalOf_of_pair {c : Char} {r : CaseRun} {m : Nat} (member : r ∈ lowerRuns)
    (pair : (c.toNat, m) ∈ r.pairs) (compound : decomposedBits.testBit c.toNat = true) :
    normalOf (Char.ofNat m) = normalOf c := by
  obtain ⟨something, same⟩ := (LettersFit.remnants lettersFit).2 r member _ pair compound
  have there : (Char.ofNat m).toNat = m := toNat_of_pair member pair
  have capital : (capitalBits ||| imageBits).testBit c.toNat = true := by
    rw [Nat.testBit_or, capital_of_pair member pair, Bool.true_or]
  have image : (capitalBits ||| imageBits).testBit (Char.ofNat m).toNat = true := by
    rw [Nat.testBit_or, there, image_of_pair member pair, Bool.or_true]
  rw [normalOf_remnant capital something, normalOf_remnant image (by rwa [there, same]), there,
    same]

/-! Plain letters and lower case. -/

def Alike (a b : Char) : Prop := a = b ∨ isWordChar a = true ∧ isWordChar b = true

theorem lowerCase_plainLetter {c : Char} (stroked : plainLetter c ≠ c) :
    lowerCase (plainLetter c) = [plainLetter c] := by
  obtain ⟨-, plain⟩ := (plainLetter_cases c).resolve_left stroked
  exact (folded_of_plain plain).1.small

theorem commutes_of_small {c : Char} (small : lowerCase c = [c]) : Commutes c := by
  rw [Commutes, small, List.map_singleton]
  by_cases stroked : plainLetter c = c
  · rw [stroked, small]
  · exact lowerCase_plainLetter stroked

theorem commutes_of_settles {c : Char} (plain : plainLetter c = c) (settles : Settles c) :
    Commutes c := by
  rw [Settles, plain] at settles
  rw [Commutes, plain, List.map_congr_left settles, List.map_id']

theorem commutes_dottedCapital : Commutes dottedCapital :=
  commutes_of_settles (LettersFit.dottedCapital_unstroked lettersFit)
    (LettersFit.dottedCapital_settles lettersFit)

theorem settles_of_commutes {c : Char} (commutes : Commutes c) : Settles c := by
  rw [Settles]
  by_cases stroked : plainLetter c = c
  · rw [Commutes, stroked] at commutes
    rw [stroked]
    intro l member
    rw [commutes] at member
    obtain ⟨d, -, rfl⟩ := List.mem_map.mp member
    exact plainLetter_idem d
  · rw [lowerCase_plainLetter stroked, List.forall_mem_singleton]
    exact plainLetter_idem c

theorem normalizeChars_singleton (c : Char) : normalizeChars [c] = normalOf c := by
  rw [normalizeChars_eq, List.flatMap_singleton]

theorem normalOf_whole {c : Char} (whole : decomposedBits.testBit c.toNat = false)
    (base : isMark c = false) : normalOf c = lowerCase (plainLetter c) := by
  rw [normalOf, parts_of_undecomposed whole, List.flatMap_singleton, foldChar, base]
  rfl

theorem unmarked_of_capital {c : Char} (capital : capitalBits.testBit c.toNat = true) :
    isMark c = false := by
  have cased : (capitalBits ||| imageBits).testBit c.toNat = true := by
    rw [Nat.testBit_or, capital, Bool.true_or]
  have apart := testBit_of_apart (TablesFit.cased_apart tablesFit) cased
  rw [Nat.testBit_or, Bool.or_eq_false_iff] at apart
  rw [isMark_eq]
  exact apart.1

theorem unstroked_of_apart {c : Char}
    (apart : (decomposedBits ||| marks.bits).testBit c.toNat = true) :
    strokedBits.testBit c.toNat = false :=
  testBit_of_apart_right (TablesFit.stroked_apart tablesFit) apart

theorem settled_of_apart {c : Char}
    (apart : (decomposedBits ||| partBits).testBit c.toNat = true) {r : CaseRun} {m : Nat}
    (member : r ∈ lowerRuns) (pair : (c.toNat, m) ∈ r.pairs)
    (unstroked : strokedBits.testBit c.toNat = false) :
    plainLetter (Char.ofNat m) = Char.ofNat m := by
  apply plainLetter_of_unstroked
  rw [toNat_of_pair member pair, ← Bool.not_eq_true]
  intro stroked
  have unsettled := unsettled_of_pair member pair unstroked stroked
  rw [testBit_of_apart_right (TablesFit.unsettled_apart tablesFit) apart] at unsettled
  cases unsettled

theorem settles_of_decomposed {c : Char} (compound : decomposedBits.testBit c.toNat = true) :
    Settles c := by
  have unstroked : strokedBits.testBit c.toNat = false :=
    unstroked_of_apart (by rw [Nat.testBit_or, compound, Bool.true_or])
  rw [Settles, plainLetter_of_unstroked unstroked]
  rcases lowerCase_shapes c with rfl | small | ⟨r, member, m, pair, lower⟩
  · have settles := LettersFit.dottedCapital_settles lettersFit
    rwa [Settles, LettersFit.dottedCapital_unstroked lettersFit] at settles
  · rw [small, List.forall_mem_singleton]
    exact plainLetter_of_unstroked unstroked
  · rw [lower, List.forall_mem_singleton]
    refine settled_of_apart ?_ member pair unstroked
    rw [Nat.testBit_or, compound, Bool.true_or]

section Capital

variable {c : Char} {r : CaseRun} {m : Nat} (member : r ∈ lowerRuns)
  (pair : (c.toNat, m) ∈ r.pairs) (lower : lowerCase c = [Char.ofNat m])

include member pair lower

/-- The lower case of a capital without a decomposition is a letter of its own, and only the plain
letter of it is taken. -/
theorem normalOf_capital (whole : decomposedBits.testBit c.toNat = false) :
    ∃ a b, normalOf c = [a] ∧ normalizeChars (lowerCase c) = [b] ∧ isWordChar a = true ∧
      isWordChar b = true ∧ (b = a ↔ Commutes c) := by
  have small : smallBits.testBit (Char.ofNat m).toNat = true := by
    rw [toNat_of_pair member pair]
    exact small_of_pair member pair whole
  have word : isWordChar (Char.ofNat m) = true :=
    isWordChar_of_bits (TablesFit.small_within_alphanumerics tablesFit) small
  have base := normalOf_whole whole (unmarked_of_capital (capital_of_pair member pair))
  have image : normalizeChars (lowerCase c) = [plainLetter (Char.ofNat m)] := by
    rw [lower, normalizeChars_singleton]
    have apart := testBit_of_apart (TablesFit.small_apart tablesFit) small
    exact normalOf_folded (folded_of_apart apart)
  have plainWord (d : Char) (known : isWordChar d = true) : isWordChar (plainLetter d) = true := by
    rcases plainLetter_cases d with same | ⟨-, plain⟩
    · rwa [same]
    · exact isWordChar_of_bits (TablesFit.plain_within_alphanumerics tablesFit) plain
  have first : ∃ a, lowerCase (plainLetter c) = [a] ∧ isWordChar a = true := by
    by_cases stroked : plainLetter c = c
    · exact ⟨Char.ofNat m, by rw [stroked, lower], word⟩
    · refine ⟨plainLetter c, lowerCase_plainLetter stroked, ?_⟩
      exact plainWord c (isWordChar_of_stroked stroked)
  obtain ⟨a, left, known⟩ := first
  refine ⟨a, plainLetter (Char.ofNat m), base.trans left, image, known, plainWord _ word, ?_⟩
  rw [Commutes, left, lower, List.map_singleton, List.singleton_inj, eq_comm]

end Capital

/-- Taking the lower case first keeps what is left of a character, or changes one letter of it to
another. -/
theorem normalOf_lowerCase (c : Char) :
    normalizeChars (lowerCase c) = normalOf c ∧ Commutes c ∨
      ∃ a b, normalOf c = [a] ∧ normalizeChars (lowerCase c) = [b] ∧ isWordChar a = true ∧
        isWordChar b = true ∧ (b = a ↔ Commutes c) := by
  rcases lowerCase_shapes c with rfl | small | ⟨r, member, m, pair, lower⟩
  · exact .inl ⟨LettersFit.dottedCapital_caseless lettersFit, commutes_dottedCapital⟩
  · exact .inl ⟨by rw [small, normalizeChars_singleton], commutes_of_small small⟩
  · cases compound : decomposedBits.testBit c.toNat with
    | true =>
      have apart : (decomposedBits ||| marks.bits).testBit c.toNat = true := by
        rw [Nat.testBit_or, compound, Bool.true_or]
      have plain := plainLetter_of_unstroked (unstroked_of_apart apart)
      refine .inl ⟨?_, commutes_of_settles plain (settles_of_decomposed compound)⟩
      rw [lower, normalizeChars_singleton, normalOf_of_pair member pair compound]
    | false => exact .inr (normalOf_capital member pair lower compound)

theorem normalOf_lowerCase_iff (c : Char) :
    normalizeChars (lowerCase c) = normalOf c ↔ Commutes c := by
  rcases normalOf_lowerCase c with ⟨same, commutes⟩ | ⟨a, b, left, right, -, -, iff⟩
  · exact iff_of_true same commutes
  · rw [left, right, List.singleton_inj, iff]

theorem alike_lowerCase (c : Char) :
    List.Forall₂ Alike (normalOf c) (normalizeChars (lowerCase c)) := by
  rcases normalOf_lowerCase c with ⟨same, -⟩ | ⟨a, b, left, right, wordA, wordB, -⟩
  · rw [same]
    exact List.forall₂_same.mpr fun _ _ => .inl rfl
  · rw [left, right]
    exact .cons (.inr ⟨wordA, wordB⟩) .nil

theorem settled_of_part {p l : Char} (part : partBits.testBit p.toNat = true)
    (whole : decomposedBits.testBit p.toNat = false) (left : l ∈ lowerCase (plainLetter p)) :
    plainLetter l = l := by
  cases stroked : strokedBits.testBit p.toNat with
  | true =>
    have folded := (folded_of_plain (plain_of_stroked stroked)).1
    rw [folded.small, List.mem_singleton] at left
    rw [left, plainLetter_idem]
  | false =>
    have plain := plainLetter_of_unstroked stroked
    rw [plain] at left
    rcases lowerCase_shapes p with rfl | small | ⟨r, member, m, pair, lower⟩
    · have compound := TablesFit.dottedCapital_decomposed tablesFit
      rw [show dottedCapital.toNat = 0x130 from rfl, compound] at whole
      cases whole
    · rw [small, List.mem_singleton] at left
      rwa [left]
    · rw [lower, List.mem_singleton] at left
      rw [left]
      refine settled_of_apart ?_ member pair stroked
      rw [Nat.testBit_or, part, Bool.or_true]

/-- What is left of a character stays as it is exactly if the character settles. -/
theorem settles_iff (c : Char) : (∀ l ∈ normalOf c, plainLetter l = l) ↔ Settles c := by
  cases compound : decomposedBits.testBit c.toNat with
  | true =>
    refine iff_of_true ?_ (settles_of_decomposed compound)
    intro l member
    obtain ⟨p, inside, left⟩ := List.mem_flatMap.mp member
    rw [foldChar] at left
    split at left
    · cases left
    · exact settled_of_part (part_of_decomposed compound inside) (undecomposed_of_part inside) left
  | false =>
    cases mark : isMark c with
    | false => rw [normalOf_whole compound mark, Settles]
    | true =>
      -- A mark leaves nothing, and has neither a plain letter nor a lower case of its own.
      have nothing : normalOf c = [] := by
        rw [normalOf, parts_of_undecomposed compound, List.flatMap_singleton, foldChar, mark]
        rfl
      have small : capitalBits.testBit c.toNat = false := by
        rw [← Bool.not_eq_true]
        intro capital
        rw [unmarked_of_capital capital] at mark
        cases mark
      have plain : plainLetter c = c := by
        rw [isMark_eq] at mark
        exact plainLetter_of_unstroked
          (unstroked_of_apart (by rw [Nat.testBit_or, mark, Bool.or_true]))
      rw [nothing, Settles, plain, lowerCase_eq_self compound small, List.forall_mem_singleton]
      exact iff_of_true (List.forall_mem_nil _) plain

theorem commutes_iff (c : Char) : Commutes c ↔ c.toNat ∉ oddLetters := by
  constructor
  · intro commutes odd
    exact LettersFit.odd_not_commute lettersFit _ odd (by rwa [Char.ofNat_toNat])
  · intro regular
    rcases lowerCase_shapes c with rfl | small | ⟨r, member, m, pair, lower⟩
    · exact commutes_dottedCapital
    · exact commutes_of_small small
    · cases stroked : strokedBits.testBit c.toNat with
      | true =>
        have decided := LettersFit.stroked_commute lettersFit r member _ pair stroked
        rw [Char.ofNat_toNat] at decided
        exact decided.resolve_left regular
      | false =>
        have plain := plainLetter_of_unstroked stroked
        refine commutes_of_settles plain ?_
        rw [Settles, plain, lower, List.forall_mem_singleton]
        apply plainLetter_of_unstroked
        rw [toNat_of_pair member pair, ← Bool.not_eq_true]
        intro image
        have odd := testBit_of_within (LettersFit.unsettled_within_odd lettersFit)
          (unsettled_of_pair member pair stroked image)
        simp only [testBit_unionBits, testBit_pointBit, List.any_eq_true, decide_eq_true_eq] at odd
        obtain ⟨n, there, same⟩ := odd
        exact regular (same ▸ there)

end BookmarkSearch.Text
