import Mathlib.Data.List.Basic
import BookmarkSearch.Proofs.Unicode.Tables
import BookmarkSearch.Text.Normal

/-!
Normal form, character by character. Decomposition puts marks in order, but marks are dropped; so
the normal form of a text is that of its characters, one after the other. What is in normal form
stays as it is when it is normalized again, but for letters that have a plain letter: these come up
where a capital without a plain letter is taken to a lower case that has one.
-/

namespace BookmarkSearch.Unicode

theorem toNat_ofNat {n : Nat} (character : characterBits.testBit n = true) :
    (Char.ofNat n).toNat = n := by
  simp only [characterBits, Nat.testBit_or, testBit_spanBits, lastCodePoint, Bool.or_eq_true,
    decide_eq_true_eq] at character
  have valid : n.isValidChar := by
    rw [Nat.isValidChar]
    omega
  rw [Char.ofNat, dif_pos valid]
  rfl

theorem isMark_eq (c : Char) : isMark c = marks.bits.testBit c.toNat :=
  (CodeSet.testBit_bits marks c.toNat).symm

theorem isMark_of_combining {c : Char} (combining : 0 < combiningClass c) : isMark c = true := by
  rw [isMark_eq]
  apply testBit_of_within (TablesFit.combining_within_marks tablesFit)
  simp only [combiningClass] at combining
  split at combining
  · exact absurd combining (Nat.lt_irrefl 0)
  · cases found : combiningClassRuns.find? fun run => run.1 ≤ c.toNat && c.toNat ≤ run.2.1 with
    | none => simp [found] at combining
    | some run =>
      have inside := List.find?_some found
      rw [combiningBits, testBit_unionBits, List.any_eq_true]
      refine ⟨run, List.mem_of_find?_eq_some found, ?_⟩
      simpa using inside

/-! Decomposition. -/

section Parts

variable {c p : Char}

theorem tableParts_some {n : Nat} {ns : List Nat} (found : tableParts? n = some ns) :
    ∃ run ∈ decompositionRuns, ns ∈ run.2 := by
  obtain ⟨run, member, here⟩ := List.exists_of_findSome?_eq_some found
  split at here
  · exact ⟨run, member, List.mem_of_getElem? here⟩
  · cases here

theorem tableParts_none {n : Nat} (missing : tableParts? n = none) :
    ∀ run ∈ decompositionRuns, run.1 ≤ n → run.1 + run.2.length ≤ n := by
  intro run member above
  have nothing := List.findSome?_eq_none_iff.mp missing run member
  rw [if_pos above, List.getElem?_eq_none_iff] at nothing
  omega

theorem syllableParts_span {s m : Nat} (syllable : s < 11172) (member : m ∈ syllableParts s) :
    0x1100 ≤ m ∧ m ≤ 0x11FF := by
  have lead : s / 588 ≤ 18 := by omega
  have vowel : s % 588 / 28 ≤ 20 := by omega
  have trail : s % 28 ≤ 27 := by omega
  simp only [syllableParts] at member
  split at member
  · simp only [List.mem_cons, List.not_mem_nil, or_false] at member
    omega
  · simp only [List.mem_append, List.mem_cons, List.not_mem_nil, or_false] at member
    omega

theorem parts_of_undecomposed (whole : decomposedBits.testBit c.toNat = false) :
    parts c = [c] := by
  simp only [decomposedBits, Nat.testBit_or, Bool.or_eq_false_iff, testBit_unionBits,
    List.any_eq_false, testBit_spanBits, decide_eq_true_eq, decide_eq_false_iff_not] at whole
  obtain ⟨outside, noSyllable⟩ := whole
  have missing : tableParts? c.toNat = none := by
    apply List.findSome?_eq_none_iff.mpr
    intro run member
    have beyond := outside run member
    split
    · rw [List.getElem?_eq_none_iff]
      omega
    · rfl
  simp only [parts, missing, if_neg noSyllable, ite_self]

theorem parts_of_decomposed (compound : decomposedBits.testBit c.toNat = true) :
    (0xAC00 ≤ c.toNat ∧ c.toNat ≤ 0xD7A3) ∧
        parts c = (syllableParts (c.toNat - 0xAC00)).map Char.ofNat ∨
      ∃ ns, tableParts? c.toNat = some ns ∧ parts c = ns.map Char.ofNat := by
  -- The decomposition starts with a test on the code point that no table of parts knows of.
  have begun : ¬c.toNat < 0xC0 := by
    have low := testBit_of_apart (TablesFit.decomposed_apart_low tablesFit) compound
    rw [testBit_spanBits, decide_eq_false_iff_not] at low
    omega
  by_cases syllable : 0xAC00 ≤ c.toNat ∧ c.toNat ≤ 0xD7A3
  · exact .inl ⟨syllable, by simp only [parts, if_neg begun, if_pos syllable]⟩
  · cases found : tableParts? c.toNat with
    | some ns => exact .inr ⟨ns, rfl, by simp only [parts, if_neg begun, if_neg syllable, found]⟩
    | none =>
      have beyond := tableParts_none found
      simp only [decomposedBits, Nat.testBit_or, Bool.or_eq_true, testBit_unionBits,
        List.any_eq_true, testBit_spanBits, decide_eq_true_eq] at compound
      rcases compound with ⟨run, present, inside⟩ | known
      · have past := beyond run present inside.1
        omega
      · exact absurd known syllable

theorem part_of_decomposed (compound : decomposedBits.testBit c.toNat = true)
    (member : p ∈ parts c) : partBits.testBit p.toNat = true := by
  have known (n : Nat) (part : partBits.testBit n = true) :
      partBits.testBit (Char.ofNat n).toNat = true := by
    rwa [toNat_ofNat (testBit_of_within (TablesFit.parts_within_characters tablesFit) part)]
  rcases parts_of_decomposed compound with ⟨syllable, same⟩ | ⟨ns, found, same⟩
  · rw [same] at member
    obtain ⟨n, inside, rfl⟩ := List.mem_map.mp member
    have span := syllableParts_span (by omega) inside
    apply known
    simp [partBits, span]
  · rw [same] at member
    obtain ⟨run, present, here⟩ := tableParts_some found
    obtain ⟨n, inside, rfl⟩ := List.mem_map.mp member
    apply known
    rw [partBits, Nat.testBit_or, Bool.or_eq_true, testBit_unionBits, List.any_eq_true]
    refine .inl ⟨run, present, ?_⟩
    rw [testBit_unionBits, List.any_eq_true]
    refine ⟨ns, here, ?_⟩
    rw [testBit_unionBits, List.any_eq_true]
    exact ⟨n, inside, by simp⟩

theorem undecomposed_of_part (member : p ∈ parts c) :
    decomposedBits.testBit p.toNat = false := by
  cases compound : decomposedBits.testBit c.toNat with
  | false =>
    rw [parts_of_undecomposed compound, List.mem_singleton] at member
    rwa [member]
  | true =>
    have part := part_of_decomposed compound member
    exact testBit_of_apart (TablesFit.parts_apart_decomposed tablesFit) part

end Parts

/-! Lower case. -/

theorem mem_pairs {r : CaseRun} {n m : Nat} (image : r.image? n = some m) : (n, m) ∈ r.pairs := by
  rw [CaseRun.image?] at image
  split at image
  · rename_i inside
    obtain ⟨above, below, step⟩ := inside
    have distance : (n - r.first) / r.stride * r.stride = n - r.first :=
      Nat.div_mul_cancel (Nat.dvd_of_mod_eq_zero step)
    have counted : (n - r.first) / r.stride ≤ (r.last - r.first) / r.stride :=
      Nat.div_le_div_right (Nat.sub_le_sub_right below r.first)
    rw [CaseRun.pairs, List.mem_map]
    refine ⟨(n - r.first) / r.stride, List.mem_range.mpr (Nat.lt_succ_of_le counted), ?_⟩
    rw [distance, ← Option.some.inj image, Nat.add_sub_cancel' above]
  · cases image

theorem testBit_pairs {bits : Nat × Nat → Nat} {runs : List CaseRun} {r : CaseRun}
    (member : r ∈ runs) {p : Nat × Nat} (pair : p ∈ r.pairs) {n : Nat}
    (here : (bits p).testBit n = true) :
    (unionBits (fun r => unionBits bits r.pairs) runs).testBit n = true := by
  rw [testBit_unionBits, List.any_eq_true]
  refine ⟨r, member, ?_⟩
  rw [testBit_unionBits, List.any_eq_true]
  exact ⟨p, pair, here⟩

theorem capital_of_pair {r : CaseRun} (member : r ∈ lowerRuns) {n m : Nat}
    (pair : (n, m) ∈ r.pairs) : capitalBits.testBit n = true :=
  testBit_pairs member pair (by simp)

/-- The lower case of a character that has no decomposition has a table of its own. -/
theorem small_of_pair {r : CaseRun} (member : r ∈ lowerRuns) {n m : Nat}
    (pair : (n, m) ∈ r.pairs) (whole : decomposedBits.testBit n = false) :
    smallBits.testBit m = true :=
  testBit_pairs member pair (by simp [whole])

section LowerCase

variable {c : Char}

theorem lowerCase_of_undecomposed (whole : decomposedBits.testBit c.toNat = false) :
    lowerCase c = [Char.ofNat ((lowerRuns.findSome? (·.image? c.toNat)).getD c.toNat)] := by
  rw [lowerCase, if_neg]
  intro dotted
  rw [dotted, TablesFit.dottedCapital_decomposed tablesFit] at whole
  cases whole

theorem lowerCase_cases (whole : decomposedBits.testBit c.toNat = false) :
    lowerCase c = [c] ∨ ∃ r, lowerCase c = [r] ∧ smallBits.testBit r.toNat = true := by
  rw [lowerCase_of_undecomposed whole]
  cases found : lowerRuns.findSome? (·.image? c.toNat) with
  | none => exact .inl (by rw [Option.getD_none, Char.ofNat_toNat])
  | some m =>
    obtain ⟨r, member, image⟩ := List.exists_of_findSome?_eq_some found
    have small := small_of_pair member (mem_pairs image) whole
    refine .inr ⟨Char.ofNat m, rfl, ?_⟩
    rwa [toNat_ofNat (testBit_of_within (TablesFit.small_within_characters tablesFit) small)]

theorem lowerCase_eq_self (whole : decomposedBits.testBit c.toNat = false)
    (small : capitalBits.testBit c.toNat = false) : lowerCase c = [c] := by
  have missing : lowerRuns.findSome? (·.image? c.toNat) = none := by
    apply List.findSome?_eq_none_iff.mpr
    intro r member
    cases image : r.image? c.toNat with
    | none => rfl
    | some m =>
      rw [capital_of_pair member (mem_pairs image)] at small
      cases small
  rw [lowerCase_of_undecomposed whole, missing, Option.getD_none, Char.ofNat_toNat]

end LowerCase

/-! ASCII. -/

theorem undecomposed_of_ascii {c : Char} (ascii : c.toNat < 128) :
    decomposedBits.testBit c.toNat = false := by
  refine testBit_of_apart_right (TablesFit.decomposed_apart_low tablesFit) ?_
  rw [testBit_spanBits, decide_eq_true_eq]
  omega

theorem toLower_eq_self {c : Char} (small : ¬(0x41 ≤ c.toNat ∧ c.toNat ≤ 0x5A)) :
    c.toLower = c := dif_neg small

theorem toNat_toLower (c : Char) :
    c.toLower.toNat = if 0x41 ≤ c.toNat ∧ c.toNat ≤ 0x5A then c.toNat + 32 else c.toNat := by
  split
  · rename_i upper
    have lowered : c.toLower.val = c.val + 32 := congrArg Char.val (dif_pos upper)
    have shift : UInt32.toNat 32 = 32 := rfl
    have plain : c.val.toNat = c.toNat := rfl
    rw [Char.toNat, lowered, UInt32.toNat_add]
    omega
  · rename_i small
    rw [toLower_eq_self small]

/-- On ASCII the two ways of taking the lower case agree. -/
theorem lowerCase_of_ascii {c : Char} (ascii : c.toNat < 128) :
    lowerCase c = [c.toLower] ∧ c.toLower.toLower = c.toLower := by
  by_cases upper : 0x41 ≤ c.toNat ∧ c.toNat ≤ 0x5A
  · have lowered : ∀ n < 26, (Char.ofNat (0x41 + n)).toLower = Char.ofNat (0x61 + n) ∧
        (Char.ofNat (0x61 + n)).toLower = Char.ofNat (0x61 + n) := by decide
    obtain ⟨n, there⟩ := Nat.exists_eq_add_of_le upper.1
    have within : n < 26 := by omega
    obtain ⟨first, second⟩ := lowered n within
    rw [← Char.ofNat_toNat c, there, first, second]
    exact ⟨TablesFit.lowerCase_of_ascii tablesFit n within, rfl⟩
  · have small : capitalBits.testBit c.toNat = false := by
      rw [← Bool.not_eq_true]
      intro capital
      have both : (capitalBits &&& spanBits 0 0x7F).testBit c.toNat = true := by
        rw [Nat.testBit_and, capital, testBit_spanBits, Bool.true_and, decide_eq_true_eq]
        omega
      rw [TablesFit.capitals_of_ascii tablesFit, testBit_spanBits, decide_eq_true_eq] at both
      exact upper both
    have same := toLower_eq_self upper
    rw [lowerCase_eq_self (undecomposed_of_ascii ascii) small, same]
    exact ⟨rfl, same⟩

/-! Plain letters. -/

theorem plainLetters_entry {n : Nat} {v : Char} (found : plainLetters.lookup n = some v) :
    (n, v) ∈ plainLetters := by
  obtain ⟨before, after, whole, -⟩ := List.lookup_eq_some_iff.mp found
  rw [whole]
  exact List.mem_append_right before List.mem_cons_self

theorem plainLetter_cases (c : Char) :
    plainLetter c = c ∨
      strokedBits.testBit c.toNat = true ∧ plainBits.testBit (plainLetter c).toNat = true := by
  rw [plainLetter]
  cases found : plainLetters.lookup c.toNat with
  | none => exact .inl rfl
  | some v =>
    have entry := plainLetters_entry found
    refine .inr ⟨?_, TablesFit.plainLetters_plain tablesFit _ entry⟩
    rw [strokedBits, testBit_unionBits, List.any_eq_true]
    exact ⟨(c.toNat, v), entry, by simp⟩

theorem isWordChar_of_bits {bits : Nat} (within : bits &&& alphanumerics.bits = bits) {c : Char}
    (member : bits.testBit c.toNat = true) : isWordChar c = true := by
  have letter := testBit_of_within within member
  rw [CodeSet.testBit_bits] at letter
  rw [isWordChar, isAlphanumeric, CodeSet.has, letter, Bool.true_or]

/-- A letter that has a plain letter is part of a word. -/
theorem isWordChar_of_stroked {c : Char} (stroked : plainLetter c ≠ c) : isWordChar c = true := by
  obtain ⟨known, -⟩ := (plainLetter_cases c).resolve_left stroked
  exact isWordChar_of_bits (TablesFit.stroked_within_alphanumerics tablesFit) known

end BookmarkSearch.Unicode

namespace BookmarkSearch.Text

open Unicode

def normalOf (c : Char) : List Char := (parts c).flatMap foldChar

structure Folded (c : Char) : Prop where
  whole : parts c = [c]
  base : isMark c = false
  small : lowerCase c = [c]

theorem folded_of_apart {c : Char}
    (apart : (decomposedBits ||| marks.bits ||| capitalBits).testBit c.toNat = false) :
    Folded c := by
  simp only [Nat.testBit_or, Bool.or_eq_false_iff] at apart
  obtain ⟨⟨whole, base⟩, small⟩ := apart
  exact ⟨parts_of_undecomposed whole, by rwa [isMark_eq], lowerCase_eq_self whole small⟩

theorem folded_of_plain {c : Char} (plain : plainBits.testBit c.toNat = true) :
    Folded c ∧ plainLetter c = c := by
  have apart := testBit_of_apart (TablesFit.plain_apart tablesFit) plain
  rw [Nat.testBit_or, Bool.or_eq_false_iff] at apart
  refine ⟨folded_of_apart apart.1, (plainLetter_cases c).resolve_right fun stroked => ?_⟩
  rw [apart.2] at stroked
  cases stroked.1

theorem plainLetter_idem (c : Char) : plainLetter (plainLetter c) = plainLetter c := by
  rcases plainLetter_cases c with same | ⟨-, plain⟩
  · rw [same, same]
  · exact (folded_of_plain plain).2

/-- What is left of a character is a lower case, or has no plain letter of its own. -/
theorem normalOf_cases {c r : Char} (member : r ∈ normalOf c) :
    Folded r ∧ plainLetter r = r ∨ smallBits.testBit r.toNat = true := by
  -- A plain letter is folded. Any other part is whole and stays so in lower case.
  obtain ⟨p, part, left⟩ := List.mem_flatMap.mp member
  have whole := undecomposed_of_part part
  rw [foldChar] at left
  split at left
  · cases left
  · rename_i unmarked
    rcases plainLetter_cases p with same | ⟨-, plain⟩
    · rw [same] at left
      rcases lowerCase_cases whole with lower | ⟨s, lower, small⟩
      · rw [lower, List.mem_singleton] at left
        subst left
        exact .inl ⟨⟨parts_of_undecomposed whole, by simpa using unmarked, lower⟩, same⟩
      · rw [lower, List.mem_singleton] at left
        subst left
        exact .inr small
    · have kept := folded_of_plain plain
      rw [kept.1.small, List.mem_singleton] at left
      exact .inl (left ▸ kept)

theorem folded_of_mem {c r : Char} (member : r ∈ normalOf c) : Folded r := by
  rcases normalOf_cases member with ⟨folded, -⟩ | small
  · exact folded
  · exact folded_of_apart (testBit_of_apart (TablesFit.small_apart tablesFit) small)

theorem normalOf_folded {c : Char} (folded : Folded c) : normalOf c = [plainLetter c] := by
  rw [normalOf, folded.whole, List.flatMap_singleton, foldChar, folded.base]
  rcases plainLetter_cases c with same | ⟨-, plain⟩
  · rw [same]
    exact folded.small
  · exact (folded_of_plain plain).1.small

/-- What normal form does to ASCII is to take the lower case. -/
theorem normalOf_ascii {c : Char} (ascii : c.toNat < 128) : normalOf c = [c.toLower] := by
  have apart : (marks.bits ||| strokedBits).testBit c.toNat = false := by
    refine testBit_of_apart (TablesFit.ascii_apart tablesFit) ?_
    rw [testBit_spanBits, decide_eq_true_eq]
    omega
  rw [Nat.testBit_or, Bool.or_eq_false_iff] at apart
  have unmarked : isMark c = false := by rw [isMark_eq, apart.1]
  have unstroked : plainLetter c = c := by
    refine (plainLetter_cases c).resolve_right fun stroked => ?_
    rw [apart.2] at stroked
    cases stroked.1
  rw [normalOf, parts_of_undecomposed (undecomposed_of_ascii ascii), List.flatMap_singleton,
    foldChar, unmarked, unstroked]
  exact (lowerCase_of_ascii ascii).1

/-! Texts. -/

/-- A mark leaves nothing, wherever it is put. -/
theorem flatMap_placeMark (c : Char) (cs : List Char) :
    (placeMark c cs).flatMap foldChar = (c :: cs).flatMap foldChar := by
  induction cs with
  | nil => rfl
  | cons d rest ih =>
    rw [placeMark]
    split
    · rename_i passed
      have nothing : foldChar d = [] := by rw [foldChar, isMark_of_combining passed.1]; rfl
      rw [List.flatMap_cons, ih]
      simp [nothing]
    · rfl

theorem flatMap_orderMarks (cs : List Char) :
    (orderMarks cs).flatMap foldChar = cs.flatMap foldChar := by
  induction cs with
  | nil => rfl
  | cons c rest ih =>
    rw [orderMarks, flatMap_placeMark, List.flatMap_cons, ih, List.flatMap_cons]

/-- The normal form of a text is that of its characters. -/
theorem normalizeChars_eq (cs : List Char) : normalizeChars cs = cs.flatMap normalOf := by
  rw [normalizeChars, decompose, flatMap_orderMarks, List.flatMap_assoc]
  rfl

theorem toList_normalize (s : String) : (normalize s).toList = normalizeChars s.toList := by
  rw [normalize, String.toList_ofList]

theorem normalizeChars_append (first second : List Char) :
    normalizeChars (first ++ second) = normalizeChars first ++ normalizeChars second := by
  rw [normalizeChars_eq, normalizeChars_eq, normalizeChars_eq, List.flatMap_append]

/-- Normalizing a second time looks for plain letters once more, and does nothing else. -/
theorem normalizeChars_twice (cs : List Char) :
    normalizeChars (normalizeChars cs) = (normalizeChars cs).map plainLetter := by
  have each : ∀ r ∈ normalizeChars cs, normalOf r = [plainLetter r] := by
    intro r member
    rw [normalizeChars_eq, List.mem_flatMap] at member
    obtain ⟨c, -, left⟩ := member
    exact normalOf_folded (folded_of_mem left)
  rw [normalizeChars_eq (normalizeChars cs), List.map_eq_flatMap]
  exact List.flatMap_congr each

end BookmarkSearch.Text
