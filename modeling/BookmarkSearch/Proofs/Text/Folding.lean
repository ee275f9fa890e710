import Mathlib.Data.List.Forall2
import BookmarkSearch.Proofs.Text.Normal
import BookmarkSearch.Unicode.CaseClosure

/-!
Case folding, and what it can still find in normal form. Folding sends runs of letters to letters
that it leaves alone, so the case variants of a character are the characters that fold alike. Two
characters beyond ASCII fold to a letter of ASCII, the Kelvin sign and the long s; no text in normal
form has one of them in it, nor a capital letter of ASCII.
-/

namespace BookmarkSearch.Unicode

/-! Sets made of spans in any order. -/

namespace CodeSet

theorem holds_iff {s : CodeSet} {n : Nat} :
    s.holds n = true ↔ ∃ span ∈ s.spans, span.1 ≤ n ∧ n ≤ span.2 := by
  simp [holds]

theorem mem_join_iff {lo hi n : Nat} {spans : List (Nat × Nat)}
    (ascending : ((lo, hi) :: spans).Pairwise fun s t => s.1 ≤ t.1) :
    (∃ span ∈ join lo hi spans, span.1 ≤ n ∧ n ≤ span.2) ↔
      ∃ span ∈ (lo, hi) :: spans, span.1 ≤ n ∧ n ≤ span.2 := by
  induction spans generalizing lo hi with
  | nil => rfl
  | cons next rest ih =>
    obtain ⟨a, b⟩ := next
    obtain ⟨least, later⟩ := List.pairwise_cons.mp ascending
    have after : lo ≤ a := least _ List.mem_cons_self
    rw [join]
    split
    · rename_i touching
      have joined : ((lo, max hi b) :: rest).Pairwise fun s t => s.1 ≤ t.1 :=
        List.pairwise_cons.mpr ⟨fun span member => least span (.tail _ member),
          (List.pairwise_cons.mp later).2⟩
      rw [ih joined]
      simp only [List.mem_cons, exists_eq_or_imp]
      -- The joined span holds the points of the two, since they touch.
      have both : lo ≤ n ∧ n ≤ max hi b ↔ (lo ≤ n ∧ n ≤ hi) ∨ (a ≤ n ∧ n ≤ b) := by omega
      rw [both, or_assoc]
    · simp only [List.mem_cons, exists_eq_or_imp] at ih ⊢
      rw [ih later]

theorem ascending_mergeSort (spans : List (Nat × Nat)) :
    (spans.mergeSort fun a b => a.1 ≤ b.1).Pairwise fun a b => a.1 ≤ b.1 := by
  refine (List.pairwise_mergeSort ?_ ?_ spans).imp of_decide_eq_true
  · intro a b c first second
    simp only [decide_eq_true_eq] at first second ⊢
    exact Nat.le_trans first second
  · intro a b
    simp only [Bool.or_eq_true, decide_eq_true_eq]
    exact Nat.le_total a.1 b.1

/-- A set made of spans holds the points of the spans. -/
theorem holds_ofSpans {spans : List (Nat × Nat)} {n : Nat} :
    (ofSpans spans).holds n = true ↔ ∃ span ∈ spans, span.1 ≤ n ∧ n ≤ span.2 := by
  have kept : (∃ span ∈ spans, span.1 ≤ n ∧ n ≤ span.2) ↔
      ∃ span ∈ (spans.filter fun span => span.1 ≤ span.2).mergeSort fun a b => a.1 ≤ b.1,
        span.1 ≤ n ∧ n ≤ span.2 := by
    refine exists_congr fun span => and_congr_left fun inside => ?_
    rw [List.mem_mergeSort, List.mem_filter, decide_eq_true_eq]
    exact (and_iff_left (Nat.le_trans inside.1 inside.2)).symm
  have ascending := ascending_mergeSort (spans.filter fun span => span.1 ≤ span.2)
  rw [kept, ofSpans]
  split
  · rename_i nothing
    rw [nothing, holds_iff]
    rfl
  · rename_i a b rest sorted
    rw [sorted] at ascending ⊢
    rw [holds_iff, mem_join_iff ascending]

end CodeSet

/-! Folding. -/

section Runs

variable {r : CaseRun} {n m : Nat}

theorem image_eq_some_iff : r.image? n = some m ↔
    (r.first ≤ n ∧ n ≤ r.last ∧ (n - r.first) % r.stride = 0) ∧ r.image + (n - r.first) = m := by
  rw [CaseRun.image?, Option.ite_none_right_eq_some, Option.some.injEq]

theorem source_eq_some_iff (proper : r.first ≤ r.last) :
    r.source? m = some n ↔ r.image? n = some m := by
  rw [image_eq_some_iff, CaseRun.source?, Option.ite_none_right_eq_some, Option.some.injEq]
  constructor
  · rintro ⟨⟨above, within, step⟩, rfl⟩
    rw [Nat.add_sub_cancel_left, Nat.add_sub_cancel' above]
    exact ⟨⟨by omega, by omega, step⟩, rfl⟩
  · rintro ⟨⟨above, within, step⟩, rfl⟩
    rw [Nat.add_sub_cancel_left, Nat.add_sub_cancel' above]
    exact ⟨⟨by omega, by omega, step⟩, rfl⟩

end Runs

def foldSourceBits : Nat := unionBits (fun r => unionBits (pointBit ·.1) r.pairs) foldRuns

def foldImageBits : Nat := unionBits (fun r => unionBits (pointBit ·.2) r.pairs) foldRuns

theorem foldImages_apart : foldImageBits &&& foldSourceBits = 0 := by decide +kernel

theorem foldRuns_proper : ∀ r ∈ foldRuns, r.first ≤ r.last := by decide +kernel

theorem foldRuns_chain :
    foldRuns.IsChain fun r s => r.last < s.first ∧ s.first ≤ s.last := by decide +kernel

theorem foldRuns_apart : foldRuns.Pairwise fun r s => r.last < s.first := by
  let before (r s : CaseRun) : Prop := r.last < s.first ∧ s.first ≤ s.last
  have along : Trans before before before :=
    ⟨fun first second =>
      ⟨Nat.lt_trans (Nat.lt_of_lt_of_le first.1 first.2) second.1, second.2⟩⟩
  exact (List.isChain_iff_pairwise.mp foldRuns_chain).imp And.left

theorem findSome_image {runs : List CaseRun} {r : CaseRun} {n m : Nat}
    (apart : runs.Pairwise fun r s => r.last < s.first) (member : r ∈ runs)
    (image : r.image? n = some m) : runs.findSome? (·.image? n) = some m := by
  induction runs with
  | nil => cases member
  | cons s rest ih =>
    obtain ⟨before, apart⟩ := List.pairwise_cons.mp apart
    rcases List.mem_cons.mp member with rfl | later
    · rw [List.findSome?_cons_of_isSome (by rw [image]; rfl), image]
    · have beyond := before r later
      have inside := (image_eq_some_iff.mp image).1
      have missed : s.image? n = none := if_neg fun here => by omega
      rw [List.findSome?_cons_of_isNone (by rw [missed]; rfl)]
      exact ih apart later

section Variants

variable {n m : Nat}

theorem simpleFold_of_image {r : CaseRun} (member : r ∈ foldRuns) (image : r.image? n = some m) :
    simpleFold n = m := by
  rw [simpleFold, findSome_image foldRuns_apart member image, Option.getD_some]

theorem simpleFold_cases (n : Nat) :
    (∃ r ∈ foldRuns, r.image? n = some (simpleFold n)) ∨ simpleFold n = n := by
  rw [simpleFold]
  cases found : foldRuns.findSome? (·.image? n) with
  | none => exact .inr rfl
  | some m => exact .inl (List.exists_of_findSome?_eq_some found)

/-- What a letter folds to is not folded any further. -/
theorem simpleFold_idem (n : Nat) : simpleFold (simpleFold n) = simpleFold n := by
  rcases simpleFold_cases n with ⟨r, member, image⟩ | same
  · have target : foldImageBits.testBit (simpleFold n) = true :=
      testBit_pairs member (mem_pairs image) (by simp)
    rcases simpleFold_cases (simpleFold n) with ⟨s, there, again⟩ | same
    · have source : foldSourceBits.testBit (simpleFold n) = true :=
        testBit_pairs there (mem_pairs again) (by simp)
      rw [testBit_of_apart foldImages_apart target] at source
      cases source
    · exact same
  · rw [same, same]

/-- The case variants of a character are those that fold to the same. -/
theorem mem_caseVariants_iff : m ∈ caseVariants n ↔ simpleFold m = simpleFold n := by
  rw [caseVariants, List.mem_cons, List.mem_filterMap]
  constructor
  · rintro (rfl | ⟨r, member, source⟩)
    · exact simpleFold_idem n
    · exact simpleFold_of_image member ((source_eq_some_iff (foldRuns_proper r member)).mp source)
  · intro alike
    rcases simpleFold_cases m with ⟨r, member, image⟩ | same
    · rw [alike] at image
      exact .inr ⟨r, member, (source_eq_some_iff (foldRuns_proper r member)).mpr image⟩
    · exact .inl (same.symm.trans alike)

def FoldAlike (c d : Char) : Prop := simpleFold d.toNat = simpleFold c.toNat

instance (c d : Char) : Decidable (FoldAlike c d) := inferInstanceAs (Decidable (_ = _))

theorem has_variantsOf {c d : Char} : (CodeSet.variantsOf c).has d = true ↔ FoldAlike c d := by
  rw [CodeSet.has, CodeSet.variantsOf, CodeSet.holds_ofSpans, FoldAlike, ← mem_caseVariants_iff]
  constructor
  · rintro ⟨span, member, above, below⟩
    obtain ⟨n, variant, rfl⟩ := List.mem_map.mp member
    rwa [Nat.le_antisymm below above]
  · intro variant
    exact ⟨_, List.mem_map_of_mem variant, Nat.le_refl _, Nat.le_refl _⟩

end Variants

/-! Folding and ASCII. -/

/-- Of ASCII only the capitals fold to another letter. -/
theorem foldRuns_of_ascii :
    ∀ r ∈ foldRuns, 128 ≤ r.first ∨ 0x41 ≤ r.first ∧ r.last ≤ 0x5A := by decide +kernel

theorem foldRuns_into_ascii :
    ∀ r ∈ foldRuns, ∀ p ∈ r.pairs, p.1 < 128 ∨ 128 ≤ p.2 ∨ p.1 = 0x17F ∨ p.1 = 0x212A := by
  decide +kernel

/-- On ASCII folding is taking the lower case. -/
theorem simpleFold_of_ascii {c : Char} (ascii : c.toNat < 128) :
    simpleFold c.toNat = c.toLower.toNat := by
  rw [toNat_toLower]
  split
  · have image : CaseRun.image? ⟨0x41, 0x5A, 1, 0x61⟩ c.toNat = some (c.toNat + 32) := by
      simp only [image_eq_some_iff]
      omega
    exact simpleFold_of_image List.mem_cons_self image
  · refine (simpleFold_cases c.toNat).resolve_left ?_
    rintro ⟨r, member, image⟩
    have inside := (image_eq_some_iff.mp image).1
    rcases foldRuns_of_ascii r member with beyond | capitals <;> omega

/-- The long s and the Kelvin sign are the characters beyond ASCII that fold to one of ASCII. -/
theorem of_simpleFold_lt {n : Nat} (ascii : simpleFold n < 128) :
    n < 128 ∨ n = 0x17F ∨ n = 0x212A := by
  rcases simpleFold_cases n with ⟨r, member, image⟩ | same
  · rcases foldRuns_into_ascii r member _ (mem_pairs image) with low | beyond | other
    · exact .inl low
    · exact absurd ascii (Nat.not_lt.mpr beyond)
    · exact .inr other
  · exact .inl (same ▸ ascii)

example : FoldAlike 's' 'ſ' ∧ FoldAlike 'k' '\u212A' := by decide +kernel

end BookmarkSearch.Unicode

namespace BookmarkSearch.Text

open Unicode

/-- The long s has a plain letter and is not the lower case of any character. -/
theorem ne_long_s {c r : Char} (member : r ∈ normalOf c) : r ≠ 'ſ' := by
  rintro rfl
  rcases normalOf_cases member with ⟨-, unstroked⟩ | small
  · exact absurd unstroked (by decide)
  · exact absurd small (by decide +kernel)

/-- In normal form no character but its lower case folds like one of ASCII. -/
theorem foldAlike_iff {c d e : Char} (ascii : c.toNat < 128) (normal : d ∈ normalOf e) :
    FoldAlike c d ↔ d = c.toLower := by
  have fold := simpleFold_of_ascii ascii
  constructor
  · intro alike
    have target : simpleFold d.toNat = c.toLower.toNat := alike.trans fold
    have low : simpleFold d.toNat < 128 := by
      rw [target, toNat_toLower]
      split <;> omega
    have small := (folded_of_mem normal).small
    rcases of_simpleFold_lt low with within | long | kelvin
    · rw [(lowerCase_of_ascii within).1, List.singleton_inj] at small
      rw [simpleFold_of_ascii within, small] at target
      exact Char.toNat_inj.mp target
    · exact absurd (Char.toNat_inj.mp long) (ne_long_s normal)
    · rw [show d = '\u212A' from Char.toNat_inj.mp kelvin] at small
      exact absurd small (by decide +kernel)
  · rintro rfl
    rw [FoldAlike, ← fold, simpleFold_idem]

theorem normalizeChars_ascii {word : List Char} (ascii : ∀ c ∈ word, c.toNat < 128) :
    normalizeChars word = word.map Char.toLower := by
  rw [normalizeChars_eq, List.map_eq_flatMap]
  exact List.flatMap_congr fun c member => normalOf_ascii (ascii c member)

section Words

variable {word part text : List Char}

theorem forall₂_foldAlike_iff (ascii : ∀ c ∈ word, c.toNat < 128)
    (normal : ∀ d ∈ part, ∃ e, d ∈ normalOf e) :
    List.Forall₂ FoldAlike word part ↔ part = word.map Char.toLower := by
  induction word generalizing part with
  | nil => rw [List.forall₂_nil_left_iff, List.map_nil]
  | cons c word ih =>
    obtain ⟨first, rest⟩ := List.forall_mem_cons.mp ascii
    cases part with
    | nil => exact iff_of_false nofun (List.cons_ne_nil _ _).symm
    | cons d part =>
      obtain ⟨⟨e, head⟩, tail⟩ := List.forall_mem_cons.mp normal
      rw [List.forall₂_cons, foldAlike_iff first head, ih rest tail, List.map_cons,
        List.cons.injEq]

/-- Up to folding, a word of ASCII is in a normal form exactly if the normal form has it in lower
case. -/
theorem infix_foldAlike_iff (ascii : ∀ c ∈ word, c.toNat < 128) :
    (∃ part, part <:+: normalizeChars text ∧ List.Forall₂ FoldAlike word part) ↔
      word.map Char.toLower <:+: normalizeChars text := by
  have normal : ∀ d ∈ normalizeChars text, ∃ e, d ∈ normalOf e := by
    intro d member
    rw [normalizeChars_eq, List.mem_flatMap] at member
    obtain ⟨e, -, left⟩ := member
    exact ⟨e, left⟩
  have lowered {part : List Char} (inside : part <:+: normalizeChars text) :
      List.Forall₂ FoldAlike word part ↔ part = word.map Char.toLower :=
    forall₂_foldAlike_iff ascii fun d member => normal d (inside.subset member)
  constructor
  · rintro ⟨part, inside, alike⟩
    rwa [← (lowered inside).mp alike]
  · intro inside
    exact ⟨_, inside, (lowered inside).mpr rfl⟩

end Words

end BookmarkSearch.Text
