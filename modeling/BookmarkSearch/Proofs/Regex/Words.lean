import Mathlib.Data.List.Forall2
import BookmarkSearch.Proofs.Text.Folding
import BookmarkSearch.Regex.Reader

/-!
Words as patterns. ASCII letters and digits have no meaning of their own in a pattern, so a word of
them is read as the sequence of its characters, each in all its case variants. Such a pattern,
unless it is refused for its size, matches wherever a text has the word up to case folding.
-/

namespace BookmarkSearch.Regex

open Unicode

/-! Where a sequence of sets matches. -/

namespace Positions

variable {set : CodeSet} {text : List Char} {s : Positions} {i : Nat}

theorem not_advance_zero : (advance set text s)[0]? ≠ some true := by simp [advance]

theorem advance_succ_iff : (advance set text s)[i + 1]? = some true ↔
    ∃ c, text[i]? = some c ∧ set.has c = true ∧ s[i]? = some true := by
  rw [advance, List.getElem?_cons_succ, List.getElem?_zipWith_eq_some]
  simp only [Bool.and_eq_true]
  constructor
  · rintro ⟨c, here, found, reached, rfl, member⟩
    exact ⟨c, found, member, reached⟩
  · rintro ⟨c, found, member, reached⟩
    exact ⟨c, true, found, reached, rfl, member⟩

theorem any_iff : s.any = true ↔ ∃ i : Nat, s[i]? = some true := by
  rw [any, List.contains_iff_mem, List.mem_iff_getElem?]

theorem all_iff : (all text)[i]? = some true ↔ i ≤ text.length := by
  rw [all, List.getElem?_replicate]
  split <;> simp <;> omega

end Positions

namespace Pattern

open Positions

theorem reach_seqAll (text : List Char) (ps : List Pattern) (s : Positions) :
    (seqAll ps).reach text s = ps.foldl (fun s p => p.reach text s) s := by
  induction ps generalizing s with
  | nil => rfl
  | cons p rest ih =>
    cases rest with
    | nil => rfl
    | cons q more => exact ih (p.reach text s)

abbrev Spells (sets : List CodeSet) (part : List Char) : Prop :=
  List.Forall₂ (fun set c => set.has c = true) sets part

theorem reach_sets_iff {sets : List CodeSet} {text : List Char} {s : Positions} {i : Nat} :
    ((seqAll (sets.map .oneOf)).reach text s)[i]? = some true ↔
      ∃ j part, j + part.length = i ∧ s[j]? = some true ∧ part <+: text.drop j ∧
        Spells sets part := by
  rw [reach_seqAll]
  induction sets generalizing s with
  | nil =>
    constructor
    · intro reached
      exact ⟨i, [], rfl, reached, List.nil_prefix, .nil⟩
    · rintro ⟨j, part, rfl, reached, -, spelled⟩
      cases spelled
      exact reached
  | cons set rest ih =>
    rw [List.map_cons, List.foldl_cons, ih]
    constructor
    · rintro ⟨j, part, rfl, reached, inside, spelled⟩
      cases j with
      | zero => exact absurd reached not_advance_zero
      | succ k =>
        obtain ⟨c, here, member, begun⟩ := advance_succ_iff.mp reached
        obtain ⟨within, rfl⟩ := List.getElem?_eq_some_iff.mp here
        refine ⟨k, text[k] :: part, by simp; omega, begun, ?_, .cons member spelled⟩
        rw [List.drop_eq_getElem_cons within, List.cons_prefix_cons]
        exact ⟨rfl, inside⟩
    · rintro ⟨k, part, rfl, begun, inside, spelled⟩
      cases spelled with
      | @cons _ c _ part member spelled =>
        obtain ⟨after, whole⟩ := inside
        have here : text[k]? = some c := by
          rw [← List.head?_drop, ← whole]
          rfl
        refine ⟨k + 1, part, by simp; omega, advance_succ_iff.mpr ⟨c, here, member, begun⟩, ?_,
          spelled⟩
        rw [← List.tail_drop, ← whole]
        exact List.prefix_append _ _

/-- A sequence of sets matches the texts that have it spelled somewhere. -/
theorem matchesText_sets_iff {sets : List CodeSet} {text : String} :
    (seqAll (sets.map .oneOf)).matchesText text = true ↔
      ∃ part, part <:+: text.toList ∧ Spells sets part := by
  rw [matchesText, any_iff]
  simp only [reach_sets_iff, all_iff]
  constructor
  · rintro ⟨_, j, part, rfl, -, inside, spelled⟩
    exact ⟨part, inside.isInfix.trans (List.drop_suffix _ _).isInfix, spelled⟩
  · rintro ⟨part, ⟨before, after, whole⟩, spelled⟩
    refine ⟨_, before.length, part, rfl, ?_, ?_, spelled⟩
    · simp [← whole]
    · rw [← whole, List.append_assoc, List.drop_left]
      exact List.prefix_append _ _

def ofWord (word : List Char) : Pattern := seqAll ((word.map CodeSet.variantsOf).map .oneOf)

theorem matchesText_ofWord {word : List Char} {text : String} :
    (ofWord word).matchesText text = true ↔
      ∃ part, part <:+: text.toList ∧ List.Forall₂ FoldAlike word part := by
  rw [ofWord, matchesText_sets_iff]
  simp only [Spells, List.forall₂_map_left_iff, has_variantsOf]

end Pattern

/-! How a word is read. -/

section Reading

variable {s : State} {word : List Char}

def letterPiece (c : Char) : Piece := .simple (.oneOf (CodeSet.variantsOf c))

theorem readPart_plain {c : Char} (plain : c.isAlphanum = true) (flags : s.flags = .initial)
    (rest : List Char) : readPart s c rest = some (s.push (letterPiece c), rest) := by
  unfold readPart
  split
  case h_13 =>
    rw [flags]
    rfl
  all_goals exact absurd plain (by decide)

theorem skipSpace_initial {flags : Flags} (initial : flags = .initial) (cs : List Char) :
    skipSpace flags cs = cs := by
  rw [initial]
  rfl

/-- Reading adds a piece for every character, the last one in front. -/
theorem readParts_plain (plain : ∀ c ∈ word, c.isAlphanum = true) (flags : s.flags = .initial)
    {fuel : Nat} (enough : word.length ≤ fuel) :
    readParts fuel s word =
      some { s with pieces := (word.map letterPiece).reverse ++ s.pieces } := by
  induction word generalizing s fuel with
  | nil =>
    rw [readParts, skipSpace_initial flags]
    rfl
  | cons c rest ih =>
    obtain ⟨first, later⟩ := List.forall_mem_cons.mp plain
    cases fuel with
    | zero => cases enough
    | succ fuel =>
      have next := ih (s := s.push (letterPiece c)) later flags (Nat.le_of_succ_le_succ enough)
      rw [readParts, skipSpace_initial flags]
      simp only [readPart_plain first flags, Option.bind_some]
      rw [next, List.map_cons, List.reverse_cons, List.append_assoc]
      rfl

theorem deepest_flat {depths : List Nat} (flat : ∀ d ∈ depths, d = 0) : deepest depths = 0 := by
  rw [deepest]
  induction depths with
  | nil => rfl
  | cons d rest ih =>
    obtain ⟨rfl, later⟩ := List.forall_mem_cons.mp flat
    exact ih later

theorem depthOf_flat {pieces : List Piece} (flat : ∀ p ∈ pieces, p.depth = 0) :
    Piece.depthOf pieces ≤ 1 := by
  unfold Piece.depthOf
  split
  · exact Nat.zero_le 1
  · rw [flat _ List.mem_cons_self]
    exact Nat.zero_le 1
  · exact Nat.le_of_eq (congrArg (· + 1) (deepest_flat (List.forall_mem_map.mpr flat)))

theorem readParts_word (plain : ∀ c ∈ word, c.isAlphanum = true) :
    ∃ s, readParts word.length .initial word = some s ∧ s.frames = [] ∧
      s.group.pattern = .ofWord word ∧ s.group.depth ≤ 1 := by
  refine ⟨_, readParts_plain plain rfl (Nat.le_refl _), rfl, ?_, ?_⟩
  · change Pattern.seqAll (((word.map letterPiece).reverse ++ []).reverse.map Piece.pattern) = _
    rw [List.append_nil, List.reverse_reverse, Pattern.ofWord, List.map_map, List.map_map]
    rfl
  · refine depthOf_flat fun p member => ?_
    change p ∈ (word.map letterPiece).reverse ++ [] at member
    rw [List.append_nil, List.mem_reverse] at member
    obtain ⟨c, -, rfl⟩ := List.mem_map.mp member
    rfl

/-- A word is read as the sequence of its characters, or is refused for its size. -/
theorem compile_word {x : String} (plain : ∀ c ∈ x.toList, c.isAlphanum = true) :
    compile x = if costLimit < (Pattern.ofWord x.toList).cost then .error .tooBig
      else .ok (.ofWord x.toList) := by
  obtain ⟨s, read, closed, pattern, shallow⟩ := readParts_word plain
  have sound : ¬maxDepth < s.group.depth := Nat.not_lt.mpr (Nat.le_trans shallow (by decide))
  simp only [compile, read, closed, pattern, List.isEmpty_nil, Bool.not_true, sound,
    decide_false, Bool.or_self, Bool.false_eq_true, ↓reduceIte]

theorem compile_fitting {x : String} (plain : ∀ c ∈ x.toList, c.isAlphanum = true)
    (fits : compile x ≠ .error .tooBig) : compile x = .ok (.ofWord x.toList) := by
  have either := compile_word plain
  split at either
  · exact absurd either fits
  · exact either

end Reading

end BookmarkSearch.Regex
