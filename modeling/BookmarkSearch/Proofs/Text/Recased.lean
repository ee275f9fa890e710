import BookmarkSearch.Proofs.Text.Capitals

/-!
Texts that differ in the case of some letters. Their normal forms are of one length and differ only
in letters, and they are the same exactly if all letters whose case is changed commute. Normalizing
a second time changes nothing exactly if all letters of a text settle.
-/

namespace BookmarkSearch.Text

open Unicode

/-- That two texts differ only in that some characters which `may` stand in one of them are in lower
case in the other. -/
inductive Recased (may : Char → Prop) : List Char → List Char → Prop where
  | nil : Recased may [] []
  | keep (c : Char) {cs ds : List Char} : Recased may cs ds → Recased may (c :: cs) (c :: ds)
  | lower {c : Char} {cs ds : List Char} : may c → Recased may cs ds →
      Recased may (c :: cs) (lowerCase c ++ ds)
  | raise {c : Char} {cs ds : List Char} : may c → Recased may cs ds →
      Recased may (lowerCase c ++ cs) (c :: ds)

namespace Recased

variable {may : Char → Prop} {cs ds : List Char}

theorem refl (cs : List Char) : Recased may cs cs := by
  induction cs with
  | nil => exact nil
  | cons c rest ih => exact keep c ih

theorem symm (recased : Recased may cs ds) : Recased may ds cs := by
  induction recased with
  | nil => exact nil
  | keep c _ ih => exact keep c ih
  | lower allowed _ ih => exact raise allowed ih
  | raise allowed _ ih => exact lower allowed ih

theorem append {cs' ds' : List Char} (first : Recased may cs ds) (second : Recased may cs' ds') :
    Recased may (cs ++ cs') (ds ++ ds') := by
  induction first with
  | nil => exact second
  | keep c _ ih => exact keep c ih
  | lower allowed _ ih =>
    rw [List.append_assoc]
    exact lower allowed ih
  | raise allowed _ ih =>
    rw [List.append_assoc]
    exact raise allowed ih

/-- A text in lower case is one of those that differ from it in case only. -/
theorem of_lowerCase (all : ∀ c ∈ cs, may c) (lower : cs.flatMap lowerCase = ds) :
    Recased may cs ds := by
  induction cs generalizing ds with
  | nil => exact lower ▸ nil
  | cons c rest ih =>
    obtain ⟨here, later⟩ := List.forall_mem_cons.mp all
    rw [← lower, List.flatMap_cons]
    exact Recased.lower here (ih later rfl)

end Recased

/-! Normal forms. -/

theorem normalizeChars_cons (c : Char) (rest : List Char) :
    normalizeChars (c :: rest) = normalOf c ++ normalizeChars rest := by
  rw [normalizeChars_eq, List.flatMap_cons, normalizeChars_eq]

theorem normalizeChars_recased {cs ds : List Char} (recased : Recased Commutes cs ds) :
    normalizeChars ds = normalizeChars cs := by
  induction recased with
  | nil => rfl
  | keep c _ ih => rw [normalizeChars_cons, ih, normalizeChars_cons]
  | lower commutes _ ih =>
    rw [normalizeChars_append, (normalOf_lowerCase_iff _).mpr commutes, ih, normalizeChars_cons]
  | raise commutes _ ih =>
    rw [normalizeChars_append, (normalOf_lowerCase_iff _).mpr commutes, ← ih, normalizeChars_cons]

theorem Alike.symm {a b : Char} (alike : Alike a b) : Alike b a :=
  alike.imp Eq.symm And.symm

section Recased

variable {may : Char → Prop} {cs ds : List Char}

/-- The normal forms of two texts that differ in case only are of one length. -/
theorem Recased.alike (recased : Recased may cs ds) :
    List.Forall₂ Alike (normalizeChars cs) (normalizeChars ds) := by
  induction recased with
  | nil => exact .nil
  | keep c _ ih =>
    rw [normalizeChars_cons, normalizeChars_cons]
    exact List.rel_append (List.forall₂_same.mpr fun _ _ => .inl rfl) ih
  | @lower c _ _ _ _ ih =>
    rw [normalizeChars_cons, normalizeChars_append]
    exact List.rel_append (alike_lowerCase c) ih
  | @raise c _ _ _ _ ih =>
    rw [normalizeChars_cons, normalizeChars_append]
    have back := List.Forall₂.flip ((alike_lowerCase c).imp fun _ _ => Alike.symm)
    exact List.rel_append back ih

/-- No letter whose case is changed makes good for another. -/
theorem Recased.commutes (recased : Recased may cs ds)
    (same : normalizeChars ds = normalizeChars cs) : Recased Commutes cs ds := by
  induction recased with
  | nil => exact nil
  | keep c _ ih =>
    rw [normalizeChars_cons, normalizeChars_cons] at same
    exact keep c (ih (List.append_cancel_left same))
  | @lower c _ _ _ _ ih =>
    rw [normalizeChars_cons, normalizeChars_append] at same
    obtain ⟨here, later⟩ := List.append_inj same (alike_lowerCase c).length_eq.symm
    exact lower ((normalOf_lowerCase_iff c).mp here) (ih later)
  | @raise c _ _ _ _ ih =>
    rw [normalizeChars_cons, normalizeChars_append] at same
    obtain ⟨here, later⟩ := List.append_inj same (alike_lowerCase c).length_eq
    exact raise ((normalOf_lowerCase_iff c).mp here.symm) (ih later)

theorem Recased.normalizeChars_iff (recased : Recased may cs ds) :
    normalizeChars ds = normalizeChars cs ↔ Recased Commutes cs ds :=
  ⟨recased.commutes, normalizeChars_recased⟩

end Recased

theorem normalizeChars_twice_iff (cs : List Char) :
    normalizeChars (normalizeChars cs) = normalizeChars cs ↔ ∀ c ∈ cs, Settles c := by
  have settled : (∀ l ∈ normalizeChars cs, plainLetter l = l) ↔
      ∀ c ∈ cs, ∀ l ∈ normalOf c, plainLetter l = l := by
    rw [normalizeChars_eq, List.forall_mem_flatMap]
  rw [normalizeChars_twice]
  conv_lhs => rhs; rw [← List.map_id (normalizeChars cs)]
  rw [List.map_inj_left]
  exact settled.trans (forall₂_congr fun c _ => settles_iff c)

/-! What is left of the words. -/

def wordsOf (cs : List Char) : List Char := cs.filter isWordChar

/-- A sign stays as it is and is part of no word. -/
theorem normalOf_sign {c : Char} (sign : signBits.testBit c.toNat = true) :
    normalOf c = [c] ∧ isWordChar c = false := by
  have apart := testBit_of_apart (TablesFit.signs_apart tablesFit) sign
  rw [Nat.testBit_or, Bool.or_eq_false_iff, Nat.testBit_or, Bool.or_eq_false_iff] at apart
  obtain ⟨⟨folded, unstroked⟩, letter⟩ := apart
  constructor
  · rw [normalOf_folded (folded_of_apart folded), plainLetter_of_unstroked unstroked]
  · have other : c ≠ '_' := by
      rintro rfl
      revert sign
      decide
    rw [CodeSet.testBit_bits] at letter
    rw [isWordChar, isAlphanumeric, CodeSet.has, letter, Bool.false_or, beq_eq_false_iff_ne]
    exact other

theorem wordsOf_dropWhile (cs : List Char) :
    wordsOf (cs.dropWhile (!isWordChar ·)) = wordsOf cs := by
  induction cs with
  | nil => rfl
  | cons c rest ih =>
    cases word : isWordChar c with
    | true => rw [List.dropWhile_cons_of_neg (by simp [word])]
    | false =>
      rw [List.dropWhile_cons_of_pos (by simp [word]), ih, wordsOf, wordsOf,
        List.filter_cons_of_neg (by simp [word])]

theorem wordsOf_reverse (cs : List Char) : wordsOf cs.reverse = (wordsOf cs).reverse :=
  List.filter_reverse

theorem wordsOf_trimBy (cs : List Char) :
    wordsOf (trimBy (!isWordChar ·) cs) = wordsOf cs := by
  rw [trimBy, wordsOf_reverse, wordsOf_dropWhile, wordsOf_reverse, wordsOf_dropWhile,
    List.reverse_reverse]

theorem length_wordsOf {cs ds : List Char} (alike : List.Forall₂ Alike cs ds) :
    (wordsOf cs).length = (wordsOf ds).length := by
  induction alike with
  | nil => rfl
  | @cons a b _ _ same _ ih =>
    have word : isWordChar a = isWordChar b := by
      rcases same with rfl | ⟨left, right⟩
      · rfl
      · rw [left, right]
    rw [wordsOf, wordsOf, List.filter_cons, List.filter_cons, word]
    split
    · exact congrArg Nat.succ ih
    · exact ih

/-- Texts that differ in letters only are the same if their words are. -/
theorem eq_of_wordsOf {cs ds : List Char} (alike : List.Forall₂ Alike cs ds)
    (same : wordsOf cs = wordsOf ds) : cs = ds := by
  induction alike with
  | nil => rfl
  | @cons a b _ _ head _ ih =>
    rw [wordsOf, wordsOf, List.filter_cons, List.filter_cons] at same
    rcases head with rfl | ⟨left, right⟩
    · split at same
      · rw [ih (List.cons.inj same).2]
      · rw [ih same]
    · rw [if_pos left, if_pos right] at same
      obtain ⟨first, rest⟩ := List.cons.inj same
      rw [first, ih rest]

theorem eq_of_wordsOf_sublist {cs ds : List Char} (alike : List.Forall₂ Alike cs ds)
    (inside : (wordsOf cs).Sublist (wordsOf ds)) : cs = ds :=
  eq_of_wordsOf alike (inside.eq_of_length (length_wordsOf alike))

end BookmarkSearch.Text
