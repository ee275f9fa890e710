import BookmarkSearch.Proofs.Search.Phrase
import BookmarkSearch.Proofs.Text.Recased

/-!
What case is nothing to. The marks of a term, the marker of a tag and whatever parts the pieces of a
description are the same in any case, so that texts which differ in case only have the same parts.
-/

namespace BookmarkSearch.Unicode

theorem lowerCase_ne_nil (c : Char) : lowerCase c ≠ [] := by
  rcases lowerCase_shapes c with rfl | small | ⟨r, member, m, pair, lower⟩
  · exact List.cons_ne_nil _ _
  · rw [small]
    exact List.cons_ne_nil _ _
  · rw [lower]
    exact List.cons_ne_nil _ _

def Caseless (p : Char → Bool) : Prop :=
  ∀ c, lowerCase c = [c] ∨ p c = false ∧ ∀ l ∈ lowerCase c, p l = false

theorem cased_of_pair {r : CaseRun} {n m : Nat} (member : r ∈ lowerRuns) (pair : (n, m) ∈ r.pairs) :
    casedBits.testBit n = true ∧ casedBits.testBit m = true := by
  simp only [casedBits, Nat.testBit_or, capital_of_pair member pair, image_of_pair member pair,
    Bool.true_or, Bool.or_true, and_self]

theorem caseless_of_bits {p : Char → Bool} {bits : Nat} (apart : casedBits &&& bits = 0)
    (known : ∀ c, p c = bits.testBit c.toNat) : Caseless p := by
  intro c
  rcases lowerCase_shapes c with rfl | small | ⟨r, member, m, pair, lower⟩
  · have outside (d : Char) (cased : d.toNat ∈ [0x130, 0x69, 0x307]) : p d = false := by
      rw [known]
      apply testBit_of_apart apart
      rw [casedBits, Nat.testBit_or, testBit_unionBits, Bool.or_eq_true, List.any_eq_true]
      exact .inr ⟨d.toNat, cased, by simp⟩
    refine .inr ⟨outside _ (by decide), ?_⟩
    have lower : lowerCase dottedCapital = ['i', '\u0307'] := rfl
    rw [lower]
    simp only [List.forall_mem_cons]
    exact ⟨outside _ (by decide), outside _ (by decide), List.forall_mem_nil _⟩
  · exact .inl small
  · obtain ⟨capital, image⟩ := cased_of_pair member pair
    refine .inr ⟨by rw [known, testBit_of_apart apart capital], ?_⟩
    rw [lower, List.forall_mem_singleton, known, toNat_of_pair member pair,
      testBit_of_apart apart image]

end BookmarkSearch.Unicode

namespace BookmarkSearch.Search

open Unicode Text Query

theorem beq_eq_testBit (c d : Char) : (c == d) = (pointBit d.toNat).testBit c.toNat := by
  rw [testBit_pointBit, Bool.eq_iff_iff, beq_iff_eq, decide_eq_true_eq]
  exact ⟨fun same => by rw [same], fun same => (Char.toNat_inj.mp same).symm⟩

theorem caseless_slash : Caseless (· == '/') :=
  caseless_of_bits (TablesFit.cased_apart_slash tablesFit) fun c => beq_eq_testBit c '/'

theorem caseless_separatesPieces : Caseless separatesPieces := by
  refine caseless_of_bits (TablesFit.cased_apart_separators tablesFit) fun c => ?_
  have comma := beq_eq_testBit c ','
  have semicolon := beq_eq_testBit c ';'
  simp only [testBit_pointBit] at comma semicolon
  rw [separatesPieces, comma, semicolon, Bool.eq_iff_iff]
  simp only [isBlank, separatorBits, Nat.testBit_or, testBit_spanBits, testBit_unionBits,
    testBit_pointBit, List.any_cons, List.any_nil, Bool.or_eq_true, Bool.and_eq_true,
    decide_eq_true_eq, beq_iff_eq, Bool.or_false]
  have comma : ','.toNat = 0x2C := rfl
  have semicolon : ';'.toNat = 0x3B := rfl
  omega

/-! Pieces. -/

theorem splitAtAll_eq_splitOnP (sep : Char → Bool) (cs : List Char) :
    splitAtAll sep cs = cs.splitOnP sep := by
  induction cs with
  | nil => rfl
  | cons c rest ih =>
    rw [splitAtAll, List.splitOnP_cons_eq_if_modifyHead, ih]
    split
    · rfl
    · cases pieces : rest.splitOnP sep with
      | nil => exact absurd pieces (List.splitOnP_ne_nil _ _)
      | cons first more => rfl

theorem splitOnP_append_of_neg {p : Char → Bool} {front : List Char}
    (noneInside : ∀ c ∈ front, p c = false) (rest : List Char) :
    (front ++ rest).splitOnP p = (rest.splitOnP p).modifyHead (front ++ ·) := by
  induction front with
  | nil =>
    rw [List.nil_append]
    cases rest.splitOnP p <;> rfl
  | cons c more ih =>
    obtain ⟨here, later⟩ := List.forall_mem_cons.mp noneInside
    rw [List.cons_append, List.splitOnP_cons_eq_if_modifyHead, here, if_neg Bool.false_ne_true,
      ih later, List.modifyHead_modifyHead]
    rfl

theorem forall₂_modifyHead {α : Type} {R : α → α → Prop} {f g : α → α} {l l' : List α}
    (carries : ∀ a b, R a b → R (f a) (g b)) (related : List.Forall₂ R l l') :
    List.Forall₂ R (l.modifyHead f) (l'.modifyHead g) := by
  cases related with
  | nil => exact .nil
  | cons head tail => exact .cons (carries _ _ head) tail

section Pieces

variable {may : Char → Prop} {p : Char → Bool} {cs ds : List Char}

theorem splitOnP_keep (c : Char)
    (pieces : List.Forall₂ (Recased may) (cs.splitOnP p) (ds.splitOnP p)) :
    List.Forall₂ (Recased may) ((c :: cs).splitOnP p) ((c :: ds).splitOnP p) := by
  rw [List.splitOnP_cons_eq_if_modifyHead, List.splitOnP_cons_eq_if_modifyHead]
  split
  · exact .cons .nil pieces
  · exact forall₂_modifyHead (fun _ _ => .keep c) pieces

theorem splitOnP_exchange {front front' : List Char} (recased : Recased may front front')
    (outside : ∀ c ∈ front, p c = false) (outside' : ∀ c ∈ front', p c = false)
    (pieces : List.Forall₂ (Recased may) (cs.splitOnP p) (ds.splitOnP p)) :
    List.Forall₂ (Recased may) ((front ++ cs).splitOnP p) ((front' ++ ds).splitOnP p) := by
  rw [splitOnP_append_of_neg outside, splitOnP_append_of_neg outside']
  exact forall₂_modifyHead (fun _ _ => recased.append) pieces

theorem recased_splitOnP (caseless : Caseless p) (recased : Recased may cs ds) :
    List.Forall₂ (Recased may) (cs.splitOnP p) (ds.splitOnP p) := by
  induction recased with
  | nil => exact .cons .nil .nil
  | keep c _ ih => exact splitOnP_keep c ih
  | @lower c _ _ allowed _ ih =>
    rcases caseless c with small | ⟨outside, outside'⟩
    · rw [small]
      exact splitOnP_keep c ih
    · have exchange : Recased may [c] (lowerCase c ++ []) := .lower allowed .nil
      rw [List.append_nil] at exchange
      exact splitOnP_exchange exchange (List.forall_mem_singleton.mpr outside) outside' ih
  | @raise c _ _ allowed _ ih =>
    rcases caseless c with small | ⟨outside, outside'⟩
    · rw [small]
      exact splitOnP_keep c ih
    · have exchange : Recased may (lowerCase c ++ []) [c] := .raise allowed .nil
      rw [List.append_nil] at exchange
      exact splitOnP_exchange exchange outside' (List.forall_mem_singleton.mpr outside) ih

end Pieces

/-! Markers. -/

/-- Letters of ASCII in lower case, other than those that characters beyond ASCII go to. -/
def MarkerLetter (w : Char) : Prop :=
  w.toNat < 128 ∧ w ≠ 'i' ∧ w ≠ 'k'

/-- A character in lower case meets the letter of a marker exactly if the character does in ASCII,
and is that letter then. -/
theorem lowerCase_marker (c : Char) {w : Char} (letter : MarkerLetter w) :
    c.toLower = w ∧ lowerCase c = [w] ∧ w.toLower = w ∨
      c.toLower ≠ w ∧ ∃ l rest, lowerCase c = l :: rest ∧ l.toLower ≠ w := by
  obtain ⟨asciiW, notI, notK⟩ := letter
  by_cases ascii : c.toNat < 128
  · obtain ⟨lower, again⟩ := lowerCase_of_ascii ascii
    by_cases same : c.toLower = w
    · rw [same] at lower again
      exact .inl ⟨same, lower, again⟩
    · exact .inr ⟨same, c.toLower, [], lower, by rwa [again]⟩
  · have foreign {d : Char} (beyond : 128 ≤ d.toNat) : d.toLower ≠ w := by
      rw [toLower_eq_self (by omega)]
      rintro rfl
      omega
    refine .inr ⟨foreign (by omega), ?_⟩
    rcases lowerCase_shapes c with rfl | small | ⟨r, member, m, pair, lower⟩
    · exact ⟨'i', ['\u0307'], rfl, notI.symm⟩
    · exact ⟨c, [], small, foreign (by omega)⟩
    · refine ⟨Char.ofNat m, [], lower, ?_⟩
      rcases TablesFit.images_of_ascii tablesFit r member _ pair with known | beyond | kelvin
      · exact absurd known ascii
      · exact foreign (by rwa [toNat_of_pair member pair])
      · have there : m = 0x6B := kelvin
        rw [there]
        exact notK.symm

theorem lowerCase_of_met {c w : Char} (letter : MarkerLetter w) (met : c.toLower = w) :
    lowerCase c = [w] := by
  rcases lowerCase_marker c letter with ⟨-, lower, -⟩ | ⟨missed, -⟩
  · exact lower
  · exact absurd met missed

theorem beginsWith_cons (w c : Char) (word cs : List Char) :
    beginsWith (w :: word) (c :: cs) = (c.toLower == w && beginsWith word cs) := by
  simp [beginsWith]

theorem beginsWith_lowerCase (c : Char) {w : Char} (letter : MarkerLetter w)
    (word cs : List Char) :
    beginsWith (w :: word) (lowerCase c ++ cs) = (c.toLower == w && beginsWith word cs) := by
  rcases lowerCase_marker c letter with ⟨met, lower, again⟩ | ⟨missed, l, more, lower, other⟩
  · rw [lower, List.singleton_append, beginsWith_cons, again, met]
  · rw [lower, List.cons_append, beginsWith_cons, beq_eq_false_iff_ne.mpr missed,
      beq_eq_false_iff_ne.mpr other, Bool.false_and, Bool.false_and]

section Markers

variable {may : Char → Prop} {cs ds : List Char}

/-- A marker is one in any case, and what follows it differs in case only. -/
theorem recased_beginsWith {word : List Char} (letters : ∀ w ∈ word, MarkerLetter w)
    (recased : Recased may cs ds) :
    beginsWith word ds = beginsWith word cs ∧
      (beginsWith word cs = true →
        Recased may (cs.drop word.length) (ds.drop word.length)) := by
  induction word generalizing cs ds with
  | nil => exact ⟨rfl, fun _ => recased⟩
  | cons w word ih =>
    obtain ⟨letter, others⟩ := List.forall_mem_cons.mp letters
    cases recased with
    | nil => exact ⟨rfl, fun marked => by cases marked⟩
    | @keep c cs ds rest =>
      obtain ⟨same, behind⟩ := ih others rest
      rw [beginsWith_cons, beginsWith_cons, same]
      exact ⟨rfl, fun marked => behind (Bool.and_eq_true_iff.mp marked).2⟩
    | @lower c cs ds _ rest =>
      obtain ⟨same, behind⟩ := ih others rest
      rw [beginsWith_lowerCase c letter, beginsWith_cons, same]
      refine ⟨rfl, fun marked => ?_⟩
      rw [Bool.and_eq_true, beq_iff_eq] at marked
      rw [lowerCase_of_met letter marked.1]
      exact behind marked.2
    | @raise c cs ds _ rest =>
      obtain ⟨same, behind⟩ := ih others rest
      rw [beginsWith_lowerCase c letter, beginsWith_cons, same]
      refine ⟨rfl, fun marked => ?_⟩
      rw [Bool.and_eq_true, beq_iff_eq] at marked
      rw [lowerCase_of_met letter marked.1]
      exact behind marked.2

theorem tagMarker_letters : ∀ w ∈ tagMarker, MarkerLetter w := by
  simp [tagMarker, MarkerLetter]

theorem regexMarker_letters : ∀ w ∈ ['r', 'e', ':'], MarkerLetter w := by
  simp [MarkerLetter]

theorem recased_afterTagMarker (recased : Recased may cs ds) :
    Option.Rel (Recased may) (afterTagMarker? cs) (afterTagMarker? ds) := by
  obtain ⟨same, behind⟩ := recased_beginsWith tagMarker_letters recased
  rw [afterTagMarker?, afterTagMarker?, same]
  split
  · rename_i marked
    exact .some (behind marked)
  · exact .none

/-- A character without case at the start stays there. -/
theorem recased_front {p : Char → Bool} (caseless : Caseless p) {c : Char} (held : p c = true)
    (recased : Recased may (c :: cs) ds) : ∃ rest, ds = c :: rest ∧ Recased may cs rest := by
  have small : lowerCase c = [c] := by
    refine (caseless c).resolve_right fun outside => ?_
    rw [held] at outside
    cases outside.1
  generalize whole : c :: cs = es at recased
  cases recased with
  | nil => cases whole
  | keep d rest =>
    obtain ⟨rfl, rfl⟩ := List.cons.inj whole
    exact ⟨_, rfl, rest⟩
  | lower _ rest =>
    obtain ⟨rfl, rfl⟩ := List.cons.inj whole
    exact ⟨_, by rw [small]; rfl, rest⟩
  | @raise d _ _ _ rest =>
    rcases caseless d with same | ⟨-, outside⟩
    · rw [same] at whole
      obtain ⟨rfl, rfl⟩ := List.cons.inj whole
      exact ⟨_, rfl, rest⟩
    · obtain ⟨l, more, lower⟩ := List.exists_cons_of_ne_nil (lowerCase_ne_nil d)
      rw [lower] at whole
      obtain ⟨rfl, -⟩ := List.cons.inj whole
      rw [outside c (lower ▸ List.mem_cons_self)] at held
      cases held

theorem rel_or {α : Type} {R : α → α → Prop} {x y : Option α} {a b : α} (related : Option.Rel R x y)
    (default : R a b) : Option.Rel R (x.or (some a)) (y.or (some b)) := by
  cases related with
  | some known => exact .some known
  | none => exact .some default

theorem caseless_last {p : Char → Bool} (caseless : Caseless p) (c : Char) :
    ∃ l, (lowerCase c).getLast? = some l ∧ p c = p l := by
  refine ⟨_, List.getLast?_eq_some_getLast (lowerCase_ne_nil c), ?_⟩
  have inside := List.getLast_mem (lowerCase_ne_nil c)
  rcases caseless c with small | ⟨out, outside⟩
  · simp only [small, List.mem_singleton] at inside
    simp only [small, List.getLast_singleton]
  · rw [out, outside _ inside]

/-- A character without case at the end stays there. -/
theorem recased_last {p : Char → Bool} (caseless : Caseless p) (recased : Recased may cs ds) :
    Option.Rel (fun a b => p a = p b) cs.getLast? ds.getLast? := by
  have consLast (c : Char) (rest : List Char) :
      (c :: rest).getLast? = rest.getLast?.or (some c) := by
    rw [← List.singleton_append, List.getLast?_append]
    rfl
  induction recased with
  | nil => exact .none
  | keep c _ ih =>
    rw [consLast, consLast]
    exact rel_or ih rfl
  | @lower c _ _ _ _ ih =>
    obtain ⟨l, last, same⟩ := caseless_last caseless c
    rw [consLast, List.getLast?_append, last]
    exact rel_or ih same
  | @raise c _ _ _ _ ih =>
    obtain ⟨l, last, same⟩ := caseless_last caseless c
    rw [consLast, List.getLast?_append, last]
    exact rel_or ih same.symm

/-- A literal term is one in any case. -/
theorem recased_literal {raw raw' : String} (literal : TermSense.ofTerm raw = .literal raw)
    (recased : Recased may raw.toList raw'.toList) :
    TermSense.ofTerm raw' = .literal raw' := by
  rw [ofTerm_eq_literal_iff] at literal ⊢
  obtain ⟨unmarked, unslashed⟩ := literal
  refine ⟨by rw [(recased_beginsWith regexMarker_letters recased).1, unmarked], ?_⟩
  rw [betweenSlashes_eq_none] at unslashed ⊢
  intro rest' slashed closed
  have back := recased.symm
  rw [slashed] at back
  obtain ⟨rest, same, inner⟩ := recased_front caseless_slash (beq_self_eq_true '/') back
  have last := recased_last caseless_slash inner
  rw [closed] at last
  cases atEnd : rest.getLast? with
  | none =>
    rw [atEnd] at last
    cases last
  | some l =>
    rw [atEnd] at last
    obtain ⟨sameEnd⟩ := last
    have slash : l = '/' := beq_iff_eq.mp sameEnd.symm
    exact unslashed rest same (by rw [atEnd, slash])

end Markers

end BookmarkSearch.Search
