import BookmarkSearch.Query.Parser

/-!
What each reading comes to, in terms of the readings it makes, and that a factor takes at least the
token it begins with.
-/

namespace BookmarkSearch.Query

namespace Cursor

theorem rest_eq_cons {c : Cursor} {t : Token} (h : c.rest.head? = some t) :
    c.rest = t :: c.next.rest := by
  cases front : c.rest with
  | nil => simp [front] at h
  | cons u rest => simp_all [next]

theorem atFactor_iff {c : Cursor} {t : Token} (h : c.rest.head? = some t) :
    c.atFactor = t.startsFactor := by
  simp [atFactor, h]

end Cursor

theorem skipClose_eq_none {inGroup : Bool} {c : Cursor} (h : c.skipClose? inGroup = none) :
    c.rest.head? ≠ some .closeParen ∨ inGroup = true ∧ c.skipped = 0 := by
  unfold Cursor.skipClose? at h
  split at h
  · split at h
    · cases h
    split at h
    · rename_i nonePending inside
      exact .inr ⟨inside, by omega⟩
    · cases h
  · rename_i other
    exact .inl other

theorem readLeaf_closeParen (inGroup : Bool) {c : Cursor}
    (closing : c.rest.head? = some .closeParen) :
    (readLeaf inGroup c).tree = none ∧
      (readLeaf inGroup c).after = (c.skipClose? inGroup).getD c := by
  unfold readLeaf
  split
  all_goals simp_all only [Option.some.injEq, reduceCtorEq]
  split <;> simp_all

theorem skipOpening_head (tokens : List Token) :
    (skipOpening tokens).2.2.head? ≠ some .openParen ∧
      (skipOpening tokens).2.2.head? ≠ some .not := by
  induction tokens with
  | nil => simp [skipOpening]
  | cons t rest ih => cases t <;> simp_all [skipOpening]

theorem readFlat_eq (inGroup : Bool) (c : Cursor) :
    let leaf := readLeaf inGroup ⟨(skipOpening c.rest).2.2, c.skipped + (skipOpening c.rest).1⟩
    (readFlat inGroup c).tree =
        (if (skipOpening c.rest).2.1 % 2 = 1 then leaf.tree.map .not else leaf.tree) ∧
      (readFlat inGroup c).after = leaf.after := by
  unfold readFlat
  simp only [Reading.since]
  split <;> simp_all [Reading.map]

section Readings

variable {limit depth : Nat} (inGroup : Bool) {c : Cursor}

theorem readFactor_beyond (beyond : limit ≤ depth) :
    readFactor limit depth inGroup c = readFlat inGroup c := by
  rw [readFactor, if_pos beyond]

theorem readFactor_not (within : ¬limit ≤ depth) (head : c.rest.head? = some .not) :
    (readFactor limit depth inGroup c).tree =
        (readFactor limit (depth + 1) inGroup c.next).tree.map .not ∧
      (readFactor limit depth inGroup c).after =
        (readFactor limit (depth + 1) inGroup c.next).after := by
  rw [readFactor.eq_def limit depth, if_neg within]
  split
  · exact ⟨rfl, rfl⟩
  all_goals simp_all

theorem readFactor_open (within : ¬limit ≤ depth) (head : c.rest.head? = some .openParen) :
    let inner := readAlternatives limit (depth + 1) true c.next
    (readFactor limit depth inGroup c).tree = inner.tree ∧
      (readFactor limit depth inGroup c).after =
        if inner.after.rest.head? = some .closeParen then inner.after.next else inner.after := by
  rw [readFactor.eq_def limit depth, if_neg within]
  split
  · simp_all
  · simp only [Reading.since, Reading.closing]
    split <;> exact ⟨rfl, rfl⟩
  · simp_all

theorem readFactor_leaf (within : ¬limit ≤ depth)
    (leaf : c.rest.head? ≠ some .openParen ∧ c.rest.head? ≠ some .not) :
    readFactor limit depth inGroup c = readLeaf inGroup c := by
  rw [readFactor, if_neg within]
  split <;> simp_all

theorem readAlternatives_eq (limit depth : Nat) (inGroup : Bool) (c : Cursor) :
    let first := readConjunction limit depth inGroup c
    (readAlternatives limit depth inGroup c).tree =
        (readDisjuncts limit depth inGroup first.tree first.after).tree ∧
      (readAlternatives limit depth inGroup c).after =
        (readDisjuncts limit depth inGroup first.tree first.after).after := by
  rw [readAlternatives]
  exact ⟨rfl, rfl⟩

theorem readConjunction_eq (limit depth : Nat) (inGroup : Bool) (c : Cursor) :
    let first := readFactor limit depth inGroup c
    (readConjunction limit depth inGroup c).tree =
        (readConjuncts limit depth inGroup first.tree first.after).tree ∧
      (readConjunction limit depth inGroup c).after =
        (readConjuncts limit depth inGroup first.tree first.after).after := by
  rw [readConjunction]
  exact ⟨rfl, rfl⟩

theorem readDisjuncts_or (limit depth : Nat) (inGroup : Bool) (tree : Option Expression)
    (head : c.rest.head? = some .or) :
    let right := readConjunction limit depth inGroup c.next
    (readDisjuncts limit depth inGroup tree c).tree =
        (readDisjuncts limit depth inGroup (combine .or tree right.tree) right.after).tree ∧
      (readDisjuncts limit depth inGroup tree c).after =
        (readDisjuncts limit depth inGroup (combine .or tree right.tree) right.after).after := by
  rw [readDisjuncts.eq_def]
  split
  · exact ⟨rfl, rfl⟩
  · simp_all

theorem readDisjuncts_end (limit depth : Nat) (inGroup : Bool) (tree : Option Expression)
    (head : c.rest.head? ≠ some .or) :
    (readDisjuncts limit depth inGroup tree c).tree = tree ∧
      (readDisjuncts limit depth inGroup tree c).after = c := by
  rw [readDisjuncts.eq_def]
  split
  · simp_all
  · exact ⟨rfl, rfl⟩

theorem readConjuncts_and (limit depth : Nat) (inGroup : Bool) (tree : Option Expression)
    (head : c.rest.head? = some .and) :
    let factor := readFactor limit depth inGroup c.next
    (readConjuncts limit depth inGroup tree c).tree =
        (readConjuncts limit depth inGroup (combine .and tree factor.tree) factor.after).tree ∧
      (readConjuncts limit depth inGroup tree c).after =
        (readConjuncts limit depth inGroup (combine .and tree factor.tree) factor.after).after := by
  rw [readConjuncts.eq_def]
  split
  · exact ⟨rfl, rfl⟩
  · simp_all

theorem readLeaf_term {text : String} (head : c.rest.head? = some (.term text)) :
    readLeaf inGroup c = ⟨some (.term text), c.next, c.next_length_le⟩ := by
  unfold readLeaf
  split <;> simp_all

theorem readFlat_progress (front : c.atFactor = true) :
    (readFlat inGroup c).after.rest.length < c.rest.length := by
  obtain ⟨rest, skipped⟩ := c
  rw [(readFlat_eq inGroup ⟨rest, skipped⟩).2]
  cases rest with
  | nil => simp [Cursor.atFactor] at front
  | cons t rest =>
    have opening := skipOpening_length rest
    have leaf (d : Cursor) := (readLeaf inGroup d).length_le
    cases t with
    | openParen => exact Nat.lt_succ_of_le (Nat.le_trans (leaf _) opening)
    | not => exact Nat.lt_succ_of_le (Nat.le_trans (leaf _) opening)
    | term text =>
      have head : (⟨.term text :: rest, skipped + 0⟩ : Cursor).rest.head? = some (.term text) := rfl
      simp only [skipOpening]
      rw [readLeaf_term inGroup head]
      exact Nat.lt_succ_self _
    | closeParen => simp [Cursor.atFactor, Token.startsFactor] at front
    | and => simp [Cursor.atFactor, Token.startsFactor] at front
    | or => simp [Cursor.atFactor, Token.startsFactor] at front

/-- A factor takes at least the token it begins with. -/
theorem readFactor_progress (limit depth : Nat) (inGroup : Bool) (front : c.atFactor = true) :
    (readFactor limit depth inGroup c).after.rest.length < c.rest.length := by
  by_cases beyond : limit ≤ depth
  · rw [readFactor_beyond inGroup beyond]
    exact readFlat_progress inGroup front
  -- A NOT or a parenthesis is gone before the inner reading begins.
  by_cases nots : c.rest.head? = some .not
  · rw [(readFactor_not inGroup beyond nots).2]
    exact Nat.lt_of_le_of_lt (Reading.length_le _) (Cursor.next_length_lt nots)
  by_cases opening : c.rest.head? = some .openParen
  · have inner := (readAlternatives limit (depth + 1) true c.next).length_le
    have shorter := Cursor.next_length_lt opening
    rw [(readFactor_open inGroup beyond opening).2]
    split
    · exact Nat.lt_of_le_of_lt (Nat.le_trans (Cursor.next_length_le _) inner) shorter
    · exact Nat.lt_of_le_of_lt inner shorter
  · rw [readFactor_leaf inGroup beyond ⟨opening, nots⟩]
    obtain ⟨text, head⟩ : ∃ text, c.rest.head? = some (.term text) := by
      cases head : c.rest.head? with
      | none => simp [Cursor.atFactor, head] at front
      | some t =>
        cases t with
        | term text => exact ⟨text, rfl⟩
        | _ => simp_all [Cursor.atFactor, Token.startsFactor]
    rw [readLeaf_term inGroup head]
    exact Cursor.next_length_lt head

theorem readConjuncts_factor (limit depth : Nat) (inGroup : Bool) (tree : Option Expression)
    (front : c.atFactor = true) :
    let factor := readFactor limit depth inGroup c
    (readConjuncts limit depth inGroup tree c).tree =
        (readConjuncts limit depth inGroup (combine .and tree factor.tree) factor.after).tree ∧
      (readConjuncts limit depth inGroup tree c).after =
        (readConjuncts limit depth inGroup (combine .and tree factor.tree) factor.after).after := by
  have shorter := readFactor_progress limit depth inGroup front
  rw [readConjuncts.eq_def]
  split
  · rename_i head
    simp [Cursor.atFactor, head, Token.startsFactor] at front
  · simp only [front, ↓reduceIte]
    rw [dif_pos shorter]
    exact ⟨rfl, rfl⟩

theorem readConjuncts_close (limit depth : Nat) {inGroup : Bool} (tree : Option Expression)
    (head : c.rest.head? ≠ some .and) (other : ¬c.atFactor = true)
    {d : Cursor} (closed : c.skipClose? inGroup = some d) :
    (readConjuncts limit depth inGroup tree c).tree =
        (readConjuncts limit depth inGroup tree d).tree ∧
      (readConjuncts limit depth inGroup tree c).after =
        (readConjuncts limit depth inGroup tree d).after := by
  rw [readConjuncts.eq_def]
  split
  · simp_all
  · rw [if_neg other]
    split
    · rename_i e same
      obtain rfl : e = d := by simpa [closed] using same.symm
      exact ⟨rfl, rfl⟩
    · simp_all

theorem readConjuncts_end (limit depth : Nat) {inGroup : Bool} (tree : Option Expression)
    (head : c.rest.head? ≠ some .and) (other : ¬c.atFactor = true)
    (staying : c.skipClose? inGroup = none) :
    (readConjuncts limit depth inGroup tree c).tree = tree ∧
      (readConjuncts limit depth inGroup tree c).after = c := by
  rw [readConjuncts.eq_def]
  split
  · simp_all
  · rw [if_neg other]
    split
    · simp_all
    · exact ⟨rfl, rfl⟩

end Readings

end BookmarkSearch.Query
