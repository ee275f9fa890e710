import BookmarkSearch.Proofs.Query.Readings

/-!
What becomes of each token in a reading. The lists follow the readings call by call, and take from
them where each one ends; there is one fate for every token that is read over, in order.
-/

namespace BookmarkSearch.Query

inductive Fate where
  /-- An opening parenthesis that begins a group, while `pending` skipped ones have not closed. -/
  | group (pending : Nat)
  /-- An opening parenthesis beyond the limit. -/
  | skipped
  /-- A closing parenthesis that is counted against a skipped one. -/
  | swallowed
  | plain
deriving DecidableEq, Repr

namespace Cursor

def closeFate (c : Cursor) : Fate := if 0 < c.skipped then .swallowed else .plain

end Cursor

def leafFates (inGroup : Bool) (c : Cursor) : List Fate :=
  match c.rest.head? with
  | some (.term _) | some .and | some .or => [.plain]
  | some .closeParen => if (c.skipClose? inGroup).isSome then [c.closeFate] else []
  | some .openParen | some .not | none => []

def openingFates : List Token → List Fate
  | .openParen :: rest => .skipped :: openingFates rest
  | .not :: rest => .plain :: openingFates rest
  | _ => []

def flatFates (inGroup : Bool) (c : Cursor) : List Fate :=
  let (opens, _, after) := skipOpening c.rest
  openingFates c.rest ++ leafFates inGroup ⟨after, c.skipped + opens⟩

mutual

def factorFates (limit depth : Nat) (inGroup : Bool) (c : Cursor) : List Fate :=
  if limit ≤ depth then flatFates inGroup c
  else
    match h : c.rest.head? with
    | some .not =>
      have _shorter := Cursor.next_length_lt h
      .plain :: factorFates limit (depth + 1) inGroup c.next
    | some .openParen =>
      have _shorter := Cursor.next_length_lt h
      let inner := readAlternatives limit (depth + 1) true c.next
      .group c.skipped :: alternativesFates limit (depth + 1) true c.next ++
        if inner.after.rest.head? = some .closeParen then [.plain] else []
    | _ => leafFates inGroup c
termination_by 5 * c.rest.length

def conjunctsFates (limit depth : Nat) (inGroup : Bool) (c : Cursor) : List Fate :=
  match h : c.rest.head? with
  | some .and =>
    have _shorter := Cursor.next_length_lt h
    have _within := (readFactor limit depth inGroup c.next).length_le
    .plain :: factorFates limit depth inGroup c.next ++
      conjunctsFates limit depth inGroup (readFactor limit depth inGroup c.next).after
  | _ =>
    if c.atFactor then
      if _shorter : (readFactor limit depth inGroup c).after.rest.length < c.rest.length then
        factorFates limit depth inGroup c ++
          conjunctsFates limit depth inGroup (readFactor limit depth inGroup c).after
      else factorFates limit depth inGroup c
    else
      match k : c.skipClose? inGroup with
      | some after =>
        have _shorter := Cursor.skipClose_length k
        c.closeFate :: conjunctsFates limit depth inGroup after
      | none => []
termination_by 5 * c.rest.length + 1

def conjunctionFates (limit depth : Nat) (inGroup : Bool) (c : Cursor) : List Fate :=
  have _within := (readFactor limit depth inGroup c).length_le
  factorFates limit depth inGroup c ++
    conjunctsFates limit depth inGroup (readFactor limit depth inGroup c).after
termination_by 5 * c.rest.length + 2

def disjunctsFates (limit depth : Nat) (inGroup : Bool) (c : Cursor) : List Fate :=
  match h : c.rest.head? with
  | some .or =>
    have _shorter := Cursor.next_length_lt h
    have _within := (readConjunction limit depth inGroup c.next).length_le
    .plain :: conjunctionFates limit depth inGroup c.next ++
      disjunctsFates limit depth inGroup (readConjunction limit depth inGroup c.next).after
  | _ => []
termination_by 5 * c.rest.length + 3

def alternativesFates (limit depth : Nat) (inGroup : Bool) (c : Cursor) : List Fate :=
  have _within := (readConjunction limit depth inGroup c).length_le
  conjunctionFates limit depth inGroup c ++
    disjunctsFates limit depth inGroup (readConjunction limit depth inGroup c).after
termination_by 5 * c.rest.length + 4

end

def allFates (limit : Nat) (c : Cursor) : List Fate :=
  match h : c.rest with
  | [] => []
  | _ :: rest =>
    have _shorter : rest.length < c.rest.length := by simp [h]
    let reading := readAlternatives limit 0 false c
    alternativesFates limit 0 false c ++
      if reading.after.rest.length < c.rest.length then allFates limit reading.after
      else .plain :: allFates limit ⟨rest, reading.after.skipped⟩
termination_by c.rest.length

def fates (tokens : List Token) (limit : Nat := defaultLimit) : List Fate :=
  allFates (max limit 1) ⟨tokens, 0⟩

section Calls

variable {limit depth : Nat} (inGroup : Bool) {c : Cursor}

theorem factorFates_beyond (beyond : limit ≤ depth) :
    factorFates limit depth inGroup c = flatFates inGroup c := by
  rw [factorFates, if_pos beyond]

theorem factorFates_not (within : ¬limit ≤ depth) (head : c.rest.head? = some .not) :
    factorFates limit depth inGroup c =
      .plain :: factorFates limit (depth + 1) inGroup c.next := by
  rw [factorFates.eq_def limit depth, if_neg within]
  split <;> simp_all

theorem factorFates_open (within : ¬limit ≤ depth) (head : c.rest.head? = some .openParen) :
    factorFates limit depth inGroup c =
      .group c.skipped :: alternativesFates limit (depth + 1) true c.next ++
        if (readAlternatives limit (depth + 1) true c.next).after.rest.head? = some .closeParen
        then [.plain] else [] := by
  rw [factorFates.eq_def limit depth, if_neg within]
  split <;> simp_all

theorem factorFates_leaf (within : ¬limit ≤ depth)
    (leaf : c.rest.head? ≠ some .openParen ∧ c.rest.head? ≠ some .not) :
    factorFates limit depth inGroup c = leafFates inGroup c := by
  rw [factorFates, if_neg within]
  split <;> simp_all

theorem conjunctsFates_and (limit depth : Nat) (inGroup : Bool)
    (head : c.rest.head? = some .and) :
    conjunctsFates limit depth inGroup c =
      .plain :: factorFates limit depth inGroup c.next ++
        conjunctsFates limit depth inGroup (readFactor limit depth inGroup c.next).after := by
  rw [conjunctsFates.eq_def]
  split <;> simp_all

theorem conjunctsFates_factor (limit depth : Nat) (inGroup : Bool)
    (front : c.atFactor = true) :
    conjunctsFates limit depth inGroup c =
      factorFates limit depth inGroup c ++
        conjunctsFates limit depth inGroup (readFactor limit depth inGroup c).after := by
  have shorter := readFactor_progress limit depth inGroup front
  rw [conjunctsFates.eq_def]
  split
  · rename_i head
    simp [Cursor.atFactor, head, Token.startsFactor] at front
  · rw [if_pos front, dif_pos shorter]

theorem conjunctsFates_close (limit depth : Nat) {inGroup : Bool}
    (head : c.rest.head? ≠ some .and) (other : ¬c.atFactor = true)
    {d : Cursor} (closed : c.skipClose? inGroup = some d) :
    conjunctsFates limit depth inGroup c =
      c.closeFate :: conjunctsFates limit depth inGroup d := by
  rw [conjunctsFates.eq_def]
  split
  · simp_all
  · rw [if_neg other]
    split
    · rename_i e same
      obtain rfl : e = d := by simpa [closed] using same.symm
      rfl
    · simp_all

theorem conjunctsFates_end (limit depth : Nat) {inGroup : Bool}
    (head : c.rest.head? ≠ some .and) (other : ¬c.atFactor = true)
    (staying : c.skipClose? inGroup = none) : conjunctsFates limit depth inGroup c = [] := by
  rw [conjunctsFates.eq_def]
  split
  · simp_all
  · rw [if_neg other]
    split <;> simp_all

theorem disjunctsFates_or (limit depth : Nat) (inGroup : Bool)
    (head : c.rest.head? = some .or) :
    disjunctsFates limit depth inGroup c =
      .plain :: conjunctionFates limit depth inGroup c.next ++
        disjunctsFates limit depth inGroup (readConjunction limit depth inGroup c.next).after := by
  rw [disjunctsFates.eq_def]
  split <;> simp_all

theorem disjunctsFates_end (limit depth : Nat) (inGroup : Bool)
    (head : c.rest.head? ≠ some .or) :
    disjunctsFates limit depth inGroup c = [] := by
  rw [disjunctsFates.eq_def]
  split <;> simp_all

end Calls

end BookmarkSearch.Query
