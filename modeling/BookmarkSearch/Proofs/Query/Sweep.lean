import BookmarkSearch.Proofs.Query.Descent

/-!
How far a reading goes. The loops of the descent are followed turn by turn, as they stand, without
the test that the recursion is given for its termination: a turn after which a loop goes on takes
at least one token, so the loop is left after no more turns than there are tokens, and what it has
then is what the reading gives. Outside all groups one reading of alternatives takes every token.
-/

namespace BookmarkSearch.Query

namespace Cursor

def Takes (c d : Cursor) : Prop := ∃ taken, taken ≠ [] ∧ c.rest = taken ++ d.rest

theorem takes_iff {c d : Cursor} :
    c.Takes d ↔ d.rest <:+ c.rest ∧ d.rest.length < c.rest.length := by
  constructor
  · rintro ⟨taken, someTaken, rest⟩
    have positive : 0 < taken.length := List.length_pos_iff.mpr someTaken
    refine ⟨⟨taken, rest.symm⟩, ?_⟩
    rw [rest, List.length_append]
    omega
  · rintro ⟨⟨taken, rest⟩, shorter⟩
    refine ⟨taken, ?_, rest.symm⟩
    rintro rfl
    rw [← rest] at shorter
    exact Nat.lt_irrefl _ shorter

theorem next_suffix (c : Cursor) : c.next.rest <:+ c.rest := List.tail_suffix c.rest

theorem skipClose_suffix {inGroup : Bool} {c d : Cursor} (closed : c.skipClose? inGroup = some d) :
    d.rest <:+ c.rest := by
  unfold skipClose? at closed
  split at closed
  · split at closed
    · cases closed
      exact List.tail_suffix c.rest
    split at closed
    · cases closed
    · cases closed
      exact c.next_suffix
  · cases closed

end Cursor

/-! Every reading goes forward: what it leaves is the end of what it was given. -/

theorem readLeaf_suffix (inGroup : Bool) (c : Cursor) :
    (readLeaf inGroup c).after.rest <:+ c.rest := by
  by_cases closing : c.rest.head? = some .closeParen
  · rw [(readLeaf_closeParen inGroup closing).2]
    cases closed : c.skipClose? inGroup with
    | none => exact List.suffix_rfl
    | some d => exact Cursor.skipClose_suffix closed
  · unfold readLeaf
    split
    · exact c.next_suffix
    · exact c.next_suffix
    · exact c.next_suffix
    · rename_i head
      exact absurd head closing
    all_goals exact List.suffix_rfl

theorem skipOpening_suffix (tokens : List Token) : (skipOpening tokens).2.2 <:+ tokens := by
  induction tokens with
  | nil => exact List.suffix_rfl
  | cons t rest ih =>
    cases t with
    | openParen => exact ih.trans (List.suffix_cons _ rest)
    | not => exact ih.trans (List.suffix_cons _ rest)
    | _ => exact List.suffix_rfl

theorem readFlat_suffix (inGroup : Bool) (c : Cursor) :
    (readFlat inGroup c).after.rest <:+ c.rest := by
  rw [(readFlat_eq inGroup c).2]
  exact (readLeaf_suffix inGroup _).trans (skipOpening_suffix c.rest)

theorem reading_suffix (limit : Nat) :
    (∀ depth inGroup c, (readFactor limit depth inGroup c).after.rest <:+ c.rest) ∧
      (∀ depth inGroup c, (readAlternatives limit depth inGroup c).after.rest <:+ c.rest) ∧
      (∀ depth inGroup tree c,
        (readDisjuncts limit depth inGroup tree c).after.rest <:+ c.rest) ∧
      (∀ depth inGroup c, (readConjunction limit depth inGroup c).after.rest <:+ c.rest) ∧
      ∀ depth inGroup tree c,
        (readConjuncts limit depth inGroup tree c).after.rest <:+ c.rest := by
  apply readFactor.mutual_induct limit
  case case1 =>
    intro depth inGroup c beyond
    rw [readFactor_beyond inGroup beyond]
    exact readFlat_suffix inGroup c
  case case2 =>
    intro depth inGroup c within head _ inner
    rw [(readFactor_not inGroup within head).2]
    exact inner.trans c.next_suffix
  case case3 =>
    intro depth inGroup c within head _ inner
    rw [(readFactor_open inGroup within head).2]
    split
    · exact (Cursor.next_suffix _).trans (inner.trans c.next_suffix)
    · exact inner.trans c.next_suffix
  case case4 =>
    intro depth inGroup c within nots opening
    rw [readFactor_leaf inGroup within ⟨opening, nots⟩]
    exact readLeaf_suffix inGroup c
  case case5 =>
    intro depth inGroup c factor after _ eq first others
    rw [(readAlternatives_eq limit depth inGroup c).2, eq]
    rw [eq] at first
    exact others.trans first
  case case6 =>
    intro depth inGroup tree c head _ factor after _ eq right others
    rw [(readDisjuncts_or limit depth inGroup tree head).2, eq]
    rw [eq] at right
    exact others.trans (right.trans c.next_suffix)
  case case7 =>
    intro depth inGroup tree c head
    obtain ⟨-, after⟩ := readDisjuncts_end limit depth inGroup tree head
    exact ⟨[], congrArg Cursor.rest after⟩
  case case8 =>
    intro depth inGroup c factor after _ eq first others
    rw [(readConjunction_eq limit depth inGroup c).2, eq]
    rw [eq] at first
    exact others.trans first
  case case9 =>
    intro depth inGroup tree c head _ factor after _ eq first others
    rw [(readConjuncts_and limit depth inGroup tree head).2, eq]
    rw [eq] at first
    exact others.trans (first.trans c.next_suffix)
  case case10 =>
    intro depth inGroup tree c front factor after _ eq _ _ first others
    rw [(readConjuncts_factor limit depth inGroup tree front).2, eq]
    rw [eq] at first
    exact others.trans first
  case case11 =>
    intro depth inGroup tree c front factor after _ eq stuck _ _
    have progress := readFactor_progress limit depth inGroup front
    rw [eq] at progress
    exact absurd progress stuck
  case case12 =>
    intro depth inGroup tree c other d closed _ head others
    rw [(readConjuncts_close limit depth tree head other closed).2]
    exact others.trans (Cursor.skipClose_suffix closed)
  case case13 =>
    intro depth inGroup tree c other staying head
    obtain ⟨-, after⟩ := readConjuncts_end limit depth tree head other staying
    exact ⟨[], congrArg Cursor.rest after⟩

/-! Loops. -/

/-- What a loop comes to that takes one turn after the other, and after how many it is left. -/
inductive Turns {σ : Type} (turn : σ × Cursor → Option (σ × Cursor)) :
    σ × Cursor → Nat → σ × Cursor → Prop where
  | leave {s : σ × Cursor} (left : turn s = none) : Turns turn s 0 s
  | again {s next last : σ × Cursor} {n : Nat} (goesOn : turn s = some next)
      (others : Turns turn next n last) : Turns turn s (n + 1) last

/-- A loop that takes tokens in each turn after which it goes on, and is left in the end, with a
given outcome. -/
structure Sweeps {σ : Type} (turn : σ × Cursor → Option (σ × Cursor))
    (outcome : σ × Cursor → σ × Cursor) : Prop where
  takes : ∀ s next, turn s = some next → s.2.Takes next.2
  ends : ∀ s, ∃ n, Turns turn s n (outcome s) ∧
    n + (outcome s).2.rest.length ≤ s.2.rest.length

/-- A loop is followed to its end from what each of its turns does to the outcome. -/
theorem sweeps_of_turns {σ : Type} {turn : σ × Cursor → Option (σ × Cursor)}
    {outcome : σ × Cursor → σ × Cursor}
    (takes : ∀ s next, turn s = some next → s.2.Takes next.2)
    (leaves : ∀ s, turn s = none → outcome s = s)
    (goesOn : ∀ s next, turn s = some next → outcome s = outcome next) :
    Sweeps turn outcome := by
  refine ⟨takes, fun s => ?_⟩
  generalize size : s.2.rest.length = bound
  induction bound using Nat.strongRecOn generalizing s with
  | ind bound ih =>
    cases turned : turn s with
    | none =>
      refine ⟨0, ?_, ?_⟩
      · rw [leaves s turned]
        exact .leave turned
      · rw [leaves s turned]
        omega
    | some next =>
      have shorter := (Cursor.takes_iff.mp (takes s next turned)).2
      obtain ⟨n, others, fewer⟩ := ih next.2.rest.length (by omega) next rfl
      rw [goesOn s next turned]
      exact ⟨n + 1, .again turned others, by omega⟩

def Reading.outcome {c : Cursor} (r : Reading c) : Option Expression × Cursor := (r.tree, r.after)

def disjunctsTurn (limit depth : Nat) (inGroup : Bool) :
    Option Expression × Cursor → Option (Option Expression × Cursor)
  | (tree, c) =>
    if c.rest.head? = some .or then
      let right := readConjunction limit depth inGroup c.next
      some (combine .or tree right.tree, right.after)
    else none

def conjunctsTurn (limit depth : Nat) (inGroup : Bool) :
    Option Expression × Cursor → Option (Option Expression × Cursor)
  | (tree, c) =>
    if c.rest.head? = some .and then
      let factor := readFactor limit depth inGroup c.next
      some (combine .and tree factor.tree, factor.after)
    else if c.atFactor then
      let factor := readFactor limit depth inGroup c
      some (combine .and tree factor.tree, factor.after)
    else (c.skipClose? inGroup).map fun after => (tree, after)

/-- A turn of the loop that skips what opens a factor beyond the limit; it keeps whether the NOTs so
far are odd in number. -/
def openingTurn : Bool × Cursor → Option (Bool × Cursor)
  | (negated, c) =>
    match c.rest.head? with
    | some .openParen => some (negated, ⟨c.rest.tail, c.skipped + 1⟩)
    | some .not => some (!negated, c.next)
    | _ => none

/-- A turn of the outermost loop. Besides the tree it keeps how many tokens have been given up
because nothing could be read. -/
def queryTurn (limit : Nat) :
    (Option Expression × Nat) × Cursor → Option ((Option Expression × Nat) × Cursor)
  | ((tree, givenUp), c) =>
    if c.rest = [] then none
    else
      let next := readAlternatives limit 0 false c
      if next.after.rest.length = c.rest.length then
        some ((combine .and tree next.tree, givenUp + 1), next.after.next)
      else some ((combine .and tree next.tree, givenUp), next.after)

/-! Each loop of the descent sweeps. -/

section Loops

variable (limit depth : Nat) (inGroup : Bool)

theorem disjuncts_sweep : Sweeps (disjunctsTurn limit depth inGroup)
    fun (tree, c) => (readDisjuncts limit depth inGroup tree c).outcome := by
  apply sweeps_of_turns
  · rintro ⟨tree, c⟩ next goesOn
    simp only [disjunctsTurn] at goesOn
    split at goesOn
    · rename_i head
      cases goesOn
      have right := (reading_suffix limit).2.2.2.1 depth inGroup c.next
      exact Cursor.takes_iff.mpr ⟨right.trans c.next_suffix,
        Nat.lt_of_le_of_lt right.length_le (Cursor.next_length_lt head)⟩
    · cases goesOn
  · rintro ⟨tree, c⟩ left
    have head : c.rest.head? ≠ some .or := by
      intro head
      simp [disjunctsTurn, head] at left
    obtain ⟨value, after⟩ := readDisjuncts_end limit depth inGroup tree head
    simp [Reading.outcome, value, after]
  · rintro ⟨tree, c⟩ next goesOn
    simp only [disjunctsTurn] at goesOn
    split at goesOn
    · rename_i head
      cases goesOn
      obtain ⟨value, after⟩ := readDisjuncts_or limit depth inGroup tree head
      simp only [Reading.outcome, value, after]
    · cases goesOn

theorem conjuncts_sweep : Sweeps (conjunctsTurn limit depth inGroup)
    fun (tree, c) => (readConjuncts limit depth inGroup tree c).outcome := by
  apply sweeps_of_turns
  · rintro ⟨tree, c⟩ next goesOn
    simp only [conjunctsTurn] at goesOn
    split at goesOn
    · rename_i head
      cases goesOn
      have factor := (reading_suffix limit).1 depth inGroup c.next
      exact Cursor.takes_iff.mpr ⟨factor.trans c.next_suffix,
        Nat.lt_of_le_of_lt factor.length_le (Cursor.next_length_lt head)⟩
    split at goesOn
    · rename_i front
      cases goesOn
      exact Cursor.takes_iff.mpr ⟨(reading_suffix limit).1 depth inGroup c,
        readFactor_progress limit depth inGroup front⟩
    · obtain ⟨after, closed, same⟩ := Option.map_eq_some_iff.mp goesOn
      cases same
      exact Cursor.takes_iff.mpr ⟨Cursor.skipClose_suffix closed, Cursor.skipClose_length closed⟩
  · rintro ⟨tree, c⟩ left
    simp only [conjunctsTurn] at left
    split at left
    · cases left
    split at left
    · cases left
    · rename_i head other
      have staying := Option.map_eq_none_iff.mp left
      obtain ⟨value, after⟩ := readConjuncts_end limit depth tree head other staying
      simp only [Reading.outcome, value, after]
  · rintro ⟨tree, c⟩ next goesOn
    simp only [conjunctsTurn] at goesOn
    split at goesOn
    · rename_i head
      cases goesOn
      obtain ⟨value, after⟩ := readConjuncts_and limit depth inGroup tree head
      simp only [Reading.outcome, value, after]
    split at goesOn
    · rename_i front
      cases goesOn
      obtain ⟨value, after⟩ := readConjuncts_factor limit depth inGroup tree front
      simp only [Reading.outcome, value, after]
    · rename_i head other
      obtain ⟨after, closed, same⟩ := Option.map_eq_some_iff.mp goesOn
      cases same
      obtain ⟨value, after⟩ := readConjuncts_close limit depth tree head other closed
      simp only [Reading.outcome, value, after]

end Loops

def opened : Bool × Cursor → Bool × Cursor
  | (negated, c) =>
    let (opens, nots, after) := skipOpening c.rest
    (negated ^^ nots % 2 == 1, ⟨after, c.skipped + opens⟩)

theorem opening_sweep : Sweeps openingTurn opened := by
  apply sweeps_of_turns
  · rintro ⟨negated, ⟨rest, skipped⟩⟩ next goesOn
    cases rest with
    | nil => cases goesOn
    | cons t rest =>
      cases t with
      | openParen =>
        cases goesOn
        exact ⟨[.openParen], List.cons_ne_nil _ _, rfl⟩
      | not =>
        cases goesOn
        exact ⟨[.not], List.cons_ne_nil _ _, rfl⟩
      | _ => cases goesOn
  · rintro ⟨negated, ⟨rest, skipped⟩⟩ left
    cases rest with
    | nil => simp [opened, skipOpening]
    | cons t rest =>
      cases t with
      | openParen => cases left
      | not => cases left
      | _ => simp [opened, skipOpening]
  · rintro ⟨negated, ⟨rest, skipped⟩⟩ next goesOn
    cases rest with
    | nil => cases goesOn
    | cons t rest =>
      cases t with
      | openParen =>
        cases goesOn
        simp only [opened, skipOpening, List.tail_cons, Nat.add_assoc, Nat.add_comm 1]
      | not =>
        cases goesOn
        simp only [opened, skipOpening, Cursor.next, List.tail_cons, flip_add_one]
      | _ => cases goesOn

def leafBehind (inGroup : Bool) : Bool × Cursor → Option Expression × Cursor
  | (negated, c) =>
    let leaf := readLeaf inGroup c
    (if negated then leaf.tree.map .not else leaf.tree, leaf.after)

theorem readFlat_opened (inGroup : Bool) (c : Cursor) :
    (readFlat inGroup c).outcome = leafBehind inGroup (opened (false, c)) := by
  obtain ⟨tree, after⟩ := readFlat_eq inGroup c
  simp [Reading.outcome, leafBehind, opened, tree, after]

/-- The outermost loop is left after one turn at most, in which no token is given up. -/
theorem query_turns (limit : Nat) (c : Cursor) :
    ∃ n skipped, n ≤ 1 ∧
      Turns (queryTurn limit) ((none, 0), c) n ((readAll limit none c, 0), ⟨[], skipped⟩) := by
  obtain ⟨tokens, skipped⟩ := c
  cases tokens with
  | nil =>
    refine ⟨0, skipped, Nat.zero_le 1, ?_⟩
    rw [(readAll_ended limit none rfl).1]
    exact .leave rfl
  | cons t rest =>
    have all := readAlternatives_all limit ⟨t :: rest, skipped⟩
    refine ⟨1, (readAlternatives limit 0 false ⟨t :: rest, skipped⟩).after.skipped,
      Nat.le_refl 1, ?_⟩
    have turned : queryTurn limit ((none, 0), ⟨t :: rest, skipped⟩) =
        some ((readAll limit none ⟨t :: rest, skipped⟩, 0),
          (readAlternatives limit 0 false ⟨t :: rest, skipped⟩).after) := by
      rw [(readAll_eq limit ⟨t :: rest, skipped⟩).1]
      simp [queryTurn, all]
    rw [← all]
    exact .again turned (.leave (if_pos all))

/-- However malformed a query is and wherever the limit lies, each turn of the three inner loops
takes at least one token and each loop is left with what its reading gives; the first reading of
alternatives takes all tokens; and the outermost loop is left after one turn at most, without
having given up a token. -/
theorem reads_in_one_sweep (tokens : List Token) (limit : Nat) :
    (∀ depth inGroup, Sweeps (disjunctsTurn (max limit 1) depth inGroup)
        fun (tree, c) => (readDisjuncts (max limit 1) depth inGroup tree c).outcome) ∧
      (∀ depth inGroup, Sweeps (conjunctsTurn (max limit 1) depth inGroup)
        fun (tree, c) => (readConjuncts (max limit 1) depth inGroup tree c).outcome) ∧
      Sweeps openingTurn opened ∧
      (∀ inGroup c, (readFlat inGroup c).outcome = leafBehind inGroup (opened (false, c))) ∧
      (readAlternatives (max limit 1) 0 false ⟨tokens, 0⟩).after.rest = [] ∧
      ∃ n skipped, n ≤ 1 ∧ Turns (queryTurn (max limit 1)) ((none, 0), ⟨tokens, 0⟩) n
        ((parse tokens limit, 0), ⟨[], skipped⟩) := by
  refine ⟨?_, ?_, opening_sweep, readFlat_opened, ?_, ?_⟩
  · exact disjuncts_sweep (max limit 1)
  · exact conjuncts_sweep (max limit 1)
  · exact readAlternatives_all (max limit 1) ⟨tokens, 0⟩
  · exact query_turns (max limit 1) ⟨tokens, 0⟩

end BookmarkSearch.Query
