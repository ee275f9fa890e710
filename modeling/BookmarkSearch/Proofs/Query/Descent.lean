import BookmarkSearch.Proofs.Query.Automaton

/-!
The descent reads a query as the automaton does: from the state in which a reading begins the
automaton comes to the state in which it ends, over the same tokens and with the same fates. The
tree of a query is the value of the state behind its last token.
-/

namespace BookmarkSearch.Query

@[simp] theorem combine_none (join : Expression → Expression → Expression)
    (tree : Option Expression) : combine join tree none = tree := by
  cases tree <;> rfl

@[simp] theorem none_combine (join : Expression → Expression → Expression)
    (tree : Option Expression) : combine join none tree = tree := by
  cases tree <;> rfl

@[simp] theorem underNots_none (n : Nat) : underNots n none = none := by
  induction n with
  | zero => rfl
  | succ n ih => exact ih

namespace Level

@[simp] theorem add_none (l : Level) : l.add none = l := by
  simp [add]

end Level

@[simp] theorem Front.apply_none (f : Front) : f.apply none = none := by
  cases f with
  | mk nots flipped => cases flipped <;> simp [Front.apply]

namespace State

theorem course_cons (limit : Nat) (s : State) (t : Token) (rest : List Token) :
    s.course limit (t :: rest) = ((s.step limit t).course limit rest).since [s.fate limit t] := rfl

/-- Where a group ends, or the query, it makes no difference whether a factor is still expected. -/
theorem course_front (limit : Nat) (groups : List Frame) (level : Level) (front : Option Front)
    (skipped : Nat) (tokens : List Token)
    (ending : tokens.head? = none ∨ tokens.head? = some .closeParen) :
    course limit ⟨groups, level, front, skipped⟩ tokens =
      course limit ⟨groups, level, none, skipped⟩ tokens := by
  cases tokens with
  | nil => rfl
  | cons t rest =>
    obtain rfl : t = .closeParen := by simpa using ending
    rfl

def expecting (groups : List Frame) (level : Level) (nots skipped : Nat) : State :=
  ⟨groups, level, some ⟨nots, false⟩, skipped⟩

def settled (groups : List Frame) (level : Level) (skipped : Nat) : State :=
  ⟨groups, level, none, skipped⟩

section Steps

variable {limit : Nat} (groups : List Frame) (level : Level) (nots skipped : Nat)

theorem step_not (within : ¬limit ≤ enclosing groups + nots) :
    (expecting groups level nots skipped).step limit .not =
      expecting groups level (nots + 1) skipped := by
  simp [expecting, step, atLimit, ahead, within]

theorem step_group (within : ¬limit ≤ enclosing groups + nots) :
    (expecting groups level nots skipped).step limit .openParen =
        expecting (⟨level, nots⟩ :: groups) .start 0 skipped ∧
      (expecting groups level nots skipped).fate limit .openParen = .group skipped := by
  simp [expecting, step, fate, atLimit, ahead, within, Front.bare]

end Steps

/-- Right behind a factor the next one begins as if an AND stood in between. -/
theorem step_adjacent (limit : Nat) (groups : List Frame) (level : Level) (skipped : Nat)
    {t : Token} (front : t.startsFactor = true) :
    (settled groups level skipped).step limit t =
        (expecting groups level 0 skipped).step limit t ∧
      (settled groups level skipped).fate limit t =
        (expecting groups level 0 skipped).fate limit t := by
  cases t with
  | term text => exact ⟨rfl, rfl⟩
  | not => exact ⟨rfl, rfl⟩
  | openParen => exact ⟨rfl, rfl⟩
  | closeParen => simp [Token.startsFactor] at front
  | and => simp [Token.startsFactor] at front
  | or => simp [Token.startsFactor] at front

end State

open State

variable (limit : Nat)

/-- A closing parenthesis that the descent reads over leaves what is open as it is. -/
theorem course_skipClose (groups : List Frame) (level : Level) (front : Option Front)
    {inGroup : Bool} (around : inGroup = !groups.isEmpty) {c d : Cursor}
    (closed : c.skipClose? inGroup = some d) :
    course limit ⟨groups, level, front, c.skipped⟩ c.rest =
      ((settled groups level d.skipped).course limit d.rest).since [c.closeFate] := by
  unfold Cursor.skipClose? at closed
  split at closed
  · rename_i closing
    rw [Cursor.rest_eq_cons closing, course_cons]
    split at closed
    · rename_i pending
      cases closed
      simp [step, fate, pending, settled, Cursor.closeFate, Cursor.next]
    split at closed
    · cases closed
    · rename_i nonePending outside
      cases closed
      obtain rfl : groups = [] := by
        cases groups with
        | nil => rfl
        | cons f outer => simp_all
      simp [step, fate, nonePending, settled, Cursor.closeFate, Cursor.next]
  · cases closed

/-- A leaf is read in the place of the factor that is expected. -/
theorem course_leaf (groups : List Frame) (level : Level) (front : Front) (c : Cursor)
    {inGroup : Bool} (around : inGroup = !groups.isEmpty)
    (leaf : c.rest.head? ≠ some .openParen ∧ c.rest.head? ≠ some .not) :
    course limit ⟨groups, level, some front, c.skipped⟩ c.rest =
      ((settled groups (level.add (front.apply (readLeaf inGroup c).tree))
        (readLeaf inGroup c).after.skipped).course limit (readLeaf inGroup c).after.rest).since
        (leafFates inGroup c) := by
  by_cases closing : c.rest.head? = some .closeParen
  · obtain ⟨tree, after⟩ := readLeaf_closeParen inGroup closing
    rw [tree, after]
    simp only [leafFates, closing, Front.apply_none, Level.add_none]
    cases closed : c.skipClose? inGroup with
    | none => exact course_front limit groups level (some front) c.skipped c.rest (.inr closing)
    | some d => exact course_skipClose limit groups level (some front) around closed
  · obtain ⟨rest, skipped⟩ := c
    cases rest with
    | nil => simp [readLeaf, leafFates, settled, course_front]
    | cons t rest =>
      cases t with
      | openParen => simp at leaf
      | not => simp at leaf
      | closeParen => simp at closing
      | term text =>
        simp [course_cons, readLeaf, leafFates, step, fate, behind, settled, ahead, Cursor.next]
      | and => simp [course_cons, readLeaf, leafFates, step, fate, settled, Cursor.next]
      | or => simp [course_cons, readLeaf, leafFates, step, fate, settled, Cursor.next]

theorem flip_add_one (flipped : Bool) (n : Nat) :
    (!flipped ^^ n % 2 == 1) = (flipped ^^ (n + 1) % 2 == 1) := by
  rcases Nat.mod_two_eq_zero_or_one n with even | odd
  · have next : (n + 1) % 2 = 1 := by omega
    cases flipped <;> simp [even, next]
  · have next : (n + 1) % 2 = 0 := by omega
    cases flipped <;> simp [odd, next]

/-- Beyond the limit parentheses and NOTs change no more than what is counted. -/
theorem course_skipOpening (groups : List Frame) (level : Level) (nots : Nat) (flipped : Bool)
    (skipped : Nat) (beyond : limit ≤ enclosing groups + nots) (tokens : List Token) :
    course limit ⟨groups, level, some ⟨nots, flipped⟩, skipped⟩ tokens =
      (course limit ⟨groups, level, some ⟨nots, flipped ^^ (skipOpening tokens).2.1 % 2 == 1⟩,
        skipped + (skipOpening tokens).1⟩ (skipOpening tokens).2.2).since
        (openingFates tokens) := by
  induction tokens generalizing flipped skipped with
  | nil => simp [skipOpening, openingFates]
  | cons t rest ih =>
    cases t with
    | openParen =>
      rw [course_cons]
      simp only [step, fate, atLimit, ahead, Option.getD_some, beyond, ↓reduceIte]
      rw [ih, Course.since_since, skipOpening, openingFates, Nat.add_right_comm, Nat.add_assoc]
      rfl
    | not =>
      rw [course_cons]
      simp only [step, fate, atLimit, ahead, Option.getD_some, beyond, ↓reduceIte]
      rw [ih, Course.since_since, skipOpening, openingFates, flip_add_one]
      rfl
    | closeParen => simp [skipOpening, openingFates]
    | term text => simp [skipOpening, openingFates]
    | and => simp [skipOpening, openingFates]
    | or => simp [skipOpening, openingFates]

/-- A factor beyond the limit is read in the place of the one that is expected. -/
theorem course_flat (groups : List Frame) (level : Level) (nots : Nat) (c : Cursor)
    {inGroup : Bool} (around : inGroup = !groups.isEmpty)
    (beyond : limit ≤ enclosing groups + nots) :
    (expecting groups level nots c.skipped).course limit c.rest =
      ((settled groups (level.add (underNots nots (readFlat inGroup c).tree))
        (readFlat inGroup c).after.skipped).course limit (readFlat inGroup c).after.rest).since
        (flatFates inGroup c) := by
  obtain ⟨tree, after⟩ := readFlat_eq inGroup c
  have opening := course_skipOpening limit groups level nots false c.skipped beyond c.rest
  have leaf := course_leaf limit groups level
    ⟨nots, false ^^ (skipOpening c.rest).2.1 % 2 == 1⟩
    ⟨(skipOpening c.rest).2.2, c.skipped + (skipOpening c.rest).1⟩ around
    (skipOpening_head c.rest)
  rw [expecting, opening, leaf, Course.since_since, tree, after]
  simp [Front.apply, flatFates]

namespace Cursor

def EndsGroup (inGroup : Bool) (c : Cursor) : Prop :=
  c.rest.head? = none ∨ c.rest.head? = some .closeParen ∧ inGroup = true ∧ c.skipped = 0

def EndsConjunction (inGroup : Bool) (c : Cursor) : Prop :=
  c.rest.head? = some .or ∨ c.EndsGroup inGroup

theorem endsConjunction {inGroup : Bool} {c : Cursor} (head : c.rest.head? ≠ some .and)
    (other : ¬c.atFactor = true) (staying : c.skipClose? inGroup = none) :
    c.EndsConjunction inGroup := by
  cases front : c.rest.head? with
  | none => exact .inr (.inl front)
  | some t =>
    cases t with
    | or => exact .inl front
    | closeParen =>
      rcases skipClose_eq_none staying with outside | ⟨inside, nonePending⟩
      · exact absurd front outside
      · exact .inr (.inr ⟨front, inside, nonePending⟩)
    | and => exact absurd front head
    | _ => simp [atFactor, front, Token.startsFactor] at other

end Cursor

/-! What a reading has to do with the automaton. A group is open exactly if the descent reads in
one, and the parentheses and NOTs around are as many as it is deep. -/

def FactorFollows (depth : Nat) (inGroup : Bool) (c : Cursor) : Prop :=
  ∀ groups level nots, inGroup = !groups.isEmpty → depth = enclosing groups + nots →
    (expecting groups level nots c.skipped).course limit c.rest =
      ((settled groups (level.add (underNots nots (readFactor limit depth inGroup c).tree))
        (readFactor limit depth inGroup c).after.skipped).course limit
        (readFactor limit depth inGroup c).after.rest).since (factorFates limit depth inGroup c)

def ConjunctsFollow (depth : Nat) (inGroup : Bool) (tree : Option Expression) (c : Cursor) :
    Prop :=
  let r := readConjuncts limit depth inGroup tree c
  r.after.EndsConjunction inGroup ∧
  ∀ groups disjuncts, inGroup = !groups.isEmpty → depth = enclosing groups →
    (settled groups ⟨disjuncts, tree⟩ c.skipped).course limit c.rest =
      ((settled groups ⟨disjuncts, r.tree⟩ r.after.skipped).course limit r.after.rest).since
        (conjunctsFates limit depth inGroup c)

def ConjunctionFollows (depth : Nat) (inGroup : Bool) (c : Cursor) : Prop :=
  let r := readConjunction limit depth inGroup c
  r.after.EndsConjunction inGroup ∧
  ∀ groups disjuncts, inGroup = !groups.isEmpty → depth = enclosing groups →
    (expecting groups ⟨disjuncts, none⟩ 0 c.skipped).course limit c.rest =
      ((settled groups ⟨disjuncts, r.tree⟩ r.after.skipped).course limit r.after.rest).since
        (conjunctionFates limit depth inGroup c)

def DisjunctsFollow (depth : Nat) (inGroup : Bool) (tree : Option Expression) (c : Cursor) :
    Prop :=
  let r := readDisjuncts limit depth inGroup tree c
  c.EndsConjunction inGroup → r.after.EndsGroup inGroup ∧
  ∀ groups level, inGroup = !groups.isEmpty → depth = enclosing groups → level.value = tree →
    ∃ last : Level, last.value = r.tree ∧
      (settled groups level c.skipped).course limit c.rest =
        ((settled groups last r.after.skipped).course limit r.after.rest).since
          (disjunctsFates limit depth inGroup c)

def AlternativesFollow (depth : Nat) (inGroup : Bool) (c : Cursor) : Prop :=
  let r := readAlternatives limit depth inGroup c
  r.after.EndsGroup inGroup ∧
  ∀ groups, inGroup = !groups.isEmpty → depth = enclosing groups →
    ∃ last : Level, last.value = r.tree ∧
      (expecting groups .start 0 c.skipped).course limit c.rest =
        ((settled groups last r.after.skipped).course limit r.after.rest).since
          (alternativesFates limit depth inGroup c)

section Cases

variable {limit depth : Nat} {inGroup : Bool} {c : Cursor} {tree : Option Expression}

theorem factorFollows_beyond (beyond : limit ≤ depth) : FactorFollows limit depth inGroup c := by
  intro groups level nots around deep
  rw [readFactor_beyond inGroup beyond, factorFates_beyond inGroup beyond]
  exact course_flat limit groups level nots c around (deep ▸ beyond)

theorem factorFollows_leaf (within : ¬limit ≤ depth)
    (leaf : c.rest.head? ≠ some .openParen ∧ c.rest.head? ≠ some .not) :
    FactorFollows limit depth inGroup c := by
  intro groups level nots around _
  rw [readFactor_leaf inGroup within leaf, factorFates_leaf inGroup within leaf]
  exact course_leaf limit groups level ⟨nots, false⟩ c around leaf

theorem factorFollows_not (within : ¬limit ≤ depth) (head : c.rest.head? = some .not)
    (inner : FactorFollows limit (depth + 1) inGroup c.next) :
    FactorFollows limit depth inGroup c := by
  intro groups level nots around deep
  obtain ⟨tree, after⟩ := readFactor_not inGroup within head
  have ih := inner groups level (nots + 1) around (by omega)
  rw [tree, after, factorFates_not inGroup within head, Cursor.rest_eq_cons head, course_cons,
    step_not groups level nots _ (deep ▸ within)]
  exact (congrArg (Course.since [.plain]) ih).trans (Course.since_since _ _ _)

/-- A group that ends at the cursor is closed, by its parenthesis or by the end of the query. -/
theorem course_endsGroup (groups : List Frame) (level last : Level) (nots : Nat) {d : Cursor}
    (ending : d.EndsGroup true) :
    let behind := if d.rest.head? = some .closeParen then d.next else d
    (settled (⟨level, nots⟩ :: groups) last d.skipped).course limit d.rest =
      ((settled groups (level.add (underNots nots last.value)) behind.skipped).course limit
        behind.rest).since (if d.rest.head? = some .closeParen then [.plain] else []) := by
  rcases ending with stop | ⟨closing, -, nonePending⟩
  · have ended : d.rest = [] := List.head?_eq_none_iff.mp stop
    simp [ended, settled, course, value, closeAll, Frame.resume]
  · rw [Cursor.rest_eq_cons closing, course_cons]
    simp [settled, step, fate, nonePending, Frame.resume, Cursor.next]

theorem factorFollows_group (within : ¬limit ≤ depth) (head : c.rest.head? = some .openParen)
    (inner : AlternativesFollow limit (depth + 1) true c.next) :
    FactorFollows limit depth inGroup c := by
  intro groups level nots around deep
  obtain ⟨tree, after⟩ := readFactor_open inGroup within head
  obtain ⟨opened, fate⟩ := step_group groups level nots c.skipped (deep ▸ within)
  obtain ⟨ending, follows⟩ := inner
  obtain ⟨last, value, ih⟩ := follows (⟨level, nots⟩ :: groups) rfl (by simp [enclosing, deep])
  -- The inner reading begins at an empty level; its value joins the level around the group.
  rw [tree, after, factorFates_open inGroup within head, Cursor.rest_eq_cons head, course_cons,
    opened, fate]
  change Course.since _ (course limit (expecting _ _ _ c.next.skipped) _) = _
  rw [ih, course_endsGroup groups level last nots ending, value]
  simp

theorem conjunctsFollow_and (head : c.rest.head? = some .and)
    (factor : FactorFollows limit depth inGroup c.next)
    (others : ConjunctsFollow limit depth inGroup
      (combine .and tree (readFactor limit depth inGroup c.next).tree)
      (readFactor limit depth inGroup c.next).after) :
    ConjunctsFollow limit depth inGroup tree c := by
  obtain ⟨value, after⟩ := readConjuncts_and limit depth inGroup tree head
  unfold ConjunctsFollow
  simp only [value, after]
  refine ⟨others.1, fun groups disjuncts around deep => ?_⟩
  rw [Cursor.rest_eq_cons head, course_cons, conjunctsFates_and limit depth inGroup head]
  change Course.since _ (course limit (expecting groups ⟨disjuncts, tree⟩ 0 c.next.skipped) _) = _
  have first := factor groups ⟨disjuncts, tree⟩ 0 around deep
  have rest := others.2 groups disjuncts around deep
  rw [first]
  simp only [underNots, Level.add]
  rw [rest]
  simp [fate]

theorem conjunctsFollow_factor (front : c.atFactor = true)
    (factor : FactorFollows limit depth inGroup c)
    (others : ConjunctsFollow limit depth inGroup
      (combine .and tree (readFactor limit depth inGroup c).tree)
      (readFactor limit depth inGroup c).after) :
    ConjunctsFollow limit depth inGroup tree c := by
  obtain ⟨value, after⟩ := readConjuncts_factor limit depth inGroup tree front
  unfold ConjunctsFollow
  simp only [value, after]
  refine ⟨others.1, fun groups disjuncts around deep => ?_⟩
  have first := factor groups ⟨disjuncts, tree⟩ 0 around deep
  have following := others.2 groups disjuncts around deep
  -- The automaton is right behind a factor here, yet takes the same step as if one were expected.
  obtain ⟨t, head⟩ := Option.isSome_iff_exists.mp (Option.isSome_of_any front)
  rw [Cursor.atFactor_iff head] at front
  obtain ⟨step, fate⟩ := step_adjacent limit groups ⟨disjuncts, tree⟩ c.skipped front
  rw [Cursor.rest_eq_cons head, course_cons, step, fate, ← course_cons,
    ← Cursor.rest_eq_cons head, first]
  simp only [underNots, Level.add]
  rw [following, Course.since_since,
    conjunctsFates_factor limit depth inGroup ((Cursor.atFactor_iff head).trans front)]

theorem conjunctsFollow_close (head : c.rest.head? ≠ some .and) (other : ¬c.atFactor = true)
    {d : Cursor} (closed : c.skipClose? inGroup = some d)
    (others : ConjunctsFollow limit depth inGroup tree d) :
    ConjunctsFollow limit depth inGroup tree c := by
  obtain ⟨value, after⟩ := readConjuncts_close limit depth tree head other closed
  unfold ConjunctsFollow
  simp only [value, after]
  refine ⟨others.1, fun groups disjuncts around deep => ?_⟩
  rw [conjunctsFates_close limit depth head other closed, settled,
    course_skipClose limit groups ⟨disjuncts, tree⟩ none around closed,
    others.2 groups disjuncts around deep]
  simp

theorem conjunctsFollow_end (head : c.rest.head? ≠ some .and) (other : ¬c.atFactor = true)
    (staying : c.skipClose? inGroup = none) : ConjunctsFollow limit depth inGroup tree c := by
  obtain ⟨value, after⟩ := readConjuncts_end limit depth tree head other staying
  unfold ConjunctsFollow
  simp only [value, after]
  refine ⟨Cursor.endsConjunction head other staying, fun groups disjuncts _ _ => ?_⟩
  rw [conjunctsFates_end limit depth head other staying, Course.since_nil]

theorem conjunctionFollows (factor : FactorFollows limit depth inGroup c)
    (others : ConjunctsFollow limit depth inGroup (readFactor limit depth inGroup c).tree
      (readFactor limit depth inGroup c).after) :
    ConjunctionFollows limit depth inGroup c := by
  obtain ⟨value, after⟩ := readConjunction_eq limit depth inGroup c
  unfold ConjunctionFollows
  simp only [value, after]
  refine ⟨others.1, fun groups disjuncts around deep => ?_⟩
  have first := factor groups ⟨disjuncts, none⟩ 0 around deep
  simp only [underNots, Level.add, none_combine] at first
  rw [first, others.2 groups disjuncts around deep, Course.since_since, conjunctionFates]

theorem disjunctsFollow_or (head : c.rest.head? = some .or)
    (right : ConjunctionFollows limit depth inGroup c.next)
    (others : DisjunctsFollow limit depth inGroup
      (combine .or tree (readConjunction limit depth inGroup c.next).tree)
      (readConjunction limit depth inGroup c.next).after) :
    DisjunctsFollow limit depth inGroup tree c := by
  obtain ⟨value, after⟩ := readDisjuncts_or limit depth inGroup tree head
  unfold DisjunctsFollow
  simp only [value, after]
  intro _
  obtain ⟨ending, follows⟩ := others right.1
  refine ⟨ending, fun groups level around deep before => ?_⟩
  have first := right.2 groups level.value around deep
  obtain ⟨last, lastValue, rest⟩ := follows groups
    ⟨level.value, (readConjunction limit depth inGroup c.next).tree⟩ around deep
    (by rw [← before]; rfl)
  refine ⟨last, lastValue, ?_⟩
  rw [Cursor.rest_eq_cons head, course_cons, disjunctsFates_or limit depth inGroup head]
  change Course.since _ (course limit (expecting groups level.branch 0 c.next.skipped) _) = _
  rw [Level.branch, first, rest]
  simp [fate]

theorem disjunctsFollow_end (head : c.rest.head? ≠ some .or) :
    DisjunctsFollow limit depth inGroup tree c := by
  obtain ⟨value, after⟩ := readDisjuncts_end limit depth inGroup tree head
  unfold DisjunctsFollow
  simp only [value, after]
  rintro (front | ending)
  · exact absurd front head
  · refine ⟨ending, fun groups level _ _ before => ⟨level, before, ?_⟩⟩
    rw [disjunctsFates_end limit depth inGroup head, Course.since_nil]

theorem alternativesFollow (first : ConjunctionFollows limit depth inGroup c)
    (others : DisjunctsFollow limit depth inGroup (readConjunction limit depth inGroup c).tree
      (readConjunction limit depth inGroup c).after) :
    AlternativesFollow limit depth inGroup c := by
  obtain ⟨value, after⟩ := readAlternatives_eq limit depth inGroup c
  unfold AlternativesFollow
  simp only [value, after]
  obtain ⟨ending, follows⟩ := others first.1
  refine ⟨ending, fun groups around deep => ?_⟩
  obtain ⟨last, lastValue, rest⟩ := follows groups
    ⟨none, (readConjunction limit depth inGroup c).tree⟩ around deep (by simp [Level.value])
  refine ⟨last, lastValue, ?_⟩
  rw [Level.start, first.2 groups none around deep, rest, Course.since_since, alternativesFates]

end Cases

/-- The whole descent, by induction along its calls. -/
theorem reading_follows :
    (∀ depth inGroup c, FactorFollows limit depth inGroup c) ∧
      (∀ depth inGroup c, AlternativesFollow limit depth inGroup c) ∧
      (∀ depth inGroup tree c, DisjunctsFollow limit depth inGroup tree c) ∧
      (∀ depth inGroup c, ConjunctionFollows limit depth inGroup c) ∧
      ∀ depth inGroup tree c, ConjunctsFollow limit depth inGroup tree c := by
  apply readFactor.mutual_induct limit
  case case1 => exact fun _ _ _ beyond => factorFollows_beyond beyond
  case case2 => exact fun _ _ _ within head _ inner => factorFollows_not within head inner
  case case3 => exact fun _ _ _ within head _ inner => factorFollows_group within head inner
  case case4 =>
    exact fun _ _ _ within nots opening => factorFollows_leaf within ⟨opening, nots⟩
  case case5 =>
    intro depth inGroup c factor after within eq first others
    exact alternativesFollow first (by rwa [eq])
  case case6 =>
    intro depth inGroup tree c head _ factor after within eq right others
    exact disjunctsFollow_or head right (by rwa [eq])
  case case7 => exact fun _ _ _ _ head => disjunctsFollow_end head
  case case8 =>
    intro depth inGroup c factor after within eq first others
    exact conjunctionFollows first (by rwa [eq])
  case case9 =>
    intro depth inGroup tree c head _ factor after within eq first others
    exact conjunctsFollow_and head first (by rwa [eq])
  case case10 =>
    intro depth inGroup tree c front factor after within eq _ _ first others
    exact conjunctsFollow_factor front first (by rwa [eq])
  case case11 =>
    -- The branch is there for the recursion only: a factor takes the token it begins with.
    intro depth inGroup tree c front factor after within eq stuck _ _
    have progress := readFactor_progress limit depth inGroup front
    rw [eq] at progress
    exact absurd progress stuck
  case case12 =>
    exact fun _ _ _ _ other _ closed _ head others => conjunctsFollow_close head other closed others
  case case13 => exact fun _ _ _ _ other staying head => conjunctsFollow_end head other staying

/-- Outside all groups the alternatives go on to the end of the query. -/
theorem readAlternatives_all (c : Cursor) :
    (readAlternatives limit 0 false c).after.rest = [] := by
  rcases ((reading_follows limit).2.1 0 false c).1 with stop | ⟨-, inside, -⟩
  · exact List.head?_eq_none_iff.mp stop
  · exact absurd inside (by decide)

theorem readAlternatives_nil (skipped : Nat) :
    (readAlternatives limit 0 false ⟨[], skipped⟩).tree = none ∧
      alternativesFates limit 0 false ⟨[], skipped⟩ = [] := by
  obtain ⟨last, value, follows⟩ := ((reading_follows limit).2.1 0 false ⟨[], skipped⟩).2 [] rfl rfl
  rw [readAlternatives_all, course, course] at follows
  obtain ⟨fates, tree⟩ := Course.mk.inj follows
  exact ⟨value.symm.trans tree.symm, (List.append_eq_nil_iff.mp fates.symm).1⟩

theorem readAll_ended (tree : Option Expression) {c : Cursor} (ended : c.rest = []) :
    readAll limit tree c = tree ∧ allFates limit c = [] := by
  constructor
  · rw [readAll.eq_def]
    split <;> simp_all
  · rw [allFates.eq_def]
    split <;> simp_all

/-- One reading of alternatives is all there is to a query; no token is ever given up. -/
theorem readAll_eq (c : Cursor) :
    readAll limit none c = (readAlternatives limit 0 false c).tree ∧
      allFates limit c = alternativesFates limit 0 false c := by
  obtain ⟨tokens, skipped⟩ := c
  cases tokens with
  | nil =>
    obtain ⟨tree, fates⟩ := readAlternatives_nil limit skipped
    rw [tree, fates]
    exact readAll_ended limit none rfl
  | cons t rest =>
    have all := readAlternatives_all limit ⟨t :: rest, skipped⟩
    have ended (tree : Option Expression) := readAll_ended limit tree all
    rw [readAll.eq_def, allFates.eq_def]
    simp [all, (ended none).2, ended]

/-- What the automaton makes of a query is what the descent makes of it. -/
theorem start_course (tokens : List Token) (limit : Nat) :
    State.start.course (max limit 1) tokens = ⟨fates tokens limit, parse tokens limit⟩ := by
  obtain ⟨tree, all⟩ := readAll_eq (max limit 1) ⟨tokens, 0⟩
  obtain ⟨last, value, follows⟩ :=
    ((reading_follows (max limit 1)).2.1 0 false ⟨tokens, 0⟩).2 [] rfl rfl
  rw [readAlternatives_all] at follows
  rw [fates, parse, tree, all, ← value]
  exact follows.trans (by simp [Course.since, course, settled, State.value, closeAll])

end BookmarkSearch.Query
