import BookmarkSearch.Proofs.Query.Brackets

/-!
Parts of a query in parentheses. Tokens whose parentheses match are read in a group as they are
read alone, whatever their operators are: the group ends with its own parenthesis, and the limit is
as far away as it is for the tokens alone once the nesting around the group is added to it.
-/

namespace BookmarkSearch.Query

theorem enclosing_append (inner outer : List Frame) :
    enclosing (inner ++ outer) = enclosing inner + enclosing outer := by
  induction inner with
  | nil => simp [enclosing]
  | cons f inner ih =>
    rw [List.cons_append, enclosing, enclosing, ih]
    omega

theorem combine_eq_merge (join : Expression → Expression → Expression)
    (left right : Option Expression) : combine join left right = Option.merge join left right := by
  cases left <;> cases right <;> rfl

def enclosed (tokens : List Token) : List Token := .openParen :: tokens ++ [.closeParen]

open State

namespace State

def inside (s : State) (outer : List Frame) : State := { s with groups := s.groups ++ outer }

def unclosed (s : State) : Nat := s.skipped + s.groups.length

variable {limit : Nat}

theorem atLimit_inside (limit : Nat) (s : State) (outer : List Frame) :
    (s.inside outer).atLimit (limit + enclosing outer) ↔ s.atLimit limit := by
  change limit + enclosing outer ≤ enclosing (s.groups ++ outer) + s.ahead.nots ↔
    limit ≤ enclosing s.groups + s.ahead.nots
  rw [enclosing_append]
  omega

/-- Whichever way a parenthesis is opened, it is counted until one closes. -/
theorem unclosed_step (s : State) (t : Token) :
    (s.step limit t).unclosed = openBehind s.unclosed [t] := by
  have step := step_brackets limit s t
  generalize s.step limit t = next, s.fate limit t = fate at step
  cases step with
  | skip skipped groups =>
    rw [unclosed, unclosed, openBehind, openBehind, skipped, groups]
    omega
  | group skipped groups =>
    rw [unclosed, unclosed, openBehind, openBehind, skipped, groups, List.length_cons]
    omega
  | swallow skipped groups =>
    rw [unclosed, unclosed, openBehind, openBehind, skipped, groups]
    omega
  | close nonePending skipped groups =>
    rw [unclosed, unclosed, openBehind, openBehind, nonePending, skipped, groups, List.length_tail]
    omega
  | other opening closing skipped groups =>
    have same : next.unclosed = s.unclosed := by rw [unclosed, unclosed, skipped, groups]
    cases t with
    | openParen => exact absurd rfl opening
    | closeParen => exact absurd rfl closing
    | _ => exact same

theorem step_unclosed {s : State} {t : Token} {rest : List Token} {n : Nat}
    (balance : openAfter s.unclosed (t :: rest) = some n) :
    openAfter (s.step limit t).unclosed rest = some n := by
  rw [unclosed_step]
  cases t with
  | closeParen =>
    cases opened : s.unclosed with
    | zero =>
      -- Nothing is open that the parenthesis could close, against the balance.
      rw [opened] at balance
      cases balance
    | succ fewer =>
      rw [opened] at balance
      exact balance
  | _ => exact balance

/-- A token does the same inside more groups, unless it closes the innermost of these. -/
theorem step_inside (outer : List Frame) {s : State} {t : Token} {rest : List Token} {n : Nat}
    (balance : openAfter s.unclosed (t :: rest) = some n) :
    (s.inside outer).step (limit + enclosing outer) t = (s.step limit t).inside outer := by
  have reached := atLimit_inside limit s outer
  -- Only NOT and an opening parenthesis look at the limit, only a closing one at the groups.
  cases t with
  | term text => rfl
  | and => rfl
  | or =>
    obtain ⟨groups, level, front, skipped⟩ := s
    cases front <;> rfl
  | not =>
    by_cases beyond : s.atLimit limit
    · simp only [step, if_pos beyond, if_pos (reached.mpr beyond)]
      rfl
    · simp only [step, if_neg beyond, if_neg (mt reached.mp beyond)]
      rfl
  | openParen =>
    by_cases beyond : s.atLimit limit
    · simp only [step, if_pos beyond, if_pos (reached.mpr beyond)]
      rfl
    · simp only [step, if_neg beyond, if_neg (mt reached.mp beyond)]
      rfl
  | closeParen =>
    obtain ⟨groups, level, front, skipped⟩ := s
    simp only [step, inside]
    by_cases pending : 0 < skipped
    · simp [pending]
    · cases groups with
      | nil =>
        have noneOpen : unclosed ⟨[], level, front, skipped⟩ = 0 := by
          rw [unclosed]
          simp only [List.length_nil]
          omega
        rw [noneOpen] at balance
        cases balance
      | cons f inner => simp [pending]

theorem run_inside (outer : List Frame) (tokens : List Token) {s : State} {n : Nat}
    (balance : openAfter s.unclosed tokens = some n) :
    (s.inside outer).run (limit + enclosing outer) tokens = (s.run limit tokens).inside outer := by
  induction tokens generalizing s with
  | nil => rfl
  | cons t rest ih =>
    rw [run_cons, run_cons, step_inside outer balance]
    exact ih (step_unclosed balance)

theorem run_unclosed (tokens : List Token) {s : State} {n : Nat}
    (balance : openAfter s.unclosed tokens = some n) : (s.run limit tokens).unclosed = n := by
  induction tokens generalizing s with
  | nil => exact Option.some.inj balance
  | cons t rest ih =>
    rw [run_cons]
    exact ih (step_unclosed balance)

end State

variable {limit : Nat}

/-- A group of balanced tokens joins the level around it with what the tokens are read as alone. -/
theorem run_enclosed (groups : List Frame) (level : Level) (nots : Nat) {tokens : List Token}
    (balanced : Balanced tokens) (positive : 0 < limit) :
    (expecting groups level nots 0).run (limit + (enclosing groups + nots + 1)) (enclosed tokens) =
      settled groups (level.add (underNots nots (parse tokens limit))) 0 := by
  have within : ¬limit + (enclosing groups + nots + 1) ≤ enclosing groups + nots := by omega
  have inner : (expecting (⟨level, nots⟩ :: groups) .start 0 0).run
      (limit + (enclosing groups + nots + 1)) tokens =
        (start.run limit tokens).inside (⟨level, nots⟩ :: groups) :=
    run_inside (⟨level, nots⟩ :: groups) tokens (s := start) balanced
  -- Nothing that was opened between the parentheses is left when the closing one comes.
  have allClosed :
      (start.run limit tokens).skipped = 0 ∧ (start.run limit tokens).groups = [] := by
    have noneOpen : (start.run limit tokens).unclosed = 0 :=
      run_unclosed tokens (s := start) balanced
    exact ⟨Nat.eq_zero_of_add_eq_zero_right noneOpen,
      List.length_eq_zero_iff.mp (Nat.eq_zero_of_add_eq_zero_left noneOpen)⟩
  have alone : parse tokens limit = (start.run limit tokens).level.value := by
    rw [parse_eq_run, Nat.max_eq_left positive, State.value, allClosed.2]
    rfl
  rw [enclosed, List.cons_append, run_cons, (step_group groups level nots 0 within).1, run_append,
    inner, run_cons, run_nil, alone]
  simp [step, inside, allClosed, settled, Frame.resume]

/-- Balanced parts of a query mean in parentheses what they mean alone, whatever is wrong with their
operators. An operator between two of them joins what is there to be joined, and a NOT in front of
one negates it if it has a term. -/
theorem parse_enclosed_parts {first second : List Token} (balancedFirst : Balanced first)
    (balancedSecond : Balanced second) {limit : Nat} (positive : 0 < limit) :
    parse (enclosed first ++ .and :: enclosed second) (limit + 1) =
        Option.merge .and (parse first limit) (parse second limit) ∧
      parse (enclosed first ++ .or :: enclosed second) (limit + 1) =
        Option.merge .or (parse first limit) (parse second limit) ∧
      parse (enclosed first) (limit + 1) = parse first limit ∧
      parse (.not :: enclosed first) (limit + 2) = (parse first limit).map .not := by
  have runFirst : start.run (limit + 1) (enclosed first) =
      settled [] ⟨none, parse first limit⟩ 0 := by
    have group := run_enclosed [] .start 0 balancedFirst positive
    rwa [underNots, Level.add, Level.start, none_combine] at group
  have runSecond (level : Level) : (expecting [] level 0 0).run (limit + 1) (enclosed second) =
      settled [] (level.add (parse second limit)) 0 :=
    run_enclosed [] level 0 balancedSecond positive
  have alone : max (limit + 1) 1 = limit + 1 := by omega
  refine ⟨?_, ?_, ?_, ?_⟩
  · have joined := runSecond ⟨none, parse first limit⟩
    rw [parse_eq_run, alone, run_append, runFirst, run_cons]
    change ((expecting [] ⟨none, parse first limit⟩ 0 0).run (limit + 1)
      (enclosed second)).value = _
    rw [joined, ← combine_eq_merge]
    exact none_combine .or _
  · have joined := runSecond (Level.branch ⟨none, parse first limit⟩)
    rw [parse_eq_run, alone, run_append, runFirst, run_cons]
    change ((expecting [] (Level.branch ⟨none, parse first limit⟩) 0 0).run (limit + 1)
      (enclosed second)).value = _
    rw [joined, ← combine_eq_merge]
    simp [settled, value, closeAll, Level.branch, Level.add, Level.value]
  · rw [parse_eq_run, alone, runFirst]
    exact none_combine .or _
  · have deeper : max (limit + 2) 1 = limit + 2 := by omega
    have within : ¬limit + 2 ≤ enclosing [] + 0 := by simp only [enclosing]; omega
    have behindNot : start.step (limit + 2) .not = expecting [] .start 1 0 :=
      step_not [] .start 0 0 within
    have negated : (expecting [] .start 1 0).run (limit + 2) (enclosed first) =
        settled [] ⟨none, (parse first limit).map .not⟩ 0 := by
      have group := run_enclosed [] .start 1 balancedFirst positive
      rwa [underNots, underNots, Level.add, Level.start, none_combine] at group
    rw [parse_eq_run, deeper, run_cons, behindNot, negated]
    exact none_combine .or _

/-- The parts `OR a NOT` and `(AND (b c)) NOT`. Alone, the limit of one skips the inner parentheses
of the second. -/
theorem parse_enclosed_parts_malformed :
    let first : List Token := [.or, .term "a", .not]
    let second : List Token := [.openParen, .and, .openParen, .term "b", .term "c", .closeParen,
      .closeParen, .not]
    Balanced first ∧ Balanced second ∧ 0 < 1 ∧
      parse (enclosed first ++ .and :: enclosed second) 2 =
        some (.and (.term "a") (.and (.term "b") (.term "c"))) ∧
      parse (enclosed first ++ .or :: enclosed second) 2 =
        some (.or (.term "a") (.and (.term "b") (.term "c"))) ∧
      parse (enclosed second) 2 = some (.and (.term "b") (.term "c")) ∧
      parse (.not :: enclosed second) 3 = some (.not (.and (.term "b") (.term "c"))) := by
  intro first second
  have balancedFirst : Balanced first := rfl
  have balancedSecond : Balanced second := rfl
  have positive : 0 < 1 := by decide
  have firstAlone : parse first 1 = some (.term "a") := by
    rw [parse_eq_run]
    rfl
  have secondAlone : parse second 1 = some (.and (.term "b") (.term "c")) := by
    rw [parse_eq_run]
    rfl
  obtain ⟨conjunction, disjunction, -, -⟩ :=
    parse_enclosed_parts balancedFirst balancedSecond positive
  obtain ⟨-, -, group, negation⟩ :=
    parse_enclosed_parts balancedSecond balancedFirst positive
  rw [firstAlone, secondAlone] at conjunction disjunction
  rw [secondAlone] at group negation
  exact ⟨balancedFirst, balancedSecond, positive, conjunction, disjunction, group, negation⟩

end BookmarkSearch.Query
