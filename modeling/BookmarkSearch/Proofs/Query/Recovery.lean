import BookmarkSearch.Proofs.Query.Composition
import BookmarkSearch.Proofs.Query.Joints

/-!
What recovery discards. A closing parenthesis that closes nothing and an operator where a factor is
expected are read in the place of that factor: the NOTs in front go with them, and an operator right
behind them is no longer one too many. To delete such a token leaves the expression as it is exactly
if the next operand is joined as before, by the same operator and under as many NOTs.
-/

namespace BookmarkSearch.Query

open State

/-- Whether a token that stands behind `pre` is discarded: a closing parenthesis without an opening
one, or an AND or OR at the beginning of the query or of a group or right behind an operator. -/
def Discarded (pre : List Token) : Token → Prop
  | .closeParen => openBehind 0 pre = 0
  | .and | .or => ∀ before ∈ pre.getLast?, before.endsFactor = false
  | .term _ | .not | .openParen => False

theorem openBehind_cons (n : Nat) (t : Token) (rest : List Token) :
    openBehind n (t :: rest) = openBehind (openBehind n [t]) rest := by
  cases t <;> rfl

namespace State

variable {limit : Nat} {s : State}

theorem run_openBehind (tokens : List Token) :
    (s.run limit tokens).unclosed = openBehind s.unclosed tokens := by
  induction tokens generalizing s with
  | nil => rfl
  | cons t rest ih => rw [run_cons, ih, unclosed_step, ← openBehind_cons]

/-- The tokens that at most change where a state stands in its level: AND, OR, and a closing
parenthesis while none is open, skipped ones included. -/
inductive Discards (s : State) : Token → Prop where
  | and : Discards s .and
  | or : Discards s .or
  | close (noneSkipped : s.skipped = 0) (noGroups : s.groups = []) : Discards s .closeParen

theorem discards_run {pre : List Token} {t : Token} (discarded : Discarded pre t) :
    (start.run limit pre).Discards t := by
  cases t with
  | and => exact .and
  | or => exact .or
  | closeParen =>
    have noneOpen : (start.run limit pre).unclosed = 0 := (run_openBehind pre).trans discarded
    have noneSkipped := Nat.eq_zero_of_add_eq_zero_right noneOpen
    have noGroups := List.length_eq_zero_iff.mp (Nat.eq_zero_of_add_eq_zero_left noneOpen)
    exact .close noneSkipped noGroups
  | term text => cases discarded
  | not => cases discarded
  | openParen => cases discarded

/-- Away from the limit a state is its level and its spot there. -/
theorem standing_spot {tokens : List Token} (roomy : Roomy limit s tokens) :
    standing s.groups s.level s.spot = s := by
  obtain ⟨groups, ⟨disjuncts, factors⟩, front, skipped⟩ := s
  obtain ⟨-, noneSkipped, unflipped⟩ := roomy
  obtain rfl : skipped = 0 := noneSkipped
  have level : Level.awaiting ⟨disjuncts, factors⟩ factors.isNone = ⟨disjuncts, factors⟩ := by
    cases factors with
    | none => simp [Level.awaiting, Level.branch, Level.value]
    | some factor => rfl
  have sameFront : (front.map Front.nots).map (⟨·, false⟩) = front := by
    cases front with
    | none => rfl
    | some f =>
      obtain ⟨nots, flipped⟩ := f
      obtain rfl : flipped = false := unflipped
      rfl
  simp only [standing, spot, level, sameFront]

/-- A discarded token changes the spot in the level, and nothing else. -/
theorem step_discards {tokens : List Token} {t : Token} (roomy : Roomy limit s tokens)
    (discards : s.Discards t) :
    s.step limit t = standing s.groups s.level (s.spot.pass t) := by
  have moved : (standing s.groups s.level s.spot).step limit t =
      standing s.groups s.level (s.spot.pass t) := by
    cases discards with
    | and => exact standing_and
    | or => exact standing_or
    | close noneSkipped noGroups => rw [noGroups, standing_unmatched]
  rwa [standing_spot roomy] at moved

theorem nextJoint_discards {t : Token} (discards : s.Discards t) (rest : List Token) :
    s.nextJoint (t :: rest) = (s.spot.pass t).joint? (!s.groups.isEmpty) 0 rest := by
  cases discards with
  | and => rfl
  | or => rfl
  | close noneSkipped noGroups =>
    rw [nextJoint, Spot.joint?, noGroups]
    rfl

/-- What is read behind a discarded token and what is read without it differ only in the spot at
which they stand. -/
theorem run_deletion {t : Token} {rest : List Token} (discards : s.Discards t)
    (roomy : Roomy limit s (t :: rest)) :
    ((s.step limit t).run limit rest).value = (s.run limit rest).value ↔
      s.nextJoint (t :: rest) = s.nextJoint rest := by
  have fits : s.spot.Fits s.level := by
    intro noneThere
    rw [spot, noneThere]
    rfl
  have abreast : Abreast s.groups s.level (s.spot.pass t) s.spot 0 (s.step limit t) s := by
    have both : Abreast s.groups s.level (s.spot.pass t) s.spot 0
      (standing s.groups s.level (s.spot.pass t)) (standing s.groups s.level s.spot) := .standing
    rwa [← step_discards roomy discards, standing_spot roomy] at both
  rw [nextJoint_discards discards]
  exact abreast.run (fits.pass t) fits roomy.step roomy.tail

/-- Where no NOT is pending it makes no difference whether a factor is expected, unless an operator
comes next. -/
theorem run_settled (bare : s.front = some .bare) {rest : List Token}
    (next : ∀ t ∈ rest.head?, t ≠ .and ∧ t ≠ .or) :
    (({ s with front := none } : State).run limit rest).value = (s.run limit rest).value := by
  obtain ⟨groups, level, front, skipped⟩ := s
  obtain rfl : front = some .bare := bare
  cases rest with
  | nil => rfl
  | cons t rest =>
    cases t with
    | and => exact absurd rfl (next .and rfl).1
    | or => exact absurd rfl (next .or rfl).2
    | _ => rfl

theorem step_expected {t : Token} (discards : s.Discards t) (expected : s.front.isSome = true) :
    s.step limit t = { s with front := none } := by
  obtain ⟨groups, level, front, skipped⟩ := s
  obtain ⟨f, rfl⟩ := Option.isSome_iff_exists.mp expected
  cases discards with
  | and => rfl
  | or => rfl
  | close noneSkipped noGroups =>
    obtain rfl : skipped = 0 := noneSkipped
    obtain rfl : groups = [] := noGroups
    rfl

end State

/-- A discarded token can be deleted if no NOT is pending in front of it and no operator comes next,
wherever the limit lies. -/
theorem deletion_harmless (pre rest : List Token) {t : Token} (limit : Nat)
    (discarded : Discarded pre t) (bare : (start.run (max limit 1) pre).front = some .bare)
    (next : ∀ u ∈ rest.head?, u ≠ .and ∧ u ≠ .or) :
    parse (pre ++ t :: rest) limit = parse (pre ++ rest) limit := by
  have expected : (start.run (max limit 1) pre).front.isSome = true := by rw [bare]; rfl
  rw [parse_eq_run, parse_eq_run, run_append, run_append, run_cons,
    step_expected (discards_run discarded) expected]
  exact run_settled bare next

/-- A discarded token can be deleted exactly if the operand that comes next is joined in the same
way. -/
theorem deletion_iff (pre rest : List Token) {t : Token} {limit : Nat}
    (discarded : Discarded pre t) (deep : (pre ++ t :: rest).length < limit) :
    parse (pre ++ t :: rest) limit = parse (pre ++ rest) limit ↔
      (start.run limit pre).nextJoint (t :: rest) = (start.run limit pre).nextJoint rest := by
  have positive : max limit 1 = limit := by omega
  have roomy : Roomy limit start (pre ++ t :: rest) := by
    refine ⟨?_, rfl, rfl⟩
    simp only [start, enclosing, ahead, Front.bare, Option.getD_some]
    omega
  rw [parse_eq_run, parse_eq_run, positive, run_append, run_append, run_cons]
  exact run_deletion (discards_run discarded) roomy.run

/-- The parenthesis in `a OR ) AND b` can be deleted: `b` is joined by the OR either way. -/
theorem deletion_iff_between_operators :
    let pre : List Token := [.term "a", .or]
    let rest : List Token := [.and, .term "b"]
    Discarded pre .closeParen ∧ (pre ++ .closeParen :: rest).length < 6 ∧
      parse (pre ++ .closeParen :: rest) 6 = parse (pre ++ rest) 6 := by
  intro pre rest
  have discarded : Discarded pre .closeParen := rfl
  have deep : (pre ++ .closeParen :: rest).length < 6 := by decide
  exact ⟨discarded, deep, (deletion_iff pre rest discarded deep).mpr (by decide)⟩

/-- The parenthesis in `NOT ) a` takes the NOT with it. -/
theorem discarded_takes_not : Discarded [.not] .closeParen ∧
    ([.not, .closeParen, .term "a"] : List Token).length < 4 ∧
    parse [.not, .closeParen, .term "a"] 4 = some (.term "a") ∧
    parse [.not, .term "a"] 4 = some (.not (.term "a")) := by
  refine ⟨rfl, by decide, ?_, ?_⟩
  · rw [parse_eq_run]
    rfl
  · rw [parse_eq_run]
    rfl

end BookmarkSearch.Query
