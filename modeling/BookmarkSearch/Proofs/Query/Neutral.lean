import BookmarkSearch.Proofs.Query.Brackets

/-!
Tokens that change nothing. What stands behind the last term of a query has no part in its
expression, nor have operators and closing parentheses in front of it all; and an AND may be written
out wherever a factor follows another one, be the query malformed or nested beyond the limit.
-/

namespace BookmarkSearch.Query

@[simp] theorem Level.value_branch (l : Level) : l.branch.value = l.value := by
  simp [branch, value]

/-- Around a group no more than the value of its level is seen. -/
theorem closeAll_of_value (groups : List Frame) {inner other : Level}
    (same : inner.value = other.value) : closeAll groups inner = closeAll groups other := by
  cases groups with
  | nil => exact same
  | cons f outer => rw [closeAll, closeAll, Frame.resume, Frame.resume, same]

namespace State

variable (limit : Nat)

/-- Only a term changes what a query comes to if it ends behind the token. -/
theorem step_value (s : State) {t : Token} (noTerm : t.text? = none) :
    (s.step limit t).value = s.value := by
  cases t with
  | term text => cases noTerm
  | and => rfl
  | or =>
    simp only [step]
    split
    · rfl
    · exact closeAll_of_value s.groups s.level.value_branch
  | not =>
    simp only [step]
    split <;> rfl
  | openParen =>
    simp only [step]
    split
    · rfl
    · -- The group that begins here is empty so far, and joins the level around it as nothing.
      simp [value, closeAll, Frame.resume, Level.start, Level.value]
  | closeParen =>
    simp only [step]
    split
    · rfl
    · split
      · rfl
      · rename_i f outer opened
        rw [value, value, opened, closeAll]

theorem run_value (s : State) {tokens : List Token} (noTerms : termTexts tokens = []) :
    (s.run limit tokens).value = s.value := by
  induction tokens generalizing s with
  | nil => rfl
  | cons t rest ih =>
    rw [termTexts_cons, List.append_eq_nil_iff] at noTerms
    obtain ⟨here, after⟩ := noTerms
    have noTerm : t.text? = none := by simpa using here
    rw [run_cons, ih (s.step limit t) after, step_value limit s noTerm]

/-- Where no factor has been read since the level or its last OR began, an operator only changes
whether a factor is expected, and that makes no difference to what follows. -/
theorem run_unexpected (groups : List Frame) (disjuncts : Option Expression) (skipped : Nat)
    (tokens : List Token) {front other : Option Front} (bare : front.getD .bare = .bare)
    (otherBare : other.getD .bare = .bare) :
    (run limit ⟨groups, ⟨disjuncts, none⟩, front, skipped⟩ tokens).value =
      (run limit ⟨groups, ⟨disjuncts, none⟩, other, skipped⟩ tokens).value := by
  induction tokens generalizing front other with
  | nil => rfl
  | cons t rest ih =>
    have sameBranch : Level.branch ⟨disjuncts, none⟩ = ⟨disjuncts, none⟩ := by
      simp [Level.branch, Level.value]
    rw [run_cons, run_cons]
    cases t with
    | and =>
      simp only [step]
      apply ih
      · split <;> rfl
      · split <;> rfl
    | or =>
      simp only [step, sameBranch]
      split
      · split
        · rfl
        · exact ih rfl rfl
      · split
        · exact ih rfl rfl
        · rfl
    | term text => simp only [step, behind, ahead, bare, otherBare]
    | not => simp only [step, atLimit, ahead, bare, otherBare]
    | openParen => simp only [step, atLimit, ahead, bare, otherBare]
    | closeParen => rfl

/-- Operators and closing parentheses in front of a query leave it at its beginning. -/
theorem run_leading {pre : List Token}
    (leading : ∀ t ∈ pre, t = .and ∨ t = .or ∨ t = .closeParen) {front : Option Front}
    (bare : front.getD .bare = .bare) :
    ∃ after : Option Front, after.getD .bare = .bare ∧
      run limit ⟨[], .start, front, 0⟩ pre = ⟨[], .start, after, 0⟩ := by
  induction pre generalizing front with
  | nil => exact ⟨front, bare, rfl⟩
  | cons t rest ih =>
    obtain ⟨here, others⟩ := List.forall_mem_cons.mp leading
    rw [run_cons]
    obtain rfl | rfl | rfl := here
    · cases front with
      | none => exact ih others rfl
      | some f => exact ih others rfl
    · cases front with
      | none => exact ih others rfl
      | some f => exact ih others rfl
    · exact ih others rfl

end State

open State

/-- A query may begin with any operators and closing parentheses, and end with any tokens that are
no terms: operators are left without their right sides, and groups are closed at the end. -/
theorem parse_incomplete_ends {pre suf : List Token} (tokens : List Token) (limit : Nat)
    (leading : ∀ t ∈ pre, t = .and ∨ t = .or ∨ t = .closeParen) (trailing : termTexts suf = []) :
    parse (pre ++ tokens ++ suf) limit = parse tokens limit := by
  have noneAhead : (some Front.bare).getD .bare = .bare := rfl
  obtain ⟨front, bare, led⟩ := run_leading (max limit 1) leading noneAhead
  rw [parse_eq_run, parse_eq_run, run_append, run_value _ _ trailing, run_append]
  rw [show State.start = ⟨[], .start, some .bare, 0⟩ from rfl, led]
  exact run_unexpected (max limit 1) [] none 0 tokens bare rfl

/-- The query `NOT ) (a OR NOT b` between `AND ) OR` and `) ( NOT AND`, under a limit of one. -/
theorem parse_incomplete_ends_malformed :
    let pre : List Token := [.and, .closeParen, .or]
    let tokens : List Token := [.not, .closeParen, .openParen, .term "a", .or, .not, .term "b"]
    let suf : List Token := [.closeParen, .openParen, .not, .and]
    (∀ t ∈ pre, t = .and ∨ t = .or ∨ t = .closeParen) ∧ termTexts suf = [] ∧
      parse (pre ++ tokens ++ suf) 1 = some (.or (.term "a") (.not (.term "b"))) := by
  intro pre tokens suf
  have leading : ∀ t ∈ pre, t = .and ∨ t = .or ∨ t = .closeParen := by decide
  have trailing : termTexts suf = [] := rfl
  have alone : parse tokens 1 = some (.or (.term "a") (.not (.term "b"))) := by
    rw [parse_eq_run]
    rfl
  exact ⟨leading, trailing, (parse_incomplete_ends tokens 1 leading trailing).trans alone⟩

/-- An AND may be written out wherever a factor follows a term or a closing parenthesis. -/
theorem parse_explicit_and (pre rest : List Token) {before after : Token} (limit : Nat)
    (ends : before.endsFactor = true) (begins : after.startsFactor = true) :
    parse (pre ++ before :: .and :: after :: rest) limit =
      parse (pre ++ before :: after :: rest) limit := by
  rw [parse_eq_run, parse_eq_run, run_append, run_append]
  have settles := step_front (max limit 1) (State.start.run (max limit 1) pre) ends
  simp only [run_cons]
  generalize (State.start.run (max limit 1) pre).step (max limit 1) before = s at settles
  obtain ⟨groups, level, front, skipped⟩ := s
  obtain rfl : front = none := settles
  have joins : ((settled groups level skipped).step (max limit 1) .and).step (max limit 1) after =
      (settled groups level skipped).step (max limit 1) after := by
    calc ((settled groups level skipped).step (max limit 1) .and).step (max limit 1) after
      _ = (expecting groups level 0 skipped).step (max limit 1) after := rfl
      _ = (settled groups level skipped).step (max limit 1) after :=
        (step_adjacent (max limit 1) groups level skipped begins).1.symm
  exact congrArg (fun s => (s.run (max limit 1) rest).value) joins

/-- Under a limit of one the parenthesis behind `b` closes the skipped one, and the one behind it
takes the place of a factor: `NOT (a b) NOT ) (c`. -/
theorem parse_explicit_and_beyond_limit :
    let pre : List Token := [.not, .openParen, .term "a", .term "b", .closeParen, .not]
    Token.endsFactor .closeParen = true ∧ Token.startsFactor .openParen = true ∧
      parse (pre ++ [.closeParen, .and, .openParen, .term "c"]) 1 =
        some (.and (.and (.not (.term "a")) (.term "b")) (.term "c")) := by
  intro pre
  have ends : Token.endsFactor .closeParen = true := rfl
  have begins : Token.startsFactor .openParen = true := rfl
  have adjacent : parse (pre ++ [.closeParen, .openParen, .term "c"]) 1 =
      some (.and (.and (.not (.term "a")) (.term "b")) (.term "c")) := by
    rw [parse_eq_run]
    rfl
  exact ⟨ends, begins, (parse_explicit_and pre [.term "c"] 1 ends begins).trans adjacent⟩

end BookmarkSearch.Query
