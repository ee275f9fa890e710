import BookmarkSearch.Proofs.Query.Terms

/-!
The grammar of queries, and that reading follows it: the tokens of a derivation that is nested no
deeper than the limit are read as the expression the derivation stands for.
-/

namespace BookmarkSearch.Query

/-! Derivations, one constructor for each way a rule can be used. A chain is derived from its left
end on. -/

mutual

/-- `alternatives := conjunction (OR conjunction)*` -/
inductive Alternatives where
  | one (only : Conjunction)
  | or (before : Alternatives) (last : Conjunction)

/-- `conjunction := factor (AND factor | factor)*` -/
inductive Conjunction where
  | one (only : Factor)
  | and (before : Conjunction) (last : Factor)
  | adjacent (before : Conjunction) (last : Factor)

/-- `factor := NOT factor | ( alternatives ) | TERM` -/
inductive Factor where
  | not (inner : Factor)
  | group (inner : Alternatives)
  | term (text : String)

end

mutual

def Alternatives.tokens : Alternatives → List Token
  | .one only => only.tokens
  | .or before last => before.tokens ++ .or :: last.tokens

def Conjunction.tokens : Conjunction → List Token
  | .one only => only.tokens
  | .and before last => before.tokens ++ .and :: last.tokens
  | .adjacent before last => before.tokens ++ last.tokens

def Factor.tokens : Factor → List Token
  | .not inner => .not :: inner.tokens
  | .group inner => .openParen :: inner.tokens ++ [.closeParen]
  | .term text => [.term text]

end

mutual

def Alternatives.meaning : Alternatives → Expression
  | .one only => only.meaning
  | .or before last => .or before.meaning last.meaning

def Conjunction.meaning : Conjunction → Expression
  | .one only => only.meaning
  | .and before last | .adjacent before last => .and before.meaning last.meaning

def Factor.meaning : Factor → Expression
  | .not inner => .not inner.meaning
  | .group inner => inner.meaning
  | .term text => .term text

end

mutual

/-- How many parentheses and NOTs enclose the token that most of them enclose. -/
def Alternatives.nesting : Alternatives → Nat
  | .one only => only.nesting
  | .or before last => max before.nesting last.nesting

def Conjunction.nesting : Conjunction → Nat
  | .one only => only.nesting
  | .and before last | .adjacent before last => max before.nesting last.nesting

def Factor.nesting : Factor → Nat
  | .not inner => inner.nesting + 1
  | .group inner => inner.nesting + 1
  | .term _ => 0

end

open State

namespace State

@[simp] theorem run_nil (limit : Nat) (s : State) : s.run limit [] = s := rfl

@[simp] theorem run_cons (limit : Nat) (s : State) (t : Token) (rest : List Token) :
    s.run limit (t :: rest) = (s.step limit t).run limit rest := rfl

@[simp] theorem run_append (limit : Nat) (s : State) (first second : List Token) :
    s.run limit (first ++ second) = (s.run limit first).run limit second :=
  List.foldl_append

end State

theorem Factor.tokens_front (f : Factor) :
    ∃ t rest, f.tokens = t :: rest ∧ t.startsFactor = true := by
  cases f with
  | not inner => exact ⟨.not, _, rfl, rfl⟩
  | group inner => exact ⟨.openParen, _, rfl, rfl⟩
  | term text => exact ⟨.term text, _, rfl, rfl⟩

variable {limit : Nat}

mutual

/-- Within the limit a factor is read over as a whole and joins the level it stands in. -/
theorem run_factor (groups : List Frame) (level : Level) (nots : Nat) : (f : Factor) →
    enclosing groups + nots + f.nesting ≤ limit →
    (expecting groups level nots 0).run limit f.tokens =
      settled groups (level.add (underNots nots (some f.meaning))) 0
  | .not inner, fits => by
    simp only [Factor.nesting] at fits
    have ih := run_factor groups level (nots + 1) inner (by omega)
    rw [Factor.tokens, run_cons, step_not groups level nots 0 (by omega), ih]
    rfl
  | .group inner, fits => by
    simp only [Factor.nesting] at fits
    obtain ⟨last, value, ih⟩ :=
      run_alternatives (⟨level, nots⟩ :: groups) inner (by simp only [enclosing]; omega)
    rw [Factor.tokens, List.cons_append, run_cons,
      (step_group groups level nots 0 (by omega)).1, run_append, ih]
    simp [settled, step, Frame.resume, value, Factor.meaning]
  | .term text, _ => rfl

theorem run_conjunction (groups : List Frame) (disjuncts : Option Expression) :
    (c : Conjunction) → enclosing groups + c.nesting ≤ limit →
    (expecting groups ⟨disjuncts, none⟩ 0 0).run limit c.tokens =
      settled groups ⟨disjuncts, some c.meaning⟩ 0
  | .one only, fits => run_factor groups ⟨disjuncts, none⟩ 0 only fits
  | .and before last, fits => by
    simp only [Conjunction.nesting] at fits
    have first := run_conjunction groups disjuncts before (by omega)
    have second := run_factor groups ⟨disjuncts, some before.meaning⟩ 0 last (by omega)
    rw [Conjunction.tokens, run_append, first, run_cons]
    exact second
  | .adjacent before last, fits => by
    simp only [Conjunction.nesting] at fits
    have first := run_conjunction groups disjuncts before (by omega)
    have second := run_factor groups ⟨disjuncts, some before.meaning⟩ 0 last (by omega)
    obtain ⟨t, rest, tokens, front⟩ := last.tokens_front
    rw [Conjunction.tokens, run_append, first, tokens, run_cons,
      (step_adjacent limit groups _ 0 front).1, ← run_cons, ← tokens]
    exact second

theorem run_alternatives (groups : List Frame) : (a : Alternatives) →
    enclosing groups + a.nesting ≤ limit →
    ∃ last : Level, last.value = some a.meaning ∧
      (expecting groups .start 0 0).run limit a.tokens = settled groups last 0
  | .one only, fits => ⟨⟨none, some only.meaning⟩, rfl, run_conjunction groups none only fits⟩
  | .or before last, fits => by
    simp only [Alternatives.nesting] at fits
    obtain ⟨level, value, first⟩ := run_alternatives groups before (by omega)
    have second := run_conjunction groups level.value last (by omega)
    refine ⟨⟨level.value, some last.meaning⟩, by rw [Level.value, value]; rfl, ?_⟩
    rw [Alternatives.tokens, run_append, first, run_cons]
    exact second

end

/-- Reading follows the grammar, and finds the same expression under every limit that does not cut
into the query. -/
theorem parse_derivation (a : Alternatives) (limit : Nat) (fits : a.nesting ≤ limit) :
    parse a.tokens limit = some a.meaning := by
  have deep : enclosing [] + a.nesting ≤ max limit 1 := by simp only [enclosing]; omega
  obtain ⟨last, value, run⟩ := run_alternatives [] a deep
  rw [parse_eq_run, ← value]
  exact congrArg State.value run

/-- `NOT (a OR NOT b) c`, read under a limit that it just meets. -/
theorem parse_derivation_at_limit :
    let query : Alternatives := .one (.adjacent
      (.one (.not (.group (.or (.one (.one (.term "a"))) (.one (.not (.term "b")))))))
      (.term "c"))
    query.nesting ≤ 3 ∧ parse query.tokens 3 = some query.meaning := by
  intro query
  have fits : query.nesting ≤ 3 := by decide
  exact ⟨fits, parse_derivation query 3 fits⟩

end BookmarkSearch.Query
