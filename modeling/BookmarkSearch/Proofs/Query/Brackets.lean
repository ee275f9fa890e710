import BookmarkSearch.Proofs.Query.Grammar

/-!
Which closing parenthesis matches which opening one, and what a derivation says about the places of
its tokens: parentheses are balanced, and a factor stands wherever one is expected.
-/

namespace BookmarkSearch.Query

/-! Balance. -/

/-- How many parentheses are open behind some tokens, where `n` are open in front of them; none if
one closes that has not been opened. -/
def openAfter : Nat → List Token → Option Nat
  | n, [] => some n
  | n, .openParen :: rest => openAfter (n + 1) rest
  | 0, .closeParen :: _ => none
  | n + 1, .closeParen :: rest => openAfter n rest
  | n, .term _ :: rest | n, .and :: rest | n, .or :: rest | n, .not :: rest => openAfter n rest

/-- How many parentheses are open behind some tokens, where `n` are open in front of them and one
that closes nothing is passed over. -/
def openBehind : Nat → List Token → Nat
  | n, [] => n
  | n, .openParen :: rest => openBehind (n + 1) rest
  | n, .closeParen :: rest => openBehind (n - 1) rest
  | n, .term _ :: rest | n, .and :: rest | n, .or :: rest | n, .not :: rest => openBehind n rest

def Balanced (tokens : List Token) : Prop := openAfter 0 tokens = some 0

mutual

theorem openAfter_alternatives (n : Nat) (rest : List Token) : (a : Alternatives) →
    openAfter n (a.tokens ++ rest) = openAfter n rest
  | .one only => openAfter_conjunction n rest only
  | .or before last => by
    rw [Alternatives.tokens, List.append_assoc, openAfter_alternatives n _ before]
    exact openAfter_conjunction n rest last

theorem openAfter_conjunction (n : Nat) (rest : List Token) : (c : Conjunction) →
    openAfter n (c.tokens ++ rest) = openAfter n rest
  | .one only => openAfter_factor n rest only
  | .and before last => by
    rw [Conjunction.tokens, List.append_assoc, openAfter_conjunction n _ before]
    exact openAfter_factor n rest last
  | .adjacent before last => by
    rw [Conjunction.tokens, List.append_assoc, openAfter_conjunction n _ before]
    exact openAfter_factor n rest last

theorem openAfter_factor (n : Nat) (rest : List Token) : (f : Factor) →
    openAfter n (f.tokens ++ rest) = openAfter n rest
  | .not inner => openAfter_factor n rest inner
  | .group inner => by
    rw [Factor.tokens, List.cons_append, List.cons_append, List.append_assoc, openAfter,
      openAfter_alternatives (n + 1) _ inner]
    rfl
  | .term _ => rfl

end

theorem Alternatives.balanced (a : Alternatives) : Balanced a.tokens := by
  have whole := openAfter_alternatives 0 [] a
  rwa [List.append_nil] at whole

/-! The places of factors. -/

def Token.endsFactor : Token → Bool
  | .term _ | .closeParen => true
  | .openParen | .and | .or | .not => false

/-- Behind a token that may end a factor none is expected, whatever became of the token. -/
theorem State.step_front (limit : Nat) (s : State) {t : Token} (ends : t.endsFactor = true) :
    (s.step limit t).front = none := by
  cases t with
  | term text => rfl
  | closeParen =>
    simp only [step]
    split
    · rfl
    · split <;> rfl
  | _ => cases ends

/-- Whether a factor begins wherever one is expected, `behind` saying that the tokens stand right
behind one. -/
def Placed : Bool → List Token → Prop
  | _, [] => True
  | behind, t :: rest => (behind = true ∨ t.startsFactor = true) ∧ Placed t.endsFactor rest

theorem placed_operator {t : Token} {rest : List Token} (after : Placed t.endsFactor rest) :
    Placed true (t :: rest) := ⟨.inl rfl, after⟩

mutual

theorem placed_alternatives (behind : Bool) {rest : List Token} (after : Placed true rest) :
    (a : Alternatives) → Placed behind (a.tokens ++ rest)
  | .one only => placed_conjunction behind after only
  | .or before last => by
    have joined := placed_operator (t := .or) (placed_conjunction false after last)
    rw [Alternatives.tokens, List.append_assoc]
    exact placed_alternatives behind joined before

theorem placed_conjunction (behind : Bool) {rest : List Token} (after : Placed true rest) :
    (c : Conjunction) → Placed behind (c.tokens ++ rest)
  | .one only => placed_factor behind after only
  | .and before last => by
    have joined := placed_operator (t := .and) (placed_factor false after last)
    rw [Conjunction.tokens, List.append_assoc]
    exact placed_conjunction behind joined before
  | .adjacent before last => by
    rw [Conjunction.tokens, List.append_assoc]
    exact placed_conjunction behind (placed_factor true after last) before

theorem placed_factor (behind : Bool) {rest : List Token} (after : Placed true rest) :
    (f : Factor) → Placed behind (f.tokens ++ rest)
  | .not inner => ⟨.inr rfl, placed_factor false after inner⟩
  | .group inner => by
    have closing := placed_operator (t := .closeParen) after
    rw [Factor.tokens, List.cons_append, List.cons_append, List.append_assoc]
    exact ⟨.inr rfl, placed_alternatives false closing inner⟩
  | .term _ => ⟨.inr rfl, after⟩

end

theorem Alternatives.placed (a : Alternatives) : Placed false a.tokens := by
  have ended : Placed true [] := trivial
  have whole := placed_alternatives false ended a
  rwa [List.append_nil] at whole

end BookmarkSearch.Query
