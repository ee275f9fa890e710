import BookmarkSearch.Proofs.Query.Neutral

/-!
The outline of an expression: its tokens from left to right, without parentheses. Reading on in a
query only adds to the end of the outline, so that two readings which have once put a term into
different places never come to the same expression again.
-/

namespace BookmarkSearch.Query

def Expression.outline : Expression → List Token
  | .term text => [.term text]
  | .not e => .not :: e.outline
  | .and l r => l.outline ++ .and :: r.outline
  | .or l r => l.outline ++ .or :: r.outline

def treeOutline (tree : Option Expression) : List Token := tree.elim [] Expression.outline

def joined (operator : Token) : List Token → List Token → List Token
  | [], second => second
  | first, [] => first
  | first, second => first ++ operator :: second

def negated (n : Nat) : List Token → List Token
  | [] => []
  | tokens => List.replicate n .not ++ tokens

theorem joined_of_ne_nil (operator : Token) {first second : List Token} (left : first ≠ [])
    (right : second ≠ []) : joined operator first second = first ++ operator :: second := by
  cases first with
  | nil => exact absurd rfl left
  | cons t rest =>
    cases second with
    | nil => exact absurd rfl right
    | cons u others => rfl

@[simp] theorem joined_nil (operator : Token) (first : List Token) :
    joined operator first [] = first := by
  cases first <;> rfl

@[simp] theorem nil_joined (operator : Token) (second : List Token) :
    joined operator [] second = second := by
  cases second <;> rfl

theorem negated_of_ne_nil (n : Nat) {tokens : List Token} (given : tokens ≠ []) :
    negated n tokens = List.replicate n .not ++ tokens := by
  cases tokens with
  | nil => exact absurd rfl given
  | cons t rest => rfl

theorem joined_grows (operator : Token) (first : List Token) {second third : List Token}
    (grows : second <+: third) : joined operator first second <+: joined operator first third := by
  by_cases left : first = []
  · subst left
    simpa using grows
  by_cases right : second = []
  · subst right
    by_cases noneThere : third = []
    · subst noneThere
      exact List.prefix_rfl
    · rw [joined_nil, joined_of_ne_nil operator left noneThere]
      exact List.prefix_append first _
  · have further : third ≠ [] := by
      rintro rfl
      exact right (List.prefix_nil.mp grows)
    rw [joined_of_ne_nil operator left right, joined_of_ne_nil operator left further]
    exact (List.prefix_append_right_inj first).mpr (List.cons_prefix_cons.mpr ⟨rfl, grows⟩)

theorem negated_grows (n : Nat) {tokens further : List Token} (grows : tokens <+: further) :
    negated n tokens <+: negated n further := by
  by_cases noneThere : tokens = []
  · subst noneThere
    exact List.nil_prefix
  · have more : further ≠ [] := by
      rintro rfl
      exact noneThere (List.prefix_nil.mp grows)
    rw [negated_of_ne_nil n noneThere, negated_of_ne_nil n more]
    exact (List.prefix_append_right_inj _).mpr grows

theorem Expression.outline_ne_nil (e : Expression) : e.outline ≠ [] := by
  cases e <;> simp [outline]

theorem treeOutline_eq_nil {tree : Option Expression} : treeOutline tree = [] ↔ tree = none := by
  cases tree with
  | none => simp [treeOutline]
  | some e => simp [treeOutline, e.outline_ne_nil]

@[simp] theorem treeOutline_and (left right : Option Expression) :
    treeOutline (combine .and left right) =
      joined .and (treeOutline left) (treeOutline right) := by
  cases left with
  | none => simp [treeOutline]
  | some l =>
    cases right with
    | none => simp [treeOutline]
    | some r => exact (joined_of_ne_nil .and l.outline_ne_nil r.outline_ne_nil).symm

@[simp] theorem treeOutline_or (left right : Option Expression) :
    treeOutline (combine .or left right) =
      joined .or (treeOutline left) (treeOutline right) := by
  cases left with
  | none => simp [treeOutline]
  | some l =>
    cases right with
    | none => simp [treeOutline]
    | some r => exact (joined_of_ne_nil .or l.outline_ne_nil r.outline_ne_nil).symm

@[simp] theorem treeOutline_underNots (n : Nat) (tree : Option Expression) :
    treeOutline (underNots n tree) = negated n (treeOutline tree) := by
  cases tree with
  | none => simp [treeOutline, negated]
  | some e =>
    change _ = negated n e.outline
    rw [negated_of_ne_nil n e.outline_ne_nil]
    induction n generalizing e with
    | zero => rfl
    | succ n ih =>
      rw [underNots, Option.map_some, ih (.not e), List.replicate_succ', List.append_assoc]
      rfl

def around : List Frame → List Token → List Token
  | [], inner => inner
  | f :: outer, inner =>
    around outer (joined .or (treeOutline f.outer.disjuncts)
      (joined .and (treeOutline f.outer.factors) (negated f.nots inner)))

theorem treeOutline_closeAll (groups : List Frame) (level : Level) :
    treeOutline (closeAll groups level) = around groups (treeOutline level.value) := by
  induction groups generalizing level with
  | nil => rfl
  | cons f outer ih => simp [closeAll, around, ih, Frame.resume, Level.add, Level.value]

theorem around_grows (groups : List Frame) {inner further : List Token}
    (grows : inner <+: further) : around groups inner <+: around groups further := by
  induction groups generalizing inner further with
  | nil => exact grows
  | cons f outer ih =>
    exact ih (joined_grows .or _ (joined_grows .and _ (negated_grows f.nots grows)))

/-- Behind what stands in front of it the outline of an inner level comes out whole. -/
theorem around_eq_append (groups : List Frame) :
    ∃ before, ∀ inner, inner ≠ [] → around groups inner = before ++ inner := by
  induction groups with
  | nil => exact ⟨[], fun _ _ => rfl⟩
  | cons f outer ih =>
    obtain ⟨before, closes⟩ := ih
    have joins (operator : Token) (first : List Token) : ∃ link, ∀ second, second ≠ [] →
        joined operator first second = link ++ second := by
      by_cases left : first = []
      · subst left
        exact ⟨[], fun second _ => nil_joined operator second⟩
      · refine ⟨first ++ [operator], fun second right => ?_⟩
        rw [joined_of_ne_nil operator left right, List.append_assoc]
        rfl
    obtain ⟨behindOr, joinsOr⟩ := joins .or (treeOutline f.outer.disjuncts)
    obtain ⟨behindAnd, joinsAnd⟩ := joins .and (treeOutline f.outer.factors)
    refine ⟨before ++ behindOr ++ behindAnd ++ List.replicate f.nots .not, fun inner given => ?_⟩
    rw [around, negated_of_ne_nil f.nots given, joinsAnd _ (by simp [given]),
      joinsOr _ (by simp [given]), closes _ (by simp [given])]
    simp only [List.append_assoc]

namespace State

variable (limit : Nat)

/-- A token leaves the outline of what has been read, and adds at its end. -/
theorem step_grows (s : State) (t : Token) :
    treeOutline s.value <+: treeOutline (s.step limit t).value := by
  cases t with
  | term text =>
    simp only [step, behind, value, treeOutline_closeAll]
    apply around_grows
    simp only [Level.value, Level.add, treeOutline_or, treeOutline_and]
    apply joined_grows
    have added := joined_grows .and (treeOutline s.level.factors)
      (List.nil_prefix (l := treeOutline (s.ahead.apply (some (.term text)))))
    rwa [joined_nil] at added
  | _ =>
    exact ⟨[], by rw [List.append_nil, step_value limit s rfl]⟩

theorem run_grows (s : State) (tokens : List Token) :
    treeOutline s.value <+: treeOutline (s.run limit tokens).value := by
  induction tokens generalizing s with
  | nil => exact List.prefix_rfl
  | cons t rest ih => exact (step_grows limit s t).trans (ih (s.step limit t))

end State

/-! How many NOTs an outline begins with is settled by its first term. -/

def leadingNots : List Token → Nat
  | .not :: rest => leadingNots rest + 1
  | _ => 0

theorem leadingNots_outline (e : Expression) (rest : List Token) :
    leadingNots (e.outline ++ rest) = leadingNots e.outline := by
  induction e generalizing rest with
  | term text => rfl
  | not e ih => exact congrArg (· + 1) (ih rest)
  | and l r left _ => rw [Expression.outline, List.append_assoc, left, left]
  | or l r left _ => rw [Expression.outline, List.append_assoc, left, left]

theorem leadingNots_replicate (n : Nat) (tokens : List Token) :
    leadingNots (List.replicate n .not ++ tokens) = n + leadingNots tokens := by
  induction n with
  | zero => simp
  | succ n ih =>
    rw [List.replicate_succ, List.cons_append, leadingNots, ih]
    omega

/-- The same expression cannot stand under two numbers of NOTs at the same place of an outline. -/
theorem nots_of_prefix {n m : Nat} {e : Expression} {whole : List Token}
    (first : List.replicate n .not ++ e.outline <+: whole)
    (second : List.replicate m .not ++ e.outline <+: whole) : n = m := by
  have settled {k : Nat} (fits : List.replicate k .not ++ e.outline <+: whole) :
      leadingNots whole = k + leadingNots e.outline := by
    obtain ⟨rest, rfl⟩ := fits
    rw [List.append_assoc, leadingNots_replicate, leadingNots_outline]
  have same := (settled first).symm.trans (settled second)
  omega

end BookmarkSearch.Query
