import BookmarkSearch.Proofs.Query.Lexemes
import BookmarkSearch.Proofs.Query.Neutral
import BookmarkSearch.Search.Prepared

/-!
How deep the expression of a query can be. No way from its root to a term passes more NOTs than the
limit admits and one that counts by parity beyond it. Every operator on the way has a term on its
other side, so that the terms and NOTs of the query bound the depth, however it is nested; a query
that is prepared for a search keeps no more tokens than it is allowed, and these bound it in turn.
-/

namespace BookmarkSearch.Query

/-! Numbers that a tree has by its NOTs and terms. -/

namespace Expression

/-- A term counts `leaf` and a NOT counts one; an operator joins what its sides count. -/
def gauge (leaf : Nat) (join : Nat → Nat → Nat) : Expression → Nat
  | .term _ => leaf
  | .not e => e.gauge leaf join + 1
  | .and l r | .or l r => join (l.gauge leaf join) (r.gauge leaf join)

def nots (e : Expression) : Nat := e.gauge 0 max

def weight (e : Expression) : Nat := e.gauge 1 (· + ·)

theorem texts_length_pos (e : Expression) : 0 < e.texts.length :=
  List.length_pos_iff.mpr e.texts_ne_nil

/-- Each operator on a way has a term on the side that the way does not take. -/
theorem depth_le (e : Expression) : e.depth ≤ e.texts.length + e.nots := by
  unfold nots
  induction e with
  | term text => exact Nat.le_refl 1
  | not e ih =>
    simp only [depth, texts, gauge]
    omega
  | and l r left right | or l r left right =>
    have here := l.texts_length_pos
    have there := r.texts_length_pos
    simp only [depth, texts, gauge, List.length_append]
    omega

theorem texts_length_add_nots_le (e : Expression) : e.texts.length + e.nots ≤ e.weight := by
  unfold nots weight
  induction e with
  | term text => exact Nat.le_refl 1
  | not e ih =>
    simp only [texts, gauge]
    omega
  | and l r left right | or l r left right =>
    simp only [texts, gauge, List.length_append]
    omega

end Expression

def treeGauge (leaf : Nat) (join : Nat → Nat → Nat) (tree : Option Expression) : Nat :=
  tree.elim 0 (Expression.gauge leaf join)

def Front.count (f : Front) : Nat := f.nots + f.flipped.toNat

section Gauge

variable (leaf : Nat) (join : Nat → Nat → Nat)

theorem treeGauge_not_le (tree : Option Expression) :
    treeGauge leaf join (tree.map .not) ≤ treeGauge leaf join tree + 1 := by
  cases tree with
  | none => exact Nat.zero_le _
  | some e => exact Nat.le_refl _

theorem treeGauge_underNots_le (n : Nat) (tree : Option Expression) :
    treeGauge leaf join (underNots n tree) ≤ treeGauge leaf join tree + n := by
  induction n generalizing tree with
  | zero => exact Nat.le_refl _
  | succ n ih =>
    have inner := treeGauge_not_le leaf join tree
    have outer := ih (tree.map .not)
    rw [underNots]
    omega

theorem treeGauge_apply_le (f : Front) (tree : Option Expression) :
    treeGauge leaf join (f.apply tree) ≤ treeGauge leaf join tree + f.count := by
  have under (tree : Option Expression) := treeGauge_underNots_le leaf join f.nots tree
  have flipped := treeGauge_not_le leaf join tree
  unfold Front.apply Front.count
  cases f.flipped with
  | true =>
    have outer := under (tree.map .not)
    simp only [↓reduceIte, Bool.toNat_true]
    omega
  | false => exact under tree

variable [Std.LawfulIdentity join 0]

theorem treeGauge_combine (op : Expression → Expression → Expression)
    (joins : ∀ l r, (op l r).gauge leaf join = join (l.gauge leaf join) (r.gauge leaf join))
    (left right : Option Expression) :
    treeGauge leaf join (combine op left right) =
      join (treeGauge leaf join left) (treeGauge leaf join right) := by
  have left_id : ∀ n, join 0 n = n := Std.LawfulLeftIdentity.left_id
  have right_id : ∀ n, join n 0 = n := Std.LawfulRightIdentity.right_id
  cases left with
  | none =>
    rw [none_combine]
    exact (left_id _).symm
  | some l => cases right with
    | none => exact (right_id _).symm
    | some r => exact joins l r

end Gauge

namespace Level

def gauge (leaf : Nat) (join : Nat → Nat → Nat) (l : Level) : Nat := treeGauge leaf join l.value

section Gauge

variable (leaf : Nat) (join : Nat → Nat → Nat)

@[simp] theorem gauge_start : start.gauge leaf join = 0 := rfl

@[simp] theorem gauge_branch (l : Level) : l.branch.gauge leaf join = l.gauge leaf join := by
  rw [gauge, value_branch, gauge]

@[simp] theorem gauge_add [Std.Associative join] [Std.LawfulIdentity join 0] (l : Level)
    (factor : Option Expression) :
    (l.add factor).gauge leaf join = join (l.gauge leaf join) (treeGauge leaf join factor) := by
  have either := treeGauge_combine leaf join .or fun _ _ => rfl
  have both := treeGauge_combine leaf join .and fun _ _ => rfl
  simp only [gauge, value, add, either, both, Std.Associative.assoc]

end Gauge

end Level

/-! The NOTs that a way passes. -/

/-- Whether the levels around some groups keep to a bound on the NOTs above each term: those of the
tree and those that enclose the level. -/
def NotsBounded (bound : Nat) : List Frame → Prop
  | [] => True
  | f :: outer => enclosing outer + f.outer.gauge 0 max ≤ bound ∧ NotsBounded bound outer

/-- The level around a group keeps to the bound once the group is closed. -/
theorem resume_bounded {bound : Nat} {f : Frame} {outer : List Frame} {inner : Level}
    (around : enclosing outer + f.outer.gauge 0 max ≤ bound)
    (within : enclosing (f :: outer) + inner.gauge 0 max ≤ bound) :
    enclosing outer + (f.resume inner).gauge 0 max ≤ bound := by
  have factor : treeGauge 0 max (underNots f.nots inner.value) ≤ inner.gauge 0 max + f.nots :=
    treeGauge_underNots_le 0 max f.nots inner.value
  simp only [enclosing] at within
  rw [Frame.resume, Level.gauge_add]
  omega

theorem closeAll_bounded {bound : Nat} {groups : List Frame} {level : Level}
    (around : NotsBounded bound groups)
    (within : enclosing groups + level.gauge 0 max ≤ bound) :
    treeGauge 0 max (closeAll groups level) ≤ bound := by
  induction groups generalizing level with
  | nil => exact Nat.le_trans (Nat.le_add_left _ _) within
  | cons f outer ih => exact ih around.2 (resume_bounded around.1 within)

/-- What holds of the NOTs in every state. Those in front of the next factor and around it are
within the limit, and above a term that has been read there stands at most one more. -/
structure State.Within (limit : Nat) (s : State) : Prop where
  around : NotsBounded (limit + 1) s.groups
  level : enclosing s.groups + s.level.gauge 0 max ≤ limit + 1
  front : enclosing s.groups + s.ahead.nots ≤ limit

namespace State

variable {limit : Nat}

theorem start_within : start.Within limit where
  around := trivial
  level := Nat.zero_le _
  front := Nat.zero_le _

theorem Within.step {s : State} (within : s.Within limit) (t : Token) :
    (s.step limit t).Within limit := by
  obtain ⟨around, level, front⟩ := within
  -- Where nothing stands in front, no more is asked of the front than of the groups.
  have bare : enclosing s.groups + Front.bare.nots ≤ limit :=
    Nat.le_trans (Nat.le_add_right _ _) front
  cases t with
  | term text =>
    have factor : treeGauge 0 max (s.ahead.apply (some (.term text))) ≤ 0 + s.ahead.count :=
      treeGauge_apply_le 0 max s.ahead (some (.term text))
    have most : s.ahead.count ≤ s.ahead.nots + 1 :=
      Nat.add_le_add_left (Bool.toNat_le s.ahead.flipped) _
    refine ⟨around, ?_, bare⟩
    simp only [State.step, behind, Level.gauge_add]
    omega
  | and =>
    refine ⟨around, level, ?_⟩
    simp only [State.step]
    split
    · exact bare
    · exact bare
  | or =>
    simp only [State.step]
    split
    · exact ⟨around, level, bare⟩
    · exact ⟨around, by rwa [Level.gauge_branch], bare⟩
  | not =>
    simp only [State.step]
    split
    · exact ⟨around, level, front⟩
    · rename_i below
      exact ⟨around, level, Nat.lt_of_not_le below⟩
  | openParen =>
    simp only [State.step]
    split
    · exact ⟨around, level, front⟩
    · rename_i below
      have deeper : enclosing (⟨s.level, s.ahead.nots⟩ :: s.groups) ≤ limit :=
        Nat.lt_of_not_le below
      exact ⟨⟨level, around⟩, Nat.le_succ_of_le deeper, deeper⟩
  | closeParen =>
    simp only [State.step]
    split
    · exact ⟨around, level, bare⟩
    split
    · exact ⟨around, level, bare⟩
    · rename_i f outer opened
      rw [opened] at around level bare
      have closed : enclosing outer ≤ limit := by
        simp only [enclosing] at bare
        omega
      exact ⟨around.2, resume_bounded around.1 level, closed⟩

theorem Within.run {s : State} (within : s.Within limit) (tokens : List Token) :
    (s.run limit tokens).Within limit := by
  induction tokens generalizing s with
  | nil => exact within
  | cons t rest ih => exact ih (within.step t)

end State

/-! The terms and NOTs there are. -/

def groupsWeight : List Frame → Nat
  | [] => 0
  | f :: outer => groupsWeight outer + f.outer.gauge 1 (· + ·) + f.nots

theorem resume_weight_le (f : Frame) (inner : Level) :
    (f.resume inner).gauge 1 (· + ·) ≤
      f.outer.gauge 1 (· + ·) + f.nots + inner.gauge 1 (· + ·) := by
  have factor : treeGauge 1 (· + ·) (underNots f.nots inner.value) ≤
      inner.gauge 1 (· + ·) + f.nots :=
    treeGauge_underNots_le 1 (· + ·) f.nots inner.value
  rw [Frame.resume, Level.gauge_add]
  omega

theorem closeAll_weight_le (groups : List Frame) (level : Level) :
    treeGauge 1 (· + ·) (closeAll groups level) ≤ groupsWeight groups + level.gauge 1 (· + ·) := by
  induction groups generalizing level with
  | nil => exact Nat.le_add_left _ _
  | cons f outer ih =>
    have inner := resume_weight_le f level
    have whole := ih (f.resume level)
    rw [closeAll, groupsWeight]
    omega

namespace State

variable (limit : Nat)

def weight (s : State) : Nat :=
  groupsWeight s.groups + s.level.gauge 1 (· + ·) + s.ahead.count

theorem step_weight_le (s : State) (t : Token) : (s.step limit t).weight ≤ s.weight + 1 := by
  have bare : Front.bare.count = 0 := rfl
  cases t with
  | term text =>
    have factor : treeGauge 1 (· + ·) (s.ahead.apply (some (.term text))) ≤ 1 + s.ahead.count :=
      treeGauge_apply_le 1 (· + ·) s.ahead (some (.term text))
    simp only [step, behind, weight, Level.gauge_add, ahead, Option.getD_none, bare] at factor ⊢
    omega
  | and =>
    simp only [step]
    split
    · simp only [weight, ahead, Option.getD_none, bare]
      omega
    · simp only [weight, ahead, Option.getD_some, bare]
      omega
  | or =>
    simp only [step]
    split
    · simp only [weight, ahead, Option.getD_none, bare]
      omega
    · simp only [weight, ahead, Option.getD_some, bare, Level.gauge_branch]
      omega
  | not =>
    have flip : (!s.ahead.flipped).toNat ≤ s.ahead.flipped.toNat + 1 := by
      cases s.ahead.flipped <;> decide
    simp only [step]
    split
    · simp only [weight, ahead, Option.getD_some, Front.count] at flip ⊢
      omega
    · simp only [weight, ahead, Option.getD_some, Front.count]
      omega
  | openParen =>
    simp only [step]
    split
    · simp only [weight, ahead, Option.getD_some]
      omega
    · simp only [weight, groupsWeight, Level.gauge_start, ahead, Option.getD_some, bare]
      have kept : (s.front.getD .bare).nots ≤ (s.front.getD .bare).count := Nat.le_add_right _ _
      omega
  | closeParen =>
    simp only [step]
    split
    · simp only [weight, ahead, Option.getD_none, bare]
      omega
    split
    · simp only [weight, ahead, Option.getD_none, bare]
      omega
    · rename_i f outer opened
      have closed := resume_weight_le f s.level
      simp only [weight, opened, groupsWeight, ahead, Option.getD_none, bare]
      omega

theorem run_weight_le (s : State) (tokens : List Token) :
    (s.run limit tokens).weight ≤ s.weight + tokens.length := by
  induction tokens generalizing s with
  | nil => exact Nat.le_refl _
  | cons t rest ih =>
    have one := step_weight_le limit s t
    have others := ih (s.step limit t)
    rw [run_cons, List.length_cons]
    omega

end State

theorem parse_nots_le {tokens : List Token} {limit : Nat} {e : Expression}
    (read : parse tokens limit = some e) : e.nots ≤ max limit 1 + 1 := by
  rw [parse_eq_run] at read
  have start : State.start.Within (max limit 1) := State.start_within
  have within := start.run tokens
  have bound := closeAll_bounded within.around within.level
  change treeGauge 0 max (State.start.run (max limit 1) tokens).value ≤ _ at bound
  rwa [read] at bound

theorem parse_weight_le {tokens : List Token} {limit : Nat} {e : Expression}
    (read : parse tokens limit = some e) : e.weight ≤ tokens.length := by
  rw [parse_eq_run] at read
  have run := State.run_weight_le (max limit 1) .start tokens
  generalize State.start.run (max limit 1) tokens = s at read run
  have closed := closeAll_weight_le s.groups s.level
  change treeGauge 1 (· + ·) s.value ≤ _ at closed
  rw [read] at closed
  calc e.weight
    _ ≤ groupsWeight s.groups + s.level.gauge 1 (· + ·) := closed
    _ ≤ s.weight := Nat.le_add_right _ _
    _ ≤ State.start.weight + tokens.length := run
    _ = tokens.length := Nat.zero_add _

/-- What a query bounds the depth of its expression by, be the query malformed or not: the NOTs on a
way by the limit, and the nodes on it by the terms and the limit, and by the tokens. However long
and deeply nested a query is that is prepared for a search, the tokens it keeps are enough. -/
theorem depth_bounded (tokens : List Token) (limit : Nat) :
    (∀ e, parse tokens limit = some e →
      e.nots ≤ max limit 1 + 1 ∧
        e.depth ≤ (termTexts tokens).length + max limit 1 + 1 ∧
        e.depth ≤ tokens.length) ∧
      ∀ (config : Search.Config) (query : QueryText) (e : Expression),
        (Search.Prepared.ofQuery config query).expression = some e →
          e.depth ≤ config.maxTokens := by
  have byTokens {tokens : List Token} {limit : Nat} {e : Expression}
      (read : parse tokens limit = some e) : e.depth ≤ tokens.length := by
    calc e.depth
      _ ≤ e.texts.length + e.nots := e.depth_le
      _ ≤ e.weight := e.texts_length_add_nots_le
      _ ≤ tokens.length := parse_weight_le read
  constructor
  · intro e read
    have nots := parse_nots_le read
    have texts : e.texts = termTexts tokens := by
      rw [← parse_texts tokens limit, read]
      rfl
    refine ⟨nots, ?_, byTokens read⟩
    calc e.depth
      _ ≤ e.texts.length + e.nots := e.depth_le
      _ ≤ (termTexts tokens).length + max limit 1 + 1 := by rw [texts]; omega
  · intro config query e read
    calc e.depth
      _ ≤ ((tokenize query.text).take config.maxTokens).length := byTokens read
      _ ≤ config.maxTokens := List.length_take_le _ _

/-- The query `NOT NOT a`, or as much of `NOT NOT a b` as a search for three tokens keeps, reaches
every one of the bounds under a limit of zero. -/
theorem depth_bounded_attained :
    let tokens : List Token := [.not, .not, .term "a"]
    let config : Search.Config := ⟨⟨false, false⟩, 0, 3⟩
    let query : QueryText := ⟨"NOT NOT a b", by decide, by decide, by decide⟩
    let e : Expression := .not (.not (.term "a"))
    parse tokens 0 = some e ∧
      e.nots = max 0 1 + 1 ∧
      e.depth = (termTexts tokens).length + max 0 1 + 1 ∧
      e.depth = tokens.length ∧
      (Search.Prepared.ofQuery config query).expression = some e ∧
      e.depth = config.maxTokens := by
  intro tokens config query e
  have read : parse tokens 0 = some e := by
    rw [parse_eq_run]
    rfl
  have prepared : (Search.Prepared.ofQuery config query).expression = some e := by
    have split : tokenize "NOT NOT a b" = [.not, .not, .term "a", .term "b"] := by
      simp [tokenize, scan_cons, scan_blank, scan_nil, nextToken, quotedPhrase?, endsWord,
        startsRegex, beginsWith, Unicode.isBlank, isParen, wordToken, isWord]
    change parse ((tokenize "NOT NOT a b").take 3) 0 = some e
    rw [split]
    exact read
  obtain ⟨bounds, kept⟩ := depth_bounded tokens 0
  obtain ⟨nots, terms, length⟩ := bounds e read
  exact ⟨read, Nat.le_antisymm nots (by decide), Nat.le_antisymm terms (by decide),
    Nat.le_antisymm length (by decide), prepared,
    Nat.le_antisymm (kept config query e prepared) (by decide)⟩

end BookmarkSearch.Query
