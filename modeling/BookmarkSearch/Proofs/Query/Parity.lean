import BookmarkSearch.Proofs.Query.Grammar
import Mathlib.Data.List.Forall2

/-!
NOTs in front of a term count by parity. Two more of them are read as two NOTs, beyond the limit as
nothing at all, and across the limit as one NOT that stands at another place of the expression; the
rest of the query is read alike in all cases, and the expressions that come of it give the same
answers about the same terms.
-/

namespace BookmarkSearch.Query

/-- Whether two expressions come to the same answer, asking for the same terms, whoever is asked,
and report the same terms under NOTs of the same parity. -/
structure Expression.Alike (e f : Expression) : Prop where
  answer : ∀ {m : Type → Type} [Monad m] [LawfulMonad m] (ask : String → m Bool),
    e.evalM ask = f.evalM ask
  reported : ∀ negated, e.termsUnder negated = f.termsUnder negated

namespace Expression.Alike

variable {e f l r l' r' : Expression}

theorem refl (e : Expression) : e.Alike e := ⟨fun _ => rfl, fun _ => rfl⟩

theorem not (same : e.Alike f) : e.not.Alike f.not := by
  constructor
  · intro m _ _ ask
    rw [evalM, evalM, same.answer]
  · intro negated
    exact same.reported (!negated)

theorem and (left : l.Alike l') (right : r.Alike r') : (l.and r).Alike (l'.and r') := by
  constructor
  · intro m _ _ ask
    rw [evalM, evalM, left.answer, right.answer]
  · intro negated
    rw [termsUnder, termsUnder, left.reported, right.reported]

theorem or (left : l.Alike l') (right : r.Alike r') : (l.or r).Alike (l'.or r') := by
  constructor
  · intro m _ _ ask
    rw [evalM, evalM, left.answer, right.answer]
  · intro negated
    rw [termsUnder, termsUnder, left.reported, right.reported]

theorem not_not (e : Expression) : e.not.not.Alike e := by
  constructor
  · intro m _ _ ask
    simp [evalM]
  · intro negated
    rw [termsUnder, termsUnder, Bool.not_not]

end Expression.Alike

abbrev TreesAlike : Option Expression → Option Expression → Prop := Option.Rel Expression.Alike

namespace TreesAlike

variable {tree tree' left left' right right' : Option Expression}

theorem refl (tree : Option Expression) : TreesAlike tree tree := by
  cases tree with
  | none => exact .none
  | some e => exact .some (.refl e)

theorem combine {join : Expression → Expression → Expression}
    (joins : ∀ {l l' r r'}, l.Alike l' → r.Alike r' → (join l r).Alike (join l' r'))
    (first : TreesAlike left left') (second : TreesAlike right right') :
    TreesAlike (combine join left right) (Query.combine join left' right') := by
  cases first with
  | none => cases second with
    | none => exact .none
    | some same => exact .some same
  | some first => cases second with
    | none => exact .some first
    | some second => exact .some (joins first second)

theorem map_not (same : TreesAlike tree tree') :
    TreesAlike (tree.map .not) (tree'.map .not) := by
  cases same with
  | none => exact .none
  | some same => exact .some same.not

theorem underNots (n : Nat) (same : TreesAlike tree tree') :
    TreesAlike (underNots n tree) (Query.underNots n tree') := by
  induction n generalizing tree tree' with
  | zero => exact same
  | succ n ih => exact ih same.map_not

end TreesAlike

/-! States with the same parentheses open and the same NOTs in front, which hold trees that are
alike. -/

structure Level.Alike (l k : Level) : Prop where
  disjuncts : TreesAlike l.disjuncts k.disjuncts
  factors : TreesAlike l.factors k.factors

namespace Level.Alike

variable {l k : Level} {tree tree' : Option Expression}

theorem refl (l : Level) : l.Alike l := ⟨.refl l.disjuncts, .refl l.factors⟩

theorem add (same : l.Alike k) (factor : TreesAlike tree tree') :
    (l.add tree).Alike (k.add tree') :=
  ⟨same.disjuncts, same.factors.combine .and factor⟩

theorem value (same : l.Alike k) : TreesAlike l.value k.value :=
  same.disjuncts.combine .or same.factors

theorem branch (same : l.Alike k) : l.branch.Alike k.branch := ⟨same.value, .none⟩

end Level.Alike

structure Frame.Alike (f g : Frame) : Prop where
  outer : f.outer.Alike g.outer
  nots : f.nots = g.nots

theorem Frame.Alike.resume {f g : Frame} {l k : Level} (frames : f.Alike g) (same : l.Alike k) :
    (f.resume l).Alike (g.resume k) := by
  apply frames.outer.add
  rw [frames.nots]
  exact same.value.underNots g.nots

theorem enclosing_alike {groups groups' : List Frame}
    (same : List.Forall₂ Frame.Alike groups groups') : enclosing groups = enclosing groups' := by
  induction same with
  | nil => rfl
  | cons frames _ ih => rw [enclosing, enclosing, frames.nots, ih]

theorem closeAll_alike {groups groups' : List Frame} {l k : Level}
    (same : List.Forall₂ Frame.Alike groups groups') (level : l.Alike k) :
    TreesAlike (closeAll groups l) (closeAll groups' k) := by
  induction same generalizing l k with
  | nil => exact level.value
  | cons frames _ ih => exact ih (frames.resume level)

structure State.Alike (s s' : State) : Prop where
  groups : List.Forall₂ Frame.Alike s.groups s'.groups
  level : s.level.Alike s'.level
  front : s.front = s'.front
  skipped : s.skipped = s'.skipped

namespace State.Alike

variable {s s' : State}

theorem value (same : s.Alike s') : TreesAlike s.value s'.value :=
  closeAll_alike same.groups same.level

theorem atLimit_iff (limit : Nat) (same : s.Alike s') : s.atLimit limit ↔ s'.atLimit limit := by
  rw [atLimit, atLimit, ahead, ahead, enclosing_alike same.groups, same.front]

/-- A token does the same to states that are alike. -/
theorem step (limit : Nat) (same : s.Alike s') (t : Token) :
    (s.step limit t).Alike (s'.step limit t) := by
  have deep := same.atLimit_iff limit
  obtain ⟨groups, level, front, skipped⟩ := s
  obtain ⟨groups', level', front', skipped'⟩ := s'
  obtain ⟨groups, level, rfl, rfl⟩ := same
  cases t with
  | term text => exact ⟨groups, level.add (.refl _), rfl, rfl⟩
  | and => exact ⟨groups, level, rfl, rfl⟩
  | or =>
    simp only [State.step]
    split
    · exact ⟨groups, level, rfl, rfl⟩
    · exact ⟨groups, level.branch, rfl, rfl⟩
  | not =>
    simp only [State.step, deep]
    split
    · exact ⟨groups, level, rfl, rfl⟩
    · exact ⟨groups, level, rfl, rfl⟩
  | openParen =>
    simp only [State.step, deep]
    split
    · exact ⟨groups, level, rfl, rfl⟩
    · exact ⟨.cons ⟨level, rfl⟩ groups, .refl .start, rfl, rfl⟩
  | closeParen =>
    simp only [State.step]
    split
    · exact ⟨groups, level, rfl, rfl⟩
    · cases groups with
      | nil => exact ⟨.nil, level, rfl, rfl⟩
      | cons frames outer => exact ⟨outer, frames.resume level, rfl, rfl⟩

theorem run (limit : Nat) (same : s.Alike s') (tokens : List Token) :
    (s.run limit tokens).Alike (s'.run limit tokens) := by
  induction tokens generalizing s s' with
  | nil => exact same
  | cons t rest ih => exact ih (same.step limit t)

end State.Alike

/-! Two NOTs in front of a term. -/

namespace Front

def notted (beyond : Bool) (f : Front) : Front :=
  if beyond then ⟨f.nots, !f.flipped⟩ else ⟨f.nots + 1, f.flipped⟩

/-- On whichever side of the limit they stand, two NOTs cancel out. -/
theorem apply_notted_twice (first second : Bool) (f : Front) (tree : Option Expression) :
    TreesAlike (((f.notted first).notted second).apply tree) (f.apply tree) := by
  have twice (tree : Option Expression) : TreesAlike ((tree.map .not).map .not) tree := by
    cases tree with
    | none => exact .none
    | some e => exact .some (.not_not e)
  obtain ⟨nots, flipped⟩ := f
  cases first with
  | false => cases second with
    | false => exact (twice _).underNots nots
    | true => cases flipped with
      -- The limit lies between the two NOTs: one is a node already, and the other one flips it.
      | false => exact (twice tree).underNots nots
      | true => exact .refl _
  | true => cases second with
    | false => cases flipped with
      | false => exact (twice tree).underNots nots
      | true => exact .refl _
    | true => cases flipped with
      | false => exact .refl _
      | true => exact .refl _

end Front

namespace State

variable (limit : Nat)

theorem step_not_eq (s : State) :
    s.step limit .not = { s with front := some (s.ahead.notted (s.atLimit limit)) } := by
  by_cases beyond : s.atLimit limit
  · simp [step, Front.notted, beyond]
  · simp [step, Front.notted, beyond]

/-- Behind the term it makes no difference any more which way the two NOTs were read. -/
theorem step_not_not (s : State) (text : String) :
    (((s.step limit .not).step limit .not).step limit (.term text)).Alike
      (s.step limit (.term text)) := by
  have level := (Level.Alike.refl s.level).add
    (s.ahead.apply_notted_twice (s.atLimit limit) ((s.step limit .not).atLimit limit)
      (some (.term text)))
  have groups : List.Forall₂ Frame.Alike s.groups s.groups := by
    apply List.forall₂_same.mpr
    intro f _
    exact ⟨.refl f.outer, rfl⟩
  rw [step_not_eq limit (s.step limit .not)]
  rw [step_not_eq] at level ⊢
  exact ⟨groups, level, rfl, rfl⟩

end State

/-- Two NOTs more directly in front of a term change no answer and no term that is reported, however
malformed the query is and wherever the limit lies in the NOTs. -/
theorem parse_not_not (pre rest : List Token) (text : String) (limit : Nat) :
    ∃ e f, parse (pre ++ .not :: .not :: .term text :: rest) limit = some e ∧
      parse (pre ++ .term text :: rest) limit = some f ∧
      (∀ holds, e.eval holds = f.eval holds) ∧
      (∀ (σ : Type) (ask : String → StateM σ Bool), e.evalM ask = f.evalM ask) ∧
      e.terms = f.terms := by
  have alike : TreesAlike (parse (pre ++ .not :: .not :: .term text :: rest) limit)
      (parse (pre ++ .term text :: rest) limit) := by
    rw [parse_eq_run, parse_eq_run, State.run_append, State.run_append]
    exact ((State.step_not_not (max limit 1) _ text).run (max limit 1) rest).value
  have something : termTexts (pre ++ .term text :: rest) ≠ [] := by
    simp [termTexts_append, termTexts_cons, Token.text?]
  cases read : parse (pre ++ .term text :: rest) limit with
  | none =>
    have nothing := (parse_texts (pre ++ .term text :: rest) limit).symm
    rw [read] at nothing
    exact absurd nothing something
  | some f =>
    rw [read] at alike
    generalize parse (pre ++ .not :: .not :: .term text :: rest) limit = tree at alike
    cases alike with
    | some same =>
      exact ⟨_, f, rfl, rfl, same.answer (m := Id), fun σ ask => same.answer ask,
        same.reported false⟩

end BookmarkSearch.Query
