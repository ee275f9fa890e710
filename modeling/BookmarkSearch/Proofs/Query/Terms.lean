import BookmarkSearch.Proofs.Query.Descent
import BookmarkSearch.Query.Term

/-!
The terms of a query all come into its expression, each once and in their order, however malformed
the query is; and these are the terms an evaluation asks for, whatever the answers are.
-/

namespace BookmarkSearch.Query

theorem termTexts_cons (t : Token) (rest : List Token) :
    termTexts (t :: rest) = t.text?.toList ++ termTexts rest := by
  cases text : t.text? <;> simp [termTexts, text]

theorem termTexts_append (first second : List Token) :
    termTexts (first ++ second) = termTexts first ++ termTexts second :=
  List.filterMap_append

def treeTexts (tree : Option Expression) : List String := tree.elim [] Expression.texts

@[simp] theorem treeTexts_none : treeTexts none = [] := rfl

@[simp] theorem treeTexts_term (text : String) : treeTexts (some (.term text)) = [text] := rfl

@[simp] theorem treeTexts_not (tree : Option Expression) :
    treeTexts (tree.map .not) = treeTexts tree := by
  cases tree <;> rfl

@[simp] theorem treeTexts_and (left right : Option Expression) :
    treeTexts (combine .and left right) = treeTexts left ++ treeTexts right := by
  cases left <;> cases right <;> simp [treeTexts, combine, Expression.texts]

@[simp] theorem treeTexts_or (left right : Option Expression) :
    treeTexts (combine .or left right) = treeTexts left ++ treeTexts right := by
  cases left <;> cases right <;> simp [treeTexts, combine, Expression.texts]

@[simp] theorem treeTexts_underNots (n : Nat) (tree : Option Expression) :
    treeTexts (underNots n tree) = treeTexts tree := by
  induction n generalizing tree with
  | zero => rfl
  | succ n ih => rw [underNots, ih, treeTexts_not]

@[simp] theorem treeTexts_apply (f : Front) (tree : Option Expression) :
    treeTexts (f.apply tree) = treeTexts tree := by
  unfold Front.apply
  split <;> simp

theorem Expression.texts_ne_nil (e : Expression) : e.texts ≠ [] := by
  induction e with
  | term text => simp [texts]
  | not e ih => exact ih
  | and l r left _ => simp [texts, left]
  | or l r left _ => simp [texts, left]

theorem treeTexts_eq_nil {tree : Option Expression} : treeTexts tree = [] ↔ tree = none := by
  cases tree with
  | none => simp
  | some e => simp [treeTexts, e.texts_ne_nil]

/-! The texts that a state of the automaton holds. -/

def Level.texts (l : Level) : List String := treeTexts l.disjuncts ++ treeTexts l.factors

@[simp] theorem Level.texts_start : Level.start.texts = [] := rfl

@[simp] theorem Level.texts_add (l : Level) (factor : Option Expression) :
    (l.add factor).texts = l.texts ++ treeTexts factor := by
  simp [texts, add]

@[simp] theorem Level.texts_value (l : Level) : treeTexts l.value = l.texts := by
  simp [texts, value]

@[simp] theorem Level.texts_branch (l : Level) : l.branch.texts = l.texts := by
  simp [branch, texts, value]

@[simp] theorem Frame.texts_resume (f : Frame) (inner : Level) :
    (f.resume inner).texts = f.outer.texts ++ inner.texts := by
  simp [resume]

def groupTexts : List Frame → List String
  | [] => []
  | f :: outer => groupTexts outer ++ f.outer.texts

theorem closeAll_texts (groups : List Frame) (level : Level) :
    treeTexts (closeAll groups level) = groupTexts groups ++ level.texts := by
  induction groups generalizing level with
  | nil => simp [closeAll, groupTexts]
  | cons f outer ih => simp [closeAll, groupTexts, ih]

namespace State

def texts (s : State) : List String := groupTexts s.groups ++ s.level.texts

/-- A token adds the text it has and takes none away. -/
theorem step_texts (limit : Nat) (s : State) (t : Token) :
    (s.step limit t).texts = s.texts ++ t.text?.toList := by
  cases t with
  | term text => simp [step, behind, texts, Token.text?]
  | and => simp [step, texts, Token.text?]
  | or =>
    simp only [step]
    split <;> simp [texts, Token.text?]
  | not =>
    simp only [step]
    split <;> simp [texts, Token.text?]
  | openParen =>
    simp only [step]
    split <;> simp [texts, groupTexts, Token.text?]
  | closeParen =>
    simp only [step]
    split
    · simp [texts, Token.text?]
    · split
      · simp [texts, Token.text?]
      · rename_i f outer opened
        simp [texts, groupTexts, opened, Token.text?]

theorem run_texts (limit : Nat) (s : State) (tokens : List Token) :
    (s.run limit tokens).texts = s.texts ++ termTexts tokens := by
  induction tokens generalizing s with
  | nil => simp [run, termTexts]
  | cons t rest ih =>
    have following := ih (s.step limit t)
    rw [step_texts] at following
    cases text : t.text? <;> simp_all [run, termTexts]

end State

theorem parse_eq_run (tokens : List Token) (limit : Nat) :
    parse tokens limit = (State.start.run (max limit 1) tokens).value := by
  rw [← State.course_tree, start_course]

/-- Reading keeps every term in its place. -/
theorem parse_texts (tokens : List Token) (limit : Nat) :
    treeTexts (parse tokens limit) = termTexts tokens := by
  rw [parse_eq_run, State.value, closeAll_texts]
  exact State.run_texts (max limit 1) .start tokens

namespace Expression

theorem termsUnder_raw (negated : Bool) (e : Expression) :
    (e.termsUnder negated).map QueryTerm.raw = e.texts := by
  induction e generalizing negated with
  | term text => rfl
  | not e ih => exact ih (!negated)
  | and l r left right => simp [termsUnder, texts, left, right]
  | or l r left right => simp [termsUnder, texts, left, right]

/-- A predicate that may have a state of its own, together with what it has been asked for. -/
def recording {σ : Type} (ask : String → StateM σ Bool) (text : String) :
    StateM (List String × σ) Bool := fun (asked, s) =>
  let (answer, s) := ask text s
  (answer, (asked ++ [text], s))

theorem evalM_recording {σ : Type} (ask : String → StateM σ Bool) (e : Expression)
    (asked : List String) (s : σ) :
    ((e.evalM (recording ask)).run (asked, s)).2.1 = asked ++ e.texts := by
  induction e generalizing asked s with
  | term text => rfl
  | not e ih => exact ih asked s
  | and l r left right =>
    -- The right side is asked whatever the left side has answered.
    change ((r.evalM (recording ask)).run ((l.evalM (recording ask)).run (asked, s)).2).2.1 = _
    rw [right, left, texts, List.append_assoc]
  | or l r left right =>
    change ((r.evalM (recording ask)).run ((l.evalM (recording ask)).run (asked, s)).2).2.1 = _
    rw [right, left, texts, List.append_assoc]

/-- Answers of a predicate without a state of its own. -/
theorem evalM_asking (holds : String → Bool) (e : Expression) (asked : List String) :
    (e.evalM (m := StateM (List String)) fun text asked =>
        (holds text, asked ++ [text])).run asked =
      (e.eval holds, asked ++ e.texts) := by
  induction e generalizing asked with
  | term text => rfl
  | not e ih => exact congrArg (fun answer => (!answer.1, answer.2)) (ih asked)
  | and l r left right =>
    simp only [evalM, StateT.run_bind, left, texts]
    change ((l.eval holds && _), _) = _
    rw [right, List.append_assoc]
    rfl
  | or l r left right =>
    simp only [evalM, StateT.run_bind, left, texts]
    change ((l.eval holds || _), _) = _
    rw [right, List.append_assoc]
    rfl

theorem evalAsking_eq (holds : String → Bool) (e : Expression) :
    e.evalAsking holds = (e.eval holds, e.texts) := evalM_asking holds e []

end Expression

/-- However malformed a query is and wherever the limit lies, reading it keeps every term in its
place, and an evaluation asks for just these terms in turn, whatever it is told. -/
theorem parse_keeps_terms (tokens : List Token) (limit : Nat) :
    (termTexts tokens = [] → parse tokens limit = none) ∧
      (termTexts tokens ≠ [] → ∃ e, parse tokens limit = some e ∧
        e.terms.map QueryTerm.raw = termTexts tokens ∧
        (∀ holds, e.evalAsking holds = (e.eval holds, termTexts tokens)) ∧
        ∀ (σ : Type) (ask : String → StateM σ Bool) (s : σ),
          ((e.evalM (Expression.recording ask)).run ([], s)).2.1 = termTexts tokens) := by
  have texts := parse_texts tokens limit
  constructor
  · intro nothing
    exact treeTexts_eq_nil.mp (texts.trans nothing)
  · intro something
    cases tree : parse tokens limit with
    | none => exact absurd (texts.symm.trans (treeTexts_eq_nil.mpr tree)) something
    | some e =>
      have same : e.texts = termTexts tokens := by rw [← texts, tree]; rfl
      refine ⟨e, rfl, ?_, fun holds => ?_, fun σ ask s => ?_⟩
      · rw [Expression.terms, Expression.termsUnder_raw, same]
      · rw [Expression.evalAsking_eq, same]
      · rw [Expression.evalM_recording, List.nil_append, same]

end BookmarkSearch.Query
