import Mathlib.Logic.Function.Basic
import BookmarkSearch.Proofs.Search.Scan

/-!
The polarity that a term is reported under is the one the value of the expression has in it. Where a
term that is not negated comes to hold of more documents, or a negated one of fewer, no hit is lost;
and in an expression that asks for each text once, every term can decide the value by itself, as it
holds or, where it is negated, as it does not.
-/

namespace BookmarkSearch.Query

/-- Whether `q` is at least as favourable to the terms as `p`: those that are not negated hold under
`q` where they hold under `p`, and the negated ones hold under `p` where they hold under `q`. -/
def Raised (terms : List QueryTerm) (p q : String → Bool) : Prop :=
  ∀ t ∈ terms, (t.negated = false → p t.raw = true → q t.raw = true) ∧
    (t.negated = true → q t.raw = true → p t.raw = true)

theorem raised_append {first second : List QueryTerm} {p q : String → Bool} :
    Raised (first ++ second) p q ↔ Raised first p q ∧ Raised second p q :=
  List.forall_mem_append

namespace Expression

def evalUnder (negated : Bool) (holds : String → Bool) (e : Expression) : Bool :=
  e.eval holds ^^ negated

section EvalUnder

variable (negated : Bool) (holds : String → Bool)

@[simp] theorem evalUnder_false (e : Expression) : e.evalUnder false holds = e.eval holds :=
  Bool.xor_false _

/-- The collector carries the parity down to where the evaluator has it from. -/
theorem evalUnder_not (e : Expression) :
    e.not.evalUnder negated holds = e.evalUnder (!negated) holds := by
  rw [evalUnder, evalUnder, eval_not, Bool.not_xor, Bool.xor_not]

theorem evalUnder_and (l r : Expression) : (l.and r).evalUnder negated holds =
    if negated then l.evalUnder true holds || r.evalUnder true holds
    else l.evalUnder false holds && r.evalUnder false holds := by
  cases negated <;> simp [evalUnder]

theorem evalUnder_or (l r : Expression) : (l.or r).evalUnder negated holds =
    if negated then l.evalUnder true holds && r.evalUnder true holds
    else l.evalUnder false holds || r.evalUnder false holds := by
  cases negated <;> simp [evalUnder]

end EvalUnder

theorem evalUnder_raised {p q : String → Bool} (e : Expression) {negated : Bool}
    (raised : Raised (e.termsUnder negated) p q) (holds : e.evalUnder negated p = true) :
    e.evalUnder negated q = true := by
  induction e generalizing negated with
  | term text =>
    obtain ⟨more, fewer⟩ := raised _ (List.mem_singleton_self _)
    cases negated with
    | false => simpa [evalUnder] using more rfl (by simpa [evalUnder] using holds)
    | true =>
      simp only [evalUnder, eval_term, Bool.xor_true, Bool.not_eq_true'] at holds ⊢
      rw [← Bool.not_eq_true] at holds ⊢
      exact fun found => holds (fewer rfl found)
  | not e ih =>
    rw [evalUnder_not] at holds ⊢
    exact ih raised holds
  | and l r left right =>
    obtain ⟨here, there⟩ := raised_append.mp raised
    rw [evalUnder_and] at holds ⊢
    cases negated with
    | false =>
      obtain ⟨first, second⟩ := Bool.and_eq_true_iff.mp holds
      exact Bool.and_eq_true_iff.mpr ⟨left here first, right there second⟩
    | true =>
      exact Bool.or_eq_true_iff.mpr ((Bool.or_eq_true_iff.mp holds).imp (left here) (right there))
  | or l r left right =>
    obtain ⟨here, there⟩ := raised_append.mp raised
    rw [evalUnder_or] at holds ⊢
    cases negated with
    | false =>
      exact Bool.or_eq_true_iff.mpr ((Bool.or_eq_true_iff.mp holds).imp (left here) (right there))
    | true =>
      obtain ⟨first, second⟩ := Bool.and_eq_true_iff.mp holds
      exact Bool.and_eq_true_iff.mpr ⟨left here first, right there second⟩

theorem eval_raised {p q : String → Bool} (e : Expression) (raised : Raised e.terms p q)
    (holds : e.eval p = true) : e.eval q = true := by
  rw [← evalUnder_false] at holds ⊢
  exact e.evalUnder_raised raised holds

/-! Expressions that ask for each text once. -/

def answering (texts : List String) (p q : String → Bool) (raw : String) : Bool :=
  if raw ∈ texts then p raw else q raw

section Apart

variable {l r : Expression} (apart : ∀ a ∈ l.texts, ∀ b ∈ r.texts, a ≠ b)

include apart

theorem eval_answering (p q : String → Bool) : l.eval (answering l.texts p q) = l.eval p ∧
    r.eval (answering l.texts p q) = r.eval q := by
  constructor
  · exact l.eval_congr fun raw here => if_pos here
  · exact r.eval_congr fun raw there => if_neg fun here => apart raw here raw there rfl

/-- While one side is being decided by a text, the other one can be told whatever it takes. -/
theorem exists_beside {raw : String} (member : raw ∈ l.texts) {value : Bool → Bool}
    (decided : ∃ p, ∀ b, l.eval (Function.update p raw b) = value b) {other : Bool}
    (attained : ∃ q, r.eval q = other) :
    ∃ s, ∀ b, l.eval (Function.update s raw b) = value b ∧
      r.eval (Function.update s raw b) = other := by
  obtain ⟨p, decides⟩ := decided
  obtain ⟨q, settled⟩ := attained
  refine ⟨answering l.texts p q, fun b => ?_⟩
  have told : Function.update (answering l.texts p q) raw b =
      answering l.texts (Function.update p raw b) q := by
    funext text
    by_cases same : text = raw
    · subst same
      simp [answering, member]
    · simp [answering, same]
  obtain ⟨first, second⟩ := eval_answering apart (Function.update p raw b) q
  rw [told, first, second]
  exact ⟨decides b, settled⟩

end Apart

theorem texts_apart {l r : Expression} (once : (l.texts ++ r.texts).Nodup) :
    l.texts.Nodup ∧ r.texts.Nodup ∧ (∀ a ∈ l.texts, ∀ b ∈ r.texts, a ≠ b) ∧
      ∀ b ∈ r.texts, ∀ a ∈ l.texts, b ≠ a := by
  obtain ⟨first, second, apart⟩ := List.nodup_append.mp once
  exact ⟨first, second, apart, fun b there a here => (apart a here b there).symm⟩

theorem exists_agreeing {l r : Expression} (once : (l.texts ++ r.texts).Nodup) {value : Bool}
    (left : ∃ p, l.eval p = value) (right : ∃ q, r.eval q = value) :
    ∃ p, l.eval p = value ∧ r.eval p = value := by
  obtain ⟨-, -, apart, -⟩ := texts_apart once
  obtain ⟨p, here⟩ := left
  obtain ⟨q, there⟩ := right
  obtain ⟨first, second⟩ := eval_answering apart p q
  exact ⟨_, first.trans here, second.trans there⟩

theorem exists_eval_eq {e : Expression} (once : e.texts.Nodup) (value : Bool) :
    ∃ p, e.eval p = value := by
  induction e generalizing value with
  | term text => exact ⟨fun _ => value, rfl⟩
  | not e ih =>
    obtain ⟨p, opposite⟩ := ih once (!value)
    exact ⟨p, by rw [eval_not, opposite, Bool.not_not]⟩
  | and l r left right =>
    obtain ⟨first, second, -⟩ := texts_apart once
    obtain ⟨p, here, there⟩ := exists_agreeing once (left first value) (right second value)
    exact ⟨p, by rw [eval_and, here, there, Bool.and_self]⟩
  | or l r left right =>
    obtain ⟨first, second, -⟩ := texts_apart once
    obtain ⟨p, here, there⟩ := exists_agreeing once (left first value) (right second value)
    exact ⟨p, by rw [eval_or, here, there, Bool.or_self]⟩

theorem raw_mem_texts {e : Expression} {negated : Bool} {t : QueryTerm}
    (member : t ∈ e.termsUnder negated) : t.raw ∈ e.texts := by
  rw [← termsUnder_raw negated e]
  exact List.mem_map_of_mem member

/-- Where each text is asked for once, every term decides the value for some answers about the
others. -/
theorem exists_deciding {e : Expression} (once : e.texts.Nodup) {negated : Bool} {t : QueryTerm}
    (member : t ∈ e.termsUnder negated) :
    ∃ p, ∀ b, e.eval (Function.update p t.raw b) = (b ^^ (t.negated ^^ negated)) := by
  induction e generalizing negated with
  | term text =>
    obtain rfl := List.mem_singleton.mp member
    exact ⟨fun _ => false, fun b => by simp⟩
  | not e ih =>
    obtain ⟨p, decides⟩ := ih once member
    exact ⟨p, fun b => by simp [decides b]⟩
  | and l r left right =>
    -- The side without the term is told to be true.
    obtain ⟨first, second, apart, apart'⟩ := texts_apart once
    rcases List.mem_append.mp member with here | there
    · obtain ⟨s, decides⟩ := exists_beside apart (raw_mem_texts here) (left first here)
        (exists_eval_eq second true)
      exact ⟨s, fun b => by rw [eval_and, (decides b).1, (decides b).2, Bool.and_true]⟩
    · obtain ⟨s, decides⟩ := exists_beside apart' (raw_mem_texts there) (right second there)
        (exists_eval_eq first true)
      exact ⟨s, fun b => by rw [eval_and, (decides b).1, (decides b).2, Bool.true_and]⟩
  | or l r left right =>
    -- The side without the term is told to be false.
    obtain ⟨first, second, apart, apart'⟩ := texts_apart once
    rcases List.mem_append.mp member with here | there
    · obtain ⟨s, decides⟩ := exists_beside apart (raw_mem_texts here) (left first here)
        (exists_eval_eq second false)
      exact ⟨s, fun b => by rw [eval_or, (decides b).1, (decides b).2, Bool.or_false]⟩
    · obtain ⟨s, decides⟩ := exists_beside apart' (raw_mem_texts there) (right second there)
        (exists_eval_eq first false)
      exact ⟨s, fun b => by rw [eval_or, (decides b).1, (decides b).2, Bool.false_or]⟩

end Expression

/-- The flags are the polarities. Where the terms are raised, an expression that holds goes on
holding, so that no document is lost that it holds of; and of an expression that asks for each text
once, any term can be the one that decides, in the way its flag says. -/
theorem flags_are_polarities (e : Expression) :
    (∀ p q : String → Bool, Raised e.terms p q → e.eval p = true → e.eval q = true) ∧
      (∀ (documents : List Search.Document) (p q : Search.Document → String → Bool),
        (∀ d ∈ documents, Raised e.terms (p d) (q d)) →
          (documents.filter fun d => e.eval (p d)).Sublist
            (documents.filter fun d => e.eval (q d))) ∧
      (e.texts.Nodup → ∀ t ∈ e.terms, ∃ p : String → Bool, ∀ b,
        e.eval (Function.update p t.raw b) = (b ^^ t.negated)) := by
  refine ⟨fun p q raised => e.eval_raised raised, ?_, ?_⟩
  · intro documents p q raised
    have kept : (documents.filter fun d => e.eval (p d)) =
        (documents.filter fun d => e.eval (q d)).filter fun d => e.eval (p d) := by
      rw [List.filter_filter]
      refine List.filter_congr fun d member => ?_
      rw [Bool.eq_iff_iff, Bool.and_eq_true]
      exact ⟨fun holds => ⟨holds, e.eval_raised (raised d member) holds⟩, And.left⟩
    rw [kept]
    exact List.filter_sublist
  · intro once t member
    obtain ⟨p, decides⟩ := Expression.exists_deciding once member
    exact ⟨p, fun b => by rw [decides, Bool.xor_false]⟩

/-- The term `a` stands under both polarities, so that it may change neither way, while `b` comes to
fail and `c` to hold. -/
theorem flags_are_polarities_both :
    let e : Expression := .or (.term "c") (.and (.or (.term "a") (.not (.term "b")))
      (.or (.not (.term "a")) (.term "d")))
    let p : String → Bool := fun raw => ["a", "b", "d"].contains raw
    let q : String → Bool := fun raw => ["a", "c", "d"].contains raw
    Raised e.terms p q ∧ e.eval p = true ∧ e.eval q = true := by
  intro e p q
  have raised : Raised e.terms p q := by
    unfold Raised
    decide
  have holds : e.eval p = true := by decide
  exact ⟨raised, holds, (flags_are_polarities e).1 p q raised holds⟩

end BookmarkSearch.Query
