import BookmarkSearch.Proofs.Query.Grammar
import BookmarkSearch.Proofs.Query.Lexemes
import BookmarkSearch.Query.Expression

/-!
The written form of an expression, read again. Its parentheses are read as they are meant, so that
all depends on the lexer finding each term as it was written; for the terms of a query it is said
exactly when it does.
-/

namespace BookmarkSearch.Query

open Unicode

namespace Expression

def factor : Expression → Factor
  | .term text => .term text
  | .not e => .not e.factor
  | .and l r => .group (.one (.and (.one l.factor) r.factor))
  | .or l r => .group (.or (.one (.one l.factor)) (.one r.factor))

theorem factor_meaning (e : Expression) : e.factor.meaning = e := by
  induction e with
  | term text => rfl
  | not e ih => rw [factor, Factor.meaning, ih]
  | and l r left right =>
    simp only [factor, Factor.meaning, Alternatives.meaning, Conjunction.meaning, left, right]
  | or l r left right =>
    simp only [factor, Factor.meaning, Alternatives.meaning, Conjunction.meaning, left, right]

theorem factor_nesting (e : Expression) : e.factor.nesting + 1 = e.depth := by
  induction e with
  | term text => rfl
  | not e ih =>
    simp only [factor, Factor.nesting, depth]
    omega
  | and l r left right =>
    simp only [factor, Factor.nesting, Alternatives.nesting, Conjunction.nesting, depth]
    omega
  | or l r left right =>
    simp only [factor, Factor.nesting, Alternatives.nesting, Conjunction.nesting, depth]
    omega

theorem parse_factor (e : Expression) {limit : Nat} (deep : e.depth ≤ limit) :
    parse e.factor.tokens limit = some e := by
  have fits : enclosing [] + 0 + e.factor.nesting ≤ max limit 1 := by
    have nested := e.factor_nesting
    simp only [enclosing]
    omega
  have run := run_factor [] .start 0 e.factor fits
  rw [e.factor_meaning] at run
  rw [parse_eq_run]
  exact congrArg State.value run

theorem factor_texts (e : Expression) : termTexts e.factor.tokens = e.texts := by
  have texts := parse_texts e.factor.tokens e.depth
  rw [e.parse_factor (Nat.le_refl _)] at texts
  exact texts.symm

end Expression

/-- Whether the lexer takes a written term for what it is, `after` being what is written behind it.
A term that is put in quotes must have none itself. On one that is not, no closing parenthesis may
follow if it begins a regular expression, and a quote that it begins with must not begin a
phrase. -/
def Legible (text after : List Char) : Prop :=
  if Expression.needsQuotes text then '"' ∉ text
  else (startsRegex text = true → after.head? ≠ some ')') ∧
    (text.head? = some '"' → text.tail.head? = some '"' ∨ '"' ∉ text.tail ++ after)

instance (text after : List Char) : Decidable (Legible text after) :=
  inferInstanceAs (Decidable (ite _ _ _))

namespace Expression

def AllLegible : Expression → List Char → Prop
  | .term text, after => Legible text.toList after
  | .not e, after => e.AllLegible after
  | .and l r, after =>
    l.AllLegible (" AND ".toList ++ (r.write ++ ')' :: after)) ∧ r.AllLegible (')' :: after)
  | .or l r, after =>
    l.AllLegible (" OR ".toList ++ (r.write ++ ')' :: after)) ∧ r.AllLegible (')' :: after)

instance decideAllLegible : (e : Expression) → (after : List Char) → Decidable (e.AllLegible after)
  | .term text, after => inferInstanceAs (Decidable (Legible text.toList after))
  | .not e, after => decideAllLegible e after
  | .and l r, _ => @instDecidableAnd _ _ (decideAllLegible l _) (decideAllLegible r _)
  | .or l r, _ => @instDecidableAnd _ _ (decideAllLegible l _) (decideAllLegible r _)

end Expression

inductive Connective where
  | and
  | or

namespace Connective

def join : Connective → Expression → Expression → Expression
  | .and => .and
  | .or => .or

def text : Connective → List Char
  | .and => " AND ".toList
  | .or => " OR ".toList

def token : Connective → Token
  | .and => .and
  | .or => .or

variable (op : Connective) (l r : Expression)

theorem write_join (after : List Char) : (op.join l r).write ++ after =
    '(' :: (l.write ++ (op.text ++ (r.write ++ ')' :: after))) := by
  cases op <;> simp [join, text, Expression.write]

theorem factor_join : (op.join l r).factor.tokens =
    .openParen :: (l.factor.tokens ++ op.token :: (r.factor.tokens ++ [.closeParen])) := by
  cases op <;>
    simp [join, token, Expression.factor, Factor.tokens, Alternatives.tokens, Conjunction.tokens]

theorem texts_join : (op.join l r).texts = l.texts ++ r.texts := by
  cases op <;> rfl

theorem text_token : op.token.text? = none := by
  cases op <;> rfl

theorem allLegible_join (after : List Char) : (op.join l r).AllLegible after ↔
    l.AllLegible (op.text ++ (r.write ++ ')' :: after)) ∧ r.AllLegible (')' :: after) := by
  cases op <;> exact Iff.rfl

end Connective

def Behind (after : List Char) : Prop := ∀ c ∈ after.head?, c = ' ' ∨ c = ')'

/-! A term by itself. -/

theorem bare_of_needsQuotes {text : List Char} (bare : Expression.needsQuotes text = false) :
    (∀ c ∈ text, isBlank c = false ∧ isParen c = false) ∧
      wordToken text = .term (String.ofList text) := by
  simp only [Expression.needsQuotes, Bool.or_eq_false_iff, List.any_eq_false] at bare
  obtain ⟨⟨⟨⟨-, letters⟩, noAnd⟩, noOr⟩, noNot⟩ := bare
  refine ⟨fun c member => by simpa using letters c member, ?_⟩
  simp [wordToken, noAnd, noOr, noNot]

theorem quotedPhrase_append_eq_none_iff {text after : List Char} (nonempty : text ≠ [])
    (behind : Behind after) :
    quotedPhrase? (text ++ after) = none ↔
      (text.head? = some '"' → text.tail.head? = some '"' ∨ '"' ∉ text.tail ++ after) := by
  obtain ⟨c, tail, rfl⟩ := List.exists_cons_of_ne_nil nonempty
  by_cases quote : c = '"'
  · subst c
    rw [List.cons_append, quotedPhrase_eq_none_iff]
    -- A second quote right behind the first is one of the text, as `after` begins with none.
    have unquoted : after.head? ≠ some '"' := by
      intro first
      rcases behind _ first with same | same <;> cases same
    cases tail with
    | nil => simp [unquoted]
    | cons d rest => simp
  · have other : quotedPhrase? (c :: tail ++ after) = none := quotedPhrase_eq_none_of_ne quote
    simpa [quote] using other

section Term

variable {text : String} {after : List Char}

theorem scan_legible (lexed : Lexed text) (behind : Behind after)
    (legible : Legible text.toList after) :
    scan (Expression.writeTerm text.toList ++ after) = .term text :: scan after := by
  unfold Legible at legible
  unfold Expression.writeTerm
  split at legible
  · rename_i quoted
    rw [if_pos quoted]
    have read := scan_phrase after lexed.nonempty legible
    simpa using read
  · rename_i bare
    rw [if_neg bare]
    obtain ⟨letters, word⟩ := bare_of_needsQuotes (Bool.not_eq_true _ ▸ bare)
    obtain ⟨marked, unquoted⟩ := legible
    have whole : ∀ c ∈ text.toList, endsWord text.toList c = false := by
      intro c member
      simp [endsWord, letters c member]
    have ended : ∀ c ∈ after.head?, endsWord text.toList c = true := by
      intro c first
      rcases behind c first with rfl | rfl
      · simp [endsWord, isBlank]
      · have unmarked : ¬startsRegex text.toList = true := fun isMarked => marked isMarked first
        simp [endsWord, unmarked, isParen]
    rw [scan_word after lexed.nonempty whole ended
      ((quotedPhrase_append_eq_none_iff lexed.nonempty behind).mpr unquoted), word,
      String.ofList_toList]

/-- A phrase holds no quote, so a term with one in it is not read from it. -/
theorem phrase_ne {cs phrase rest : List Char} (found : quotedPhrase? cs = some (phrase, rest))
    (quoted : '"' ∈ text.toList) :
    ∃ other more, scan cs = .term other :: more ∧ other ≠ text := by
  obtain ⟨rfl, nonempty, unquoted⟩ := quotedPhrase_eq_some_iff.mp found
  refine ⟨_, _, scan_phrase rest nonempty unquoted, ?_⟩
  rintro rfl
  rw [String.toList_ofList] at quoted
  exact unquoted quoted

/-- In front of a closing parenthesis a regular expression takes more than the term into it. -/
theorem marked_ne {rest : List Char} (marked : startsRegex text.toList = true)
    (letters : ∀ c ∈ text.toList, isBlank c = false ∧ isParen c = false)
    (bare : quotedPhrase? (text.toList ++ ')' :: rest) = none) :
    ∃ other more, scan (text.toList ++ ')' :: rest) = .term other :: more ∧ other ≠ text := by
  have nonempty : text.toList ≠ [] := by
    intro nothing
    rw [nothing] at marked
    cases marked
  -- The marker stands in the text itself, and counts however far the word reaches.
  have stillMarked (behind : List Char) :
      startsRegex (text.toList ++ ')' :: behind) = true := by
    rw [startsRegex_append nonempty, marked]
    intro c first
    cases first
    exact .inr rfl
  have stop : endsWord (text.toList ++ ')' :: rest) = isBlank := by
    funext c
    rw [endsWord, stillMarked, if_pos rfl]
  have inside : ∀ c ∈ text.toList, (!isBlank c) = true := by
    intro c member
    simp [letters c member]
  have read : ∃ more, scan (text.toList ++ ')' :: rest) =
      wordToken (text.toList ++ ')' :: rest.takeWhile fun c => !isBlank c) :: more := by
    obtain ⟨c, tail, same⟩ := List.exists_cons_of_ne_nil nonempty
    have front := letters c (by rw [same]; exact List.mem_cons_self)
    rw [same] at bare
    have read := scan_bare (tail ++ ')' :: rest) front.1 front.2 bare
    rw [← List.cons_append, ← same, stop, List.takeWhile_append_of_pos inside,
      List.takeWhile_cons_of_pos (by decide)] at read
    exact ⟨_, read⟩
  obtain ⟨more, read⟩ := read
  rw [wordToken_of_startsRegex (stillMarked _)] at read
  refine ⟨_, more, read, fun same => ?_⟩
  have lengths := congrArg (fun other : String => other.toList.length) same
  simp at lengths

theorem front_of_needsQuotes (lexed : Lexed text)
    (quoted : Expression.needsQuotes text.toList = true) : text.toList.head? ≠ some '"' := by
  intro first
  have letters := lexed.bare first
  obtain ⟨rest, same⟩ := List.head?_eq_some_iff.mp first
  simp only [Expression.needsQuotes, Bool.or_eq_true, List.any_eq_true] at quoted
  rcases quoted with (((empty | ⟨c, member, ends⟩) | word) | word) | word
  · exact lexed.nonempty (List.isEmpty_iff.mp empty)
  · simp [letters c member] at ends
  all_goals
    rw [same] at word
    simp [isWord] at word

theorem scan_illegible (lexed : Lexed text) (behind : Behind after)
    (illegible : ¬Legible text.toList after) :
    ∃ other more, scan (Expression.writeTerm text.toList ++ after) = .term other :: more ∧
      other ≠ text := by
  unfold Legible at illegible
  unfold Expression.writeTerm
  split at illegible
  · -- The quote in the term ends the phrase that the quote in front of it begins.
    rename_i quoted
    have inside : '"' ∈ text.toList := Decidable.not_not.mp illegible
    rw [if_pos quoted]
    cases found : quotedPhrase? ('"' :: (text.toList ++ '"' :: after)) with
    | some parts =>
      obtain ⟨phrase, rest⟩ := parts
      simpa using phrase_ne found inside
    | none =>
      rcases quotedPhrase_eq_none_iff.mp found with first | absent
      · obtain ⟨c, tail, same⟩ := List.exists_cons_of_ne_nil lexed.nonempty
        have other := front_of_needsQuotes lexed quoted
        rw [same] at first other
        exact absurd first other
      · exact absurd (List.mem_append_left _ inside) absent
  · -- Where no phrase begins, a bare term can only be lost to the regular expression it begins.
    rename_i bare
    obtain ⟨letters, -⟩ := bare_of_needsQuotes (Bool.not_eq_true _ ▸ bare)
    have unquoted := quotedPhrase_append_eq_none_iff lexed.nonempty behind
    rw [if_neg bare]
    cases found : quotedPhrase? (text.toList ++ after) with
    | some parts =>
      obtain ⟨phrase, rest⟩ := parts
      have first : text.toList.head? = some '"' := by
        refine Decidable.byContradiction fun other => ?_
        rw [unquoted.mpr fun first => absurd first other] at found
        cases found
      exact phrase_ne found (List.mem_of_head? first)
    | none =>
      have marked : startsRegex text.toList = true ∧ after.head? = some ')' := by
        refine Decidable.byContradiction fun other => illegible ⟨?_, unquoted.mp found⟩
        exact fun marked closing => other ⟨marked, closing⟩
      obtain ⟨rest, rfl⟩ := List.head?_eq_some_iff.mp marked.2
      exact marked_ne marked.1 letters found

end Term

/-! An expression. -/

theorem scan_operator (word rest : List Char) (nonempty : word ≠ [])
    (whole : word.all (!endsWord word ·) = true) (bare : word.head? ≠ some '"') :
    scan (word ++ ' ' :: rest) = wordToken word :: scan rest := by
  have ended : ∀ c ∈ (' ' :: rest).head?, endsWord word c = true := by
    intro c first
    cases first
    unfold endsWord
    split <;> rfl
  have behind : Behind (' ' :: rest) := fun c first => .inl (Option.some.inj first).symm
  have unquoted := (quotedPhrase_append_eq_none_iff nonempty behind).mpr fun first =>
    absurd first bare
  have inside : ∀ c ∈ word, endsWord word c = false := by simpa using whole
  rw [scan_word _ nonempty inside ended unquoted, scan_blank rest (by decide)]

theorem scan_not (rest : List Char) : scan ("NOT ".toList ++ rest) = .not :: scan rest :=
  scan_operator ['N', 'O', 'T'] rest (by decide) (by decide) (by decide)

theorem behind_closing (after : List Char) : Behind (')' :: after) :=
  fun _ first => .inr (Option.some.inj first).symm

namespace Expression

def ReadsBack (e : Expression) : Prop := ∀ after, Behind after → e.AllLegible after →
  scan (e.write ++ after) = e.factor.tokens ++ scan after

def ShowsLegible (e : Expression) : Prop := ∀ after, Behind after →
  e.texts <+: termTexts (scan (e.write ++ after)) → e.AllLegible after

end Expression

namespace Connective

variable {l r : Expression}

theorem behind_text (op : Connective) (rest : List Char) : Behind (op.text ++ rest) := by
  intro c first
  cases op <;> exact .inl (Option.some.inj first).symm

theorem scan_text (op : Connective) (rest : List Char) :
    scan (op.text ++ rest) = op.token :: scan rest := by
  cases op with
  | and =>
    exact (scan_blank _ (by decide)).trans
      (scan_operator ['A', 'N', 'D'] rest (by decide) (by decide) (by decide))
  | or =>
    exact (scan_blank _ (by decide)).trans
      (scan_operator ['O', 'R'] rest (by decide) (by decide) (by decide))

theorem readsBack_join (op : Connective) (left : l.ReadsBack) (right : r.ReadsBack) :
    (op.join l r).ReadsBack := by
  intro after _ legible
  obtain ⟨legibleLeft, legibleRight⟩ := (op.allLegible_join l r after).mp legible
  have readLeft := left _ (op.behind_text _) legibleLeft
  have readRight := right _ (behind_closing after) legibleRight
  rw [write_join, scan_openParen, readLeft, scan_text, readRight, scan_closeParen, factor_join]
  simp

theorem showsLegible_join (op : Connective) (readLeft : l.ReadsBack) (left : l.ShowsLegible)
    (right : r.ShowsLegible) : (op.join l r).ShowsLegible := by
  intro after _ same
  rw [write_join, texts_join, scan_openParen, termTexts_cons] at same
  have legibleLeft := left _ (op.behind_text _) ((List.prefix_append _ _).trans same)
  -- With the left side read as written, the rest of the texts is that of the right side.
  rw [readLeft _ (op.behind_text _) legibleLeft, scan_text, termTexts_append, l.factor_texts,
    termTexts_cons, text_token] at same
  have later := (List.prefix_append_right_inj l.texts).mp same
  exact (op.allLegible_join l r after).mpr
    ⟨legibleLeft, right _ (behind_closing after) later⟩

end Connective

namespace Expression

theorem readsBack {e : Expression} (lexed : ∀ text ∈ e.texts, Lexed text) : e.ReadsBack := by
  induction e with
  | term text =>
    intro after behind legible
    exact scan_legible (lexed text List.mem_cons_self) behind legible
  | not e ih =>
    intro after behind legible
    rw [write, List.append_assoc, scan_not, ih lexed after behind legible]
    rfl
  | and l r left right =>
    obtain ⟨lexedLeft, lexedRight⟩ := List.forall_mem_append.mp lexed
    exact Connective.and.readsBack_join (left lexedLeft) (right lexedRight)
  | or l r left right =>
    obtain ⟨lexedLeft, lexedRight⟩ := List.forall_mem_append.mp lexed
    exact Connective.or.readsBack_join (left lexedLeft) (right lexedRight)

theorem showsLegible {e : Expression} (lexed : ∀ text ∈ e.texts, Lexed text) :
    e.ShowsLegible := by
  induction e with
  | term text =>
    intro after behind same
    refine Decidable.byContradiction fun illegible => ?_
    obtain ⟨other, more, read, different⟩ :=
      scan_illegible (lexed text List.mem_cons_self) behind illegible
    rw [write, read, termTexts_cons] at same
    exact different (List.cons_prefix_cons.mp same).1.symm
  | not e ih =>
    intro after behind same
    rw [write, List.append_assoc, scan_not, termTexts_cons] at same
    exact ih lexed after behind same
  | and l r left right =>
    obtain ⟨lexedLeft, lexedRight⟩ := List.forall_mem_append.mp lexed
    exact Connective.and.showsLegible_join (readsBack lexedLeft) (left lexedLeft)
      (right lexedRight)
  | or l r left right =>
    obtain ⟨lexedLeft, lexedRight⟩ := List.forall_mem_append.mp lexed
    exact Connective.or.showsLegible_join (readsBack lexedLeft) (left lexedLeft)
      (right lexedRight)

theorem tokenize_toText (e : Expression) : tokenize e.toText = scan (e.write ++ []) := by
  rw [tokenize, toText, String.toList_ofList, List.append_nil]

end Expression

theorem parse_lexed {query : String} {limit : Nat} {e : Expression}
    (read : parse (tokenize query) limit = some e) : ∀ text ∈ e.texts, Lexed text := by
  intro text member
  have texts := parse_texts (tokenize query) limit
  rw [read] at texts
  change e.texts = _ at texts
  rw [texts] at member
  obtain ⟨t, token, same⟩ := List.mem_filterMap.mp member
  cases t with
  | term other =>
    cases same
    exact scan_lexed token
  | _ => cases same

/-- The written form of what a query has been read as is read as the same again, under any limit
that admits it, exactly if all its terms are legible. -/
theorem reread_iff {query : String} {limit wider : Nat} {e : Expression}
    (read : parse (tokenize query) limit = some e) (deep : e.depth ≤ wider) :
    parse (tokenize e.toText) wider = some e ↔ e.AllLegible [] := by
  have lexed := parse_lexed read
  have behind : Behind [] := fun c first => nomatch first
  constructor
  · intro again
    have texts := parse_texts (tokenize e.toText) wider
    rw [again, e.tokenize_toText] at texts
    change e.texts = _ at texts
    exact Expression.showsLegible lexed [] behind (texts ▸ List.prefix_refl _)
  · intro legible
    rw [e.tokenize_toText, Expression.readsBack lexed [] behind legible, scan_nil, List.append_nil]
    exact e.parse_factor deep

/-- A regular expression, a phrase and a word with a quote in it, at the limit their expression just
meets. -/
theorem reread_at_limit :
    let query := "re:a (\"b c\" OR NOT x\"y)"
    let e : Expression := .and (.term "re:a") (.or (.term "b c") (.not (.term "x\"y")))
    parse (tokenize query) 32 = some e ∧ e.depth ≤ 4 ∧ parse (tokenize e.toText) 4 = some e := by
  intro query e
  have tokens : tokenize query = [.term "re:a", .openParen, .term "b c", .or, .not,
      .term "x\"y", .closeParen] := by decide +kernel
  have read : parse (tokenize query) 32 = some e := by
    rw [tokens, parse_eq_run]
    rfl
  have deep : e.depth ≤ 4 := by decide
  exact ⟨read, deep, (reread_iff read deep).mpr (by decide)⟩

/-- In its written form `(b AND re:a)` the regular expression of the query `b re:a` takes in the
closing parenthesis. -/
theorem reread_takes_parenthesis :
    let e : Expression := .and (.term "b") (.term "re:a")
    parse (tokenize "b re:a") 32 = some e ∧ e.depth ≤ 32 ∧
      parse (tokenize e.toText) 32 = some (.and (.term "b") (.term "re:a)")) ∧
      Expression.and (.term "b") (.term "re:a)") ≠ e := by
  intro e
  have tokens : tokenize "b re:a" = [.term "b", .term "re:a"] := by decide +kernel
  have again : tokenize e.toText = [.openParen, .term "b", .and, .term "re:a)"] := by
    decide +kernel
  refine ⟨?_, by decide, ?_, by decide⟩
  · rw [tokens, parse_eq_run]
    rfl
  · rw [again, parse_eq_run]
    rfl

end BookmarkSearch.Query
