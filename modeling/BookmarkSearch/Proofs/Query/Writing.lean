import BookmarkSearch.Proofs.Query.Splitting
import Mathlib.Data.List.Forall2

/-!
Tokens written as a query, one word for each and a space between two of them. A word says by itself
which token it is: in front of a space, nothing that follows can change how it is read.
-/

namespace BookmarkSearch.Query

open Unicode

structure Plain (word : String) : Prop where
  nonempty : word ≠ ""
  visible : ∀ c ∈ word.toList, isBlank c = false
  quote : word.toList.head? ≠ some '"'
  parens : ¬Marked word.toList → ∀ c ∈ word.toList, c ≠ '(' ∧ c ≠ ')'

structure Quotable (text : String) : Prop where
  nonempty : text ≠ ""
  unquoted : '"' ∉ text.toList

structure Bare (text : String) : Prop where
  plain : Plain text
  unnamed : ∀ t : Token, t.name? ≠ some (text.toList.map Char.toLower)

inductive Written : Token → String → Prop where
  | openParen : Written .openParen "("
  | closeParen : Written .closeParen ")"
  | operator {t : Token} {word : String} (named : t.name? = some (word.toList.map Char.toLower)) :
      Written t word
  | phrase {text : String} (quotable : Quotable text) :
      Written (.term text) ("\"" ++ text ++ "\"")
  | word {text : String} (bare : Bare text) : Written (.term text) text

theorem Plain.bareWord {word : String} (plain : Plain word) {after : List Char}
    (apart : ∀ c ∈ after.head?, isBlank c = true) : BareWord word.toList after where
  nonempty := mt String.toList_eq_nil_iff.mp plain.nonempty
  visible := plain.visible
  front := by
    intro c first
    by_cases marked : Marked word.toList
    · obtain ⟨d, rest, same, lower⟩ := startsRegex_front (startsRegex_iff.mpr marked)
      rw [same] at first
      cases first
      constructor <;> rintro rfl <;> revert lower <;> decide
    · exact plain.parens marked c (List.mem_of_mem_head? first)
  quote := fun quote => absurd quote plain.quote
  marked := fun _ => apart
  unmarked := fun marked => ⟨plain.parens marked, fun c first => .inl (apart c first)⟩

theorem letters_of_name {t : Token} {name : List Char} (named : t.name? = some name) :
    name ≠ [] ∧ ∀ c ∈ name, isBlank c = false ∧ isParen c = false ∧ c ≠ '"' := by
  cases t with
  | and => cases named; simp [isBlank, isParen]
  | or => cases named; simp [isBlank, isParen]
  | not => cases named; simp [isBlank, isParen]
  | _ => cases named

/-- The name of an operator needs no quotes, in any case of its letters. -/
theorem plain_of_name {t : Token} {word : String}
    (named : t.name? = some (word.toList.map Char.toLower)) : Plain word := by
  obtain ⟨nonempty, letters⟩ := letters_of_name named
  have letter (c : Char) (member : c ∈ word.toList) :
      isBlank c = false ∧ isParen c = false ∧ c ≠ '"' := by
    have lower := letters c.toLower (List.mem_map_of_mem member)
    -- What is no letter is its own lower case, and that is a letter.
    refine ⟨?_, ?_, ?_⟩
    · apply Bool.eq_false_iff.mpr
      intro blank
      rw [toLower_of_ends (.inl blank), blank] at lower
      cases lower.1
    · apply Bool.eq_false_iff.mpr
      intro paren
      rw [toLower_of_ends (.inr paren), paren] at lower
      cases lower.2.1
    · rintro rfl
      exact lower.2.2 rfl
  constructor
  · rintro rfl
    exact nonempty rfl
  · intro c member
    exact (letter c member).1
  · intro quote
    exact (letter '"' (List.mem_of_mem_head? quote)).2.2 rfl
  · intro _ c member
    simpa [isParen] using (letter c member).2.1

/-- In front of a blank, a word is read as the token it is written for. -/
theorem Written.lexeme {t : Token} {word : String} (written : Written t word) {after : List Char}
    (apart : ∀ c ∈ after.head?, isBlank c = true) : Lexeme word.toList after t := by
  cases written with
  | openParen => exact .openParen after
  | closeParen => exact .closeParen after
  | operator named => exact .word ((plain_of_name named).bareWord apart) (.operator named)
  | @phrase text quotable =>
    have nonempty := mt String.toList_eq_nil_iff.mp quotable.nonempty
    have read := Lexeme.phrase after nonempty quotable.unquoted
    rw [String.ofList_toList] at read
    simpa using read
  | word bare =>
    have read := Lexeme.word (bare.plain.bareWord apart) (.term bare.unnamed)
    rwa [String.ofList_toList] at read

theorem Splits.behind {gap text : List Char} {tokens : List Token}
    (blank : ∀ c ∈ gap, isBlank c = true) (splits : Splits text tokens) :
    Splits (gap ++ text) tokens := by
  cases splits with
  | blanks more => exact .blanks (List.forall_mem_append.mpr ⟨blank, more⟩)
  | lexeme more first others =>
    rw [← List.append_assoc]
    exact .lexeme (List.forall_mem_append.mpr ⟨blank, more⟩) first others

theorem Written.splits {t : Token} {word : String} (written : Written t word) {after : List Char}
    {tokens : List Token} (apart : ∀ c ∈ after.head?, isBlank c = true)
    (others : Splits after tokens) : Splits (word.toList ++ after) (t :: tokens) :=
  Splits.lexeme (List.forall_mem_nil _) (written.lexeme apart) others

theorem splits_written {tokens : List Token} {words : List String}
    (written : List.Forall₂ Written tokens words) :
    Splits (" ".intercalate words).toList tokens := by
  induction written with
  | nil => exact .blanks (List.forall_mem_nil _)
  | @cons t word tokens words first others ih =>
    have space : ∀ c ∈ [' '], isBlank c = true := List.forall_mem_singleton.mpr (by decide)
    rw [String.toList_intercalate] at ih ⊢
    cases others with
    | nil =>
      have apart : ∀ c ∈ ([] : List Char).head?, isBlank c = true := by simp
      have read := first.splits apart ih
      simpa using read
    | cons second others =>
      rw [List.map_cons, List.map_cons, List.intercalate_cons_cons, List.append_assoc]
      refine first.splits ?_ (ih.behind space)
      rintro c ⟨⟩
      decide

theorem exists_written {t : Token}
    (writable : ∀ text, t = .term text → Quotable text ∨ Bare text) : ∃ word, Written t word := by
  cases t with
  | openParen => exact ⟨_, .openParen⟩
  | closeParen => exact ⟨_, .closeParen⟩
  | and => exact ⟨"and", .operator (by decide)⟩
  | or => exact ⟨"or", .operator (by decide)⟩
  | not => exact ⟨"not", .operator (by decide)⟩
  | term text =>
    rcases writable text rfl with quotable | bare
    · exact ⟨_, .phrase quotable⟩
    · exact ⟨_, .word bare⟩

theorem exists_written_all {tokens : List Token}
    (writable : ∀ text, .term text ∈ tokens → Quotable text ∨ Bare text) :
    ∃ words, List.Forall₂ Written tokens words := by
  induction tokens with
  | nil => exact ⟨[], .nil⟩
  | cons t tokens ih =>
    obtain ⟨word, first⟩ := exists_written (t := t) fun text same =>
      writable text (List.mem_cons.mpr (.inl same.symm))
    obtain ⟨words, others⟩ := ih fun text member => writable text (List.mem_cons_of_mem t member)
    exact ⟨word :: words, .cons first others⟩

/-- A list of tokens can be written as a query if each of its terms can stand in quotes or needs
none, and however it is written, it is read back. -/
theorem tokenize_written (tokens : List Token)
    (writable : ∀ text, .term text ∈ tokens → Quotable text ∨ Bare text) :
    (∃ words, List.Forall₂ Written tokens words) ∧
      ∀ words, List.Forall₂ Written tokens words → tokenize (" ".intercalate words) = tokens :=
  ⟨exists_written_all writable, fun _ written => scan_of_splits (splits_written written)⟩

/-- A parenthesis in quotes and one in a regular expression, an operator in mixed case and one in
quotes, and a quote inside a word with others behind it. -/
theorem tokenize_mixed_spellings :
    tokenize (" ".intercalate ["\"a b)\"", "oR", "Re:(x", "NOT", "x\"y", ")", "\"and\""]) =
      [.term "a b)", .or, .term "Re:(x", .not, .term "x\"y", .closeParen, .term "and"] := by
  have phrase : Quotable "a b)" := ⟨by decide, by decide⟩
  have keyword : Quotable "and" := ⟨by decide, by decide⟩
  have marked : Bare "Re:(x" := by
    have marker : Marked "Re:(x".toList := .inr ⟨['(', 'x'], rfl⟩
    refine ⟨⟨by decide, by simp [isBlank], by decide, fun unmarked => absurd marker unmarked⟩, ?_⟩
    rintro (_ | _ | _ | _ | _ | _) <;> simp [Token.name?]
  have quoted : Bare "x\"y" := by
    refine ⟨⟨by decide, by simp [isBlank], by decide, fun _ => by simp⟩, ?_⟩
    rintro (_ | _ | _ | _ | _ | _) <;> simp [Token.name?]
  refine (tokenize_written _ ?_).2 _ ?_
  · intro text member
    simp only [List.mem_cons, Token.term.injEq, reduceCtorEq, false_or, List.not_mem_nil,
      or_false] at member
    rcases member with rfl | rfl | rfl | rfl
    · exact .inl phrase
    · exact .inr marked
    · exact .inr quoted
    · exact .inl keyword
  · exact .cons (.phrase phrase) (.cons (.operator (by decide)) (.cons (.word marked)
      (.cons (.operator (by decide)) (.cons (.word quoted) (.cons .closeParen
        (.cons (.phrase keyword) .nil))))))

end BookmarkSearch.Query
