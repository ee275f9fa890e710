import BookmarkSearch.Proofs.Query.Lexemes

/-!
What it is to split a text into tokens: blanks, and one lexeme for each token in between. A lexeme
is a parenthesis, a phrase in quotes or a word that ends where a word of its kind has to. Every text
can be split so, and the tokens of any such split are those that the lexer finds.
-/

namespace BookmarkSearch.Query

open Unicode

/-! Lexemes. -/

def Token.name? : Token → Option (List Char)
  | .and => some ['a', 'n', 'd']
  | .or => some ['o', 'r']
  | .not => some ['n', 'o', 't']
  | .openParen | .closeParen | .term _ => none

/-- What a word stands for: the operator whose name it is in any case of the ASCII letters, and
itself as a term if it is the name of none. -/
inductive Names (word : List Char) : Token → Prop where
  | operator {t : Token} (named : t.name? = some (word.map Char.toLower)) : Names word t
  | term (unnamed : ∀ t : Token, t.name? ≠ some (word.map Char.toLower)) :
      Names word (.term (String.ofList word))

/-- Whether a text begins as a regular expression does: with a slash, or with `re:` in any case of
the ASCII letters. -/
def Marked (text : List Char) : Prop :=
  ['/'] <+: text ∨ ['r', 'e', ':'] <+: text.map Char.toLower

/-- A word with `after` behind it. A quote that it begins with begins no phrase, as the next quote
follows at once or not at all. A regular expression ends in front of a blank, and any other word in
front of a blank or a parenthesis, unless it ends with the text. -/
structure BareWord (word after : List Char) : Prop where
  nonempty : word ≠ []
  visible : ∀ c ∈ word, isBlank c = false
  front : ∀ c ∈ word.head?, c ≠ '(' ∧ c ≠ ')'
  quote : word.head? = some '"' →
    '"' ∉ word.tail ++ after ∨ (word.tail ++ after).head? = some '"'
  marked : Marked word → ∀ c ∈ after.head?, isBlank c = true
  unmarked : ¬Marked word →
    (∀ c ∈ word, c ≠ '(' ∧ c ≠ ')') ∧ ∀ c ∈ after.head?, isBlank c = true ∨ c = '(' ∨ c = ')'

inductive Lexeme : List Char → List Char → Token → Prop where
  | openParen (after : List Char) : Lexeme ['('] after .openParen
  | closeParen (after : List Char) : Lexeme [')'] after .closeParen
  | phrase {text : List Char} (after : List Char) (nonempty : text ≠ []) (unquoted : '"' ∉ text) :
      Lexeme ('"' :: (text ++ ['"'])) after (.term (String.ofList text))
  | word {word after : List Char} {t : Token} (bare : BareWord word after) (names : Names word t) :
      Lexeme word after t

inductive Splits : List Char → List Token → Prop where
  | blanks {gap : List Char} (blank : ∀ c ∈ gap, isBlank c = true) : Splits gap []
  | lexeme {gap lexeme after : List Char} {t : Token} {tokens : List Token}
      (blank : ∀ c ∈ gap, isBlank c = true) (first : Lexeme lexeme after t)
      (others : Splits after tokens) : Splits (gap ++ (lexeme ++ after)) (t :: tokens)

/-! The tests that the lexer makes of a word. -/

theorem names_iff {word : List Char} {t : Token} : Names word t ↔ wordToken word = t := by
  constructor
  · intro names
    cases names with
    | operator named => cases t with
      | and => simp [wordToken, isWord, ← Option.some.inj named]
      | or => simp [wordToken, isWord, ← Option.some.inj named]
      | not => simp [wordToken, isWord, ← Option.some.inj named]
      | _ => cases named
    | term unnamed =>
      have other (t : Token) (name : List Char) (named : t.name? = some name) :
          isWord name word = false := by
        apply beq_eq_false_iff_ne.mpr
        rintro rfl
        exact unnamed t named
      rw [wordToken, other .and _ rfl, other .or _ rfl, other .not _ rfl]
      rfl
  · rintro rfl
    unfold wordToken
    split
    · rename_i same
      exact .operator (congrArg some (eq_of_beq same).symm)
    split
    · rename_i same
      exact .operator (congrArg some (eq_of_beq same).symm)
    split
    · rename_i same
      exact .operator (congrArg some (eq_of_beq same).symm)
    · rename_i noAnd noOr noNot
      refine .term fun t => ?_
      intro named
      cases t with
      | and => exact noAnd (beq_iff_eq.mpr (Option.some.inj named).symm)
      | or => exact noOr (beq_iff_eq.mpr (Option.some.inj named).symm)
      | not => exact noNot (beq_iff_eq.mpr (Option.some.inj named).symm)
      | _ => cases named

theorem startsRegex_iff {text : List Char} : startsRegex text = true ↔ Marked text := by
  unfold startsRegex Marked
  split
  · simp
  · rename_i other
    have slash : ¬['/'] <+: text := by
      rintro ⟨rest, rfl⟩
      exact other rest rfl
    simp only [slash, false_or, beginsWith, beq_iff_eq, List.prefix_iff_eq_take, List.map_take]
    exact eq_comm

theorem endsWord_iff {word : List Char} {c : Char} : endsWord word c = true ↔
    isBlank c = true ∨ ¬Marked word ∧ (c = '(' ∨ c = ')') := by
  by_cases marked : Marked word
  · simp [endsWord, startsRegex_iff.mpr marked, marked]
  · have unmarked : ¬startsRegex word = true := mt startsRegex_iff.mp marked
    simp [endsWord, unmarked, marked, isParen]

theorem endsWord_eq_false_iff {word : List Char} {c : Char} : endsWord word c = false ↔
    isBlank c = false ∧ (¬Marked word → c ≠ '(' ∧ c ≠ ')') := by
  simp only [← Bool.not_eq_true, endsWord_iff, not_or, not_and, ne_eq]

/-- A bare word is what the lexer takes for one where it finds no phrase. -/
theorem bareWord_iff {word after : List Char} : BareWord word after ↔
    word ≠ [] ∧ (∀ c ∈ word, endsWord word c = false) ∧
      (∀ c ∈ after.head?, endsWord word c = true) ∧ quotedPhrase? (word ++ after) = none := by
  constructor
  · intro bare
    refine ⟨bare.nonempty, ?_, ?_, ?_⟩
    · intro c member
      exact endsWord_eq_false_iff.mpr
        ⟨bare.visible c member, fun unmarked => (bare.unmarked unmarked).1 c member⟩
    · intro c first
      by_cases marked : Marked word
      · exact endsWord_iff.mpr (.inl (bare.marked marked c first))
      · rcases (bare.unmarked marked).2 c first with blank | paren
        · exact endsWord_iff.mpr (.inl blank)
        · exact endsWord_iff.mpr (.inr ⟨marked, paren⟩)
    · -- Only a quote at the front looks ahead in the text.
      obtain ⟨c, tail, rfl⟩ := List.exists_cons_of_ne_nil bare.nonempty
      by_cases quote : c = '"'
      · subst c
        exact quotedPhrase_eq_none_iff.mpr (bare.quote rfl).symm
      · exact quotedPhrase_eq_none_of_ne quote
  · rintro ⟨nonempty, whole, ended, unquoted⟩
    obtain ⟨c, tail, rfl⟩ := List.exists_cons_of_ne_nil nonempty
    refine ⟨nonempty, fun d member => (endsWord_eq_false_iff.mp (whole d member)).1, ?_, ?_, ?_, ?_⟩
    · intro d first
      cases first
      have plain := (visible_of_whole whole).2
      simpa [isParen] using plain
    · intro quote
      obtain rfl : c = '"' := Option.some.inj quote
      exact (quotedPhrase_eq_none_iff.mp unquoted).symm
    · intro marked d first
      rcases endsWord_iff.mp (ended d first) with blank | ⟨unmarked, -⟩
      · exact blank
      · exact absurd marked unmarked
    · intro unmarked
      refine ⟨fun d member => (endsWord_eq_false_iff.mp (whole d member)).2 unmarked, ?_⟩
      intro d first
      exact (endsWord_iff.mp (ended d first)).imp_right And.right

/-! A text that is split comes out of the lexer as it was split. -/

theorem scan_blanks {gap : List Char} (blank : ∀ c ∈ gap, isBlank c = true) (cs : List Char) :
    scan (gap ++ cs) = scan cs := by
  induction gap with
  | nil => rfl
  | cons c rest ih =>
    obtain ⟨here, others⟩ := List.forall_mem_cons.mp blank
    rw [List.cons_append, scan_blank _ here, ih others]

theorem scan_lexeme {lexeme after : List Char} {t : Token} (first : Lexeme lexeme after t) :
    scan (lexeme ++ after) = t :: scan after := by
  cases first with
  | openParen => exact scan_openParen after
  | closeParen => exact scan_closeParen after
  | phrase after nonempty unquoted =>
    have read := scan_phrase after nonempty unquoted
    simpa using read
  | word bare names =>
    obtain ⟨nonempty, whole, ended, unquoted⟩ := bareWord_iff.mp bare
    rw [scan_word after nonempty whole ended unquoted, names_iff.mp names]

theorem scan_of_splits {text : List Char} {tokens : List Token} (splits : Splits text tokens) :
    scan text = tokens := by
  induction splits with
  | blanks blank =>
    have read := scan_blanks blank []
    rwa [List.append_nil, scan_nil] at read
  | lexeme blank first others ih => rw [scan_blanks blank, scan_lexeme first, ih]

/-! What the lexer finds is such a split. -/

/-- The characters that end a word do so for the part of it that is in front of them. -/
theorem endsWord_takeWhile (c : Char) (cs : List Char) :
    endsWord (c :: cs.takeWhile (!endsWord (c :: cs) ·)) = endsWord (c :: cs) := by
  have ended : ∀ d ∈ (cs.dropWhile (!endsWord (c :: cs) ·)).head?,
      isBlank d = true ∨ isParen d = true := by
    intro d first
    exact endsWord_imp (by simpa using head_dropWhile cs d first)
  have marked := startsRegex_append
    (List.cons_ne_nil c (cs.takeWhile (!endsWord (c :: cs) ·))) ended
  rw [List.cons_append, List.takeWhile_append_dropWhile] at marked
  funext d
  rw [endsWord, endsWord, marked]

theorem nextToken_lexeme {c : Char} (cs : List Char) (visible : isBlank c = false) :
    ∃ lexeme, c :: cs = lexeme ++ (nextToken c cs).2 ∧
      Lexeme lexeme (nextToken c cs).2 (nextToken c cs).1 := by
  unfold nextToken
  split
  · rename_i opening
    exact ⟨['('], by rw [eq_of_beq opening]; rfl, .openParen cs⟩
  split
  · rename_i closing
    exact ⟨[')'], by rw [eq_of_beq closing]; rfl, .closeParen cs⟩
  rename_i noOpening noClosing
  have plain : c ≠ '(' ∧ c ≠ ')' := ⟨by simpa using noOpening, by simpa using noClosing⟩
  split
  · rename_i phrase rest found
    obtain ⟨same, nonempty, unquoted⟩ := quotedPhrase_eq_some_iff.mp found
    exact ⟨'"' :: (phrase ++ ['"']), by simp [same], .phrase rest nonempty unquoted⟩
  · rename_i unquoted
    -- The lexer asks the whole text whether it is marked, a bare word only itself.
    have whole := List.takeWhile_append_dropWhile (p := (!endsWord (c :: cs) ·)) (l := cs)
    have bare : BareWord (c :: cs.takeWhile (!endsWord (c :: cs) ·))
        (cs.dropWhile (!endsWord (c :: cs) ·)) := by
      rw [bareWord_iff, endsWord_takeWhile, List.cons_append, whole]
      refine ⟨List.cons_ne_nil c _, List.forall_mem_cons.mpr ⟨?_, ?_⟩, ?_, unquoted⟩
      · exact endsWord_eq_false_iff.mpr ⟨visible, fun _ => plain⟩
      · intro d member
        simpa using List.mem_takeWhile_imp member
      · intro d first
        simpa using head_dropWhile cs d first
    exact ⟨_, by rw [List.cons_append, whole], .word bare (names_iff.mpr rfl)⟩

theorem splits_scan (text : List Char) : Splits text (scan text) := by
  -- A turn of the lexer drops the gap and reads the lexeme behind it.
  fun_induction scan text with
  | case1 text nothing =>
    exact .blanks (List.dropWhile_eq_nil_iff.mp nothing)
  | case2 text c rest front ih =>
    have visible : isBlank c = false := head_dropWhile text c (by rw [front]; rfl)
    obtain ⟨lexeme, same, first⟩ := nextToken_lexeme rest visible
    have whole := List.takeWhile_append_dropWhile (p := isBlank) (l := text)
    rw [front, same] at whole
    rw [← whole]
    exact .lexeme (fun d member => List.mem_takeWhile_imp member) first ih

end BookmarkSearch.Query
