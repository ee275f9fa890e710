import BookmarkSearch.Proofs.Query.Splitting
import Mathlib.Data.List.Forall2

/-!
The lexer on a text in UTF-8, where a lexeme is found by the offset of its end in bytes and the text
is cut there. No cut is ever made inside a character or behind the end, every turn of the loop takes
at least one character, and the tokens are those of the text as it is split.
-/

namespace BookmarkSearch.Query

open Unicode

/-! Texts by bytes. -/

def byteLength : List Char → Nat
  | [] => 0
  | c :: cs => c.utf8Size + byteLength cs

/-- Cuts a text behind its first bytes; nothing if it has fewer or if that is inside a character. -/
def cutAt? : Nat → List Char → Option (List Char × List Char)
  | 0, cs => some ([], cs)
  | _ + 1, [] => none
  | n + 1, c :: cs =>
    if c.utf8Size ≤ n + 1 then
      (cutAt? (n + 1 - c.utf8Size) cs).map fun (front, rest) => (c :: front, rest)
    else none

def offset? (p : Char → Bool) : List Char → Option Nat
  | [] => none
  | c :: cs => if p c then some 0 else (offset? p cs).map (· + c.utf8Size)

@[simp] theorem byteLength_nil : byteLength [] = 0 := rfl

@[simp] theorem byteLength_cons (c : Char) (cs : List Char) :
    byteLength (c :: cs) = c.utf8Size + byteLength cs := rfl

@[simp] theorem byteLength_append (front rest : List Char) :
    byteLength (front ++ rest) = byteLength front + byteLength rest := by
  induction front with
  | nil => exact (Nat.zero_add _).symm
  | cons c front ih => rw [List.cons_append, byteLength_cons, byteLength_cons, ih, Nat.add_assoc]

theorem byteLength_eq_succ (c : Char) (cs : List Char) : ∃ n, byteLength (c :: cs) = n + 1 := by
  have positive := c.utf8Size_pos
  exact Nat.exists_eq_succ_of_ne_zero (by rw [byteLength_cons]; omega)

/-- A text is cut exactly between two of its characters. -/
theorem cutAt?_eq_some_iff {n : Nat} {cs front rest : List Char} :
    cutAt? n cs = some (front, rest) ↔ cs = front ++ rest ∧ byteLength front = n := by
  constructor
  · intro cut
    fun_induction cutAt? n cs generalizing front rest with
    | case1 => cases cut; exact ⟨rfl, rfl⟩
    | case2 => cases cut
    | case3 n c cs fits ih =>
      obtain ⟨⟨front, rest⟩, inner, same⟩ := Option.map_eq_some_iff.mp cut
      cases same
      obtain ⟨rfl, length⟩ := ih inner
      refine ⟨rfl, ?_⟩
      rw [byteLength_cons]
      omega
    | case4 => cases cut
  · rintro ⟨rfl, rfl⟩
    induction front with
    | nil => cases rest <;> rfl
    | cons c front ih =>
      obtain ⟨n, length⟩ := byteLength_eq_succ c front
      have fits : c.utf8Size ≤ n + 1 := by
        rw [byteLength_cons] at length
        omega
      have left : n + 1 - c.utf8Size = byteLength front := by
        rw [byteLength_cons] at length
        omega
      rw [length, List.cons_append, cutAt?, if_pos fits, left, ih]
      rfl

theorem cutAt?_append (front rest : List Char) :
    cutAt? (byteLength front) (front ++ rest) = some (front, rest) :=
  cutAt?_eq_some_iff.mpr ⟨rfl, rfl⟩

theorem offset?_eq_none {p : Char → Bool} {cs : List Char} (noneThere : ∀ c ∈ cs, p c = false) :
    offset? p cs = none := by
  induction cs with
  | nil => rfl
  | cons c cs ih =>
    obtain ⟨here, others⟩ := List.forall_mem_cons.mp noneThere
    simp [offset?, here, ih others]

theorem offset?_append {p : Char → Bool} {front : List Char} {c : Char} (rest : List Char)
    (noneThere : ∀ d ∈ front, p d = false) (here : p c = true) :
    offset? p (front ++ c :: rest) = some (byteLength front) := by
  induction front with
  | nil => simp [offset?, here]
  | cons d front ih =>
    obtain ⟨first, others⟩ := List.forall_mem_cons.mp noneThere
    simp [offset?, first, ih others, Nat.add_comm]

/-! The lexer by offsets. -/

def phraseAt? : List Char → Option (Option (List Char))
  | '"' :: body =>
    match offset? (· == '"') body with
    | some (n + 1) => (cutAt? (n + 1) body).map fun (phrase, _) => some phrase
    | some 0 | none => some none
  | _ => some none

def startsRegexAt (text : List Char) : Bool :=
  text.head? == some '/' ||
    (cutAt? 3 text).any fun (front, _) => isWord ['r', 'e', ':'] front

def stopsAt (text : List Char) (c : Char) : Bool :=
  isBlank c || (!startsRegexAt text && isParen c)

def wordAt? (text : List Char) : Option (Token × Nat) :=
  let length := (offset? (stopsAt text) text).getD (byteLength text)
  (cutAt? length text).map fun (word, _) => (wordToken word, length)

def lexemeAt? (text : List Char) : Option (Token × Nat) :=
  match text.head? with
  | some '(' => some (.openParen, 1)
  | some ')' => some (.closeParen, 1)
  | _ => do
    match ← phraseAt? text with
    | some phrase => return (.term (String.ofList phrase), byteLength phrase + 2)
    | none => wordAt? text

/-- The tokens of a text without a blank in front, if `turns` are enough and no cut fails. -/
def scanWithin : Nat → List Char → Option (List Token)
  | _, [] => some []
  | 0, _ :: _ => none
  | turns + 1, c :: cs => do
    let (token, length) ← lexemeAt? (c :: cs)
    let (_, rest) ← cutAt? length (c :: cs)
    let others ← scanWithin turns (rest.dropWhile isBlank)
    return token :: others

/-! No cut fails. -/

/-- The case of the ASCII letters makes no difference to the bytes of a character. -/
theorem utf8Size_toLower (c : Char) : c.toLower.utf8Size = c.utf8Size := by
  unfold Char.toLower
  split
  · rename_i upper
    have bound : c.toNat ≤ 90 := UInt32.le_iff_toNat_le.mp upper.2
    have lower : (c.val + ('a'.val - 'A'.val)).toNat ≤ 127 := by
      rw [UInt32.toNat_add]
      change (c.toNat + 32) % 2 ^ 32 ≤ 127
      omega
    have single : c.utf8Size = 1 :=
      Char.utf8Size_eq_one_iff.mpr (UInt32.le_iff_toNat_le.mpr (Nat.le_trans bound (by decide)))
    rw [single]
    exact Char.utf8Size_eq_one_iff.mpr (UInt32.le_iff_toNat_le.mpr lower)
  · rfl

theorem byteLength_map_toLower (cs : List Char) :
    byteLength (cs.map Char.toLower) = byteLength cs := by
  induction cs with
  | nil => rfl
  | cons c cs ih => rw [List.map_cons, byteLength_cons, byteLength_cons, utf8Size_toLower, ih]

/-- Whatever the characters at its front are, the first three bytes of a text tell whether it is
marked. -/
theorem startsRegexAt_iff {text : List Char} : startsRegexAt text = true ↔ Marked text := by
  have slash : text.head? = some '/' ↔ ['/'] <+: text := by
    cases text <;> simp [eq_comm]
  rw [startsRegexAt, Bool.or_eq_true, beq_iff_eq, slash, Option.any_eq_true]
  refine or_congr_right ?_
  constructor
  · rintro ⟨⟨front, rest⟩, cut, marker⟩
    obtain ⟨rfl, -⟩ := cutAt?_eq_some_iff.mp cut
    rw [List.map_append, ← eq_of_beq marker]
    exact List.prefix_append _ _
  · rintro ⟨others, same⟩
    -- A letter has as many bytes in either case, so the marker has three however it is spelled.
    obtain ⟨front, rest, rfl, marker, -⟩ := List.map_eq_append_iff.mp same.symm
    have three : byteLength front = 3 := by
      rw [← byteLength_map_toLower, marker]
      rfl
    exact ⟨(front, rest), cutAt?_eq_some_iff.mpr ⟨rfl, three⟩, beq_iff_eq.mpr marker⟩

theorem phraseAt?_eq (text : List Char) :
    phraseAt? text = some ((quotedPhrase? text).map Prod.fst) := by
  unfold phraseAt?
  split
  · rename_i body
    by_cases quoted : '"' ∈ body
    · obtain ⟨phrase, rest, rfl, unquoted⟩ := List.eq_append_cons_of_mem quoted
      have inside : ∀ c ∈ phrase, (c == '"') = false := by
        intro c member
        exact beq_eq_false_iff_ne.mpr fun same => unquoted (same ▸ member)
      rw [offset?_append rest inside rfl]
      cases phrase with
      -- Two quotes side by side: the offset is zero, and nothing is cut.
      | nil =>
        rw [quotedPhrase_eq_none_iff.mpr (.inl rfl)]
        rfl
      | cons c tail =>
        have found : quotedPhrase? ('"' :: (c :: tail ++ '"' :: rest)) = some (c :: tail, rest) :=
          quotedPhrase_eq_some_iff.mpr ⟨rfl, List.cons_ne_nil c tail, unquoted⟩
        have cut := cutAt?_append (c :: tail) ('"' :: rest)
        obtain ⟨n, length⟩ := byteLength_eq_succ c tail
        rw [length] at cut ⊢
        rw [found, Option.map_some]
        change (cutAt? (n + 1) _).map _ = _
        rw [cut]
        rfl
    · have absent : ∀ c ∈ body, (c == '"') = false := by
        intro c member
        exact beq_eq_false_iff_ne.mpr fun same => quoted (same ▸ member)
      rw [offset?_eq_none absent, quotedPhrase_eq_none_iff.mpr (.inr quoted)]
      rfl
  · rename_i other
    cases text with
    | nil => rfl
    | cons c body =>
      rw [quotedPhrase_eq_none_of_ne fun same => other body (by rw [same])]
      rfl

/-- A word is found by the offset of the first character that ends it. -/
theorem offset?_getD {p : Char → Bool} {front rest : List Char}
    (inside : ∀ c ∈ front, p c = false) (ended : ∀ c ∈ rest.head?, p c = true) :
    (offset? p (front ++ rest)).getD (byteLength (front ++ rest)) = byteLength front := by
  cases rest with
  | nil => rw [List.append_nil, offset?_eq_none inside, Option.getD_none]
  | cons c rest => rw [offset?_append rest inside (ended c rfl), Option.getD_some]

theorem stopsAt_eq (text : List Char) : stopsAt text = endsWord text := by
  funext c
  have same : startsRegexAt text = startsRegex text :=
    Bool.eq_iff_iff.mpr (startsRegexAt_iff.trans startsRegex_iff.symm)
  cases marked : startsRegex text with
  | true => simp [stopsAt, endsWord, same, marked]
  | false => simp [stopsAt, endsWord, same, marked]

theorem wordAt?_bare {word after : List Char} {t : Token} (bare : BareWord word after)
    (names : Names word t) : wordAt? (word ++ after) = some (t, byteLength word) := by
  obtain ⟨nonempty, inside, ended, -⟩ := bareWord_iff.mp bare
  have marked := startsRegex_append nonempty fun c first => endsWord_imp (ended c first)
  have stops : stopsAt (word ++ after) = endsWord word := by
    rw [stopsAt_eq]
    funext c
    rw [endsWord, endsWord, marked]
  have length : (offset? (stopsAt (word ++ after)) (word ++ after)).getD
      (byteLength (word ++ after)) = byteLength word := by
    rw [stops]
    exact offset?_getD inside ended
  rw [wordAt?, length, cutAt?_append, ← names_iff.mp names]
  rfl

theorem lexemeAt?_other {text : List Char} (plain : ∀ c ∈ text.head?, c ≠ '(' ∧ c ≠ ')') :
    lexemeAt? text = (phraseAt? text).bind fun phrase =>
      phrase.elim (wordAt? text) fun phrase =>
        some (.term (String.ofList phrase), byteLength phrase + 2) := by
  unfold lexemeAt?
  split
  · rename_i first
    exact absurd rfl (plain '(' first).1
  · rename_i first
    exact absurd rfl (plain ')' first).2
  · refine Option.bind_congr ?_
    rintro (_ | phrase) _
    · rfl
    · rfl

theorem lexemeAt?_lexeme {lexeme after : List Char} {t : Token} (first : Lexeme lexeme after t) :
    lexemeAt? (lexeme ++ after) = some (t, byteLength lexeme) := by
  cases first with
  | openParen => rfl
  | closeParen => rfl
  | @phrase text after nonempty unquoted =>
    have found : phraseAt? ('"' :: (text ++ ['"']) ++ after) = some (some text) := by
      have read : quotedPhrase? ('"' :: (text ++ ['"']) ++ after) = some (text, after) :=
        quotedPhrase_eq_some_iff.mpr ⟨by simp, nonempty, unquoted⟩
      rw [phraseAt?_eq, read]
      rfl
    have plain : ∀ c ∈ ('"' :: (text ++ ['"']) ++ after).head?, c ≠ '(' ∧ c ≠ ')' := by
      rintro c ⟨⟩
      decide
    have quotes : byteLength ('"' :: (text ++ ['"'])) = byteLength text + 2 := by
      rw [byteLength_cons, byteLength_append]
      exact Nat.add_comm 1 _
    rw [lexemeAt?_other plain, found, quotes]
    rfl
  | word bare names =>
    have noneThere : phraseAt? (lexeme ++ after) = some none := by
      rw [phraseAt?_eq, (bareWord_iff.mp bare).2.2.2]
      rfl
    have plain : ∀ c ∈ (lexeme ++ after).head?, c ≠ '(' ∧ c ≠ ')' := by
      rw [List.head?_append_of_ne_nil _ bare.nonempty]
      exact bare.front
    rw [lexemeAt?_other plain, noneThere]
    exact wordAt?_bare bare names

/-- A lexeme is not empty, and no blank stands at its front. -/
theorem Lexeme.front {lexeme after : List Char} {t : Token} (first : Lexeme lexeme after t) :
    ∃ c tail, lexeme = c :: tail ∧ isBlank c = false := by
  cases first with
  | openParen => exact ⟨'(', [], rfl, by decide⟩
  | closeParen => exact ⟨')', [], rfl, by decide⟩
  | phrase => exact ⟨'"', _, rfl, by decide⟩
  | word bare =>
    obtain ⟨c, tail, rfl⟩ := List.exists_cons_of_ne_nil bare.nonempty
    exact ⟨c, tail, rfl, bare.visible c List.mem_cons_self⟩

theorem scanWithin_of_splits {text : List Char} {tokens : List Token} (splits : Splits text tokens)
    {turns : Nat} (enough : text.length ≤ turns) :
    scanWithin turns (text.dropWhile isBlank) = some tokens := by
  -- Every lexeme takes a turn and is not empty, so the turns left are enough for what is behind it.
  induction splits generalizing turns with
  | @blanks gap blank =>
    rw [List.dropWhile_eq_nil_iff.mpr blank]
    cases turns <;> rfl
  | @lexeme gap lexeme after t tokens blank first others ih =>
    obtain ⟨c, tail, rfl, visible⟩ := first.front
    simp only [List.length_append, List.length_cons] at enough
    obtain ⟨left, rfl⟩ : ∃ left, turns = left + 1 := ⟨turns - 1, by omega⟩
    have found := lexemeAt?_lexeme first
    have cut := cutAt?_append (c :: tail) after
    rw [List.cons_append] at found cut
    rw [List.dropWhile_append_of_pos blank, List.cons_append,
      List.dropWhile_cons_of_neg (by simp [visible])]
    have othersRead := ih (show after.length ≤ left by omega)
    simp only [scanWithin, found, cut, othersRead, Option.bind_eq_bind, Option.bind_some,
      Option.pure_def]

/-! The visible part of a text. -/

/-- Nothing of a text is lost but blanks: what else stands in it stands in the lexemes. -/
theorem Splits.lexemes {text : List Char} {tokens : List Token} (splits : Splits text tokens) :
    ∃ lexemes, List.Forall₂ (fun lexeme t => ∃ after, Lexeme lexeme after t) lexemes tokens ∧
      text.filter (!isBlank ·) = lexemes.flatten.filter (!isBlank ·) := by
  have hidden {gap : List Char} (blank : ∀ c ∈ gap, isBlank c = true) :
      gap.filter (!isBlank ·) = [] := by
    simpa [List.filter_eq_nil_iff] using blank
  induction splits with
  | blanks blank => exact ⟨[], .nil, hidden blank⟩
  | @lexeme gap lexeme after t tokens blank first others ih =>
    obtain ⟨lexemes, tokensRead, same⟩ := ih
    refine ⟨lexeme :: lexemes, .cons ⟨after, first⟩ tokensRead, ?_⟩
    rw [List.filter_append, List.filter_append, hidden blank, same, List.nil_append,
      List.flatten_cons, List.filter_append]

/-- Every text splits into blanks and lexemes, and however it is split, the tokens are those that
the lexer finds; nothing but blanks is left out of the lexemes. By offsets the same tokens are
found: every cut is between two characters of the text, and no more turns are taken than it has of
them. -/
theorem tokenize_splits (query : String) :
    scanWithin query.length (query.toList.dropWhile isBlank) = some (tokenize query) ∧
      (∀ tokens, Splits query.toList tokens ↔ tokenize query = tokens) ∧
      ∃ lexemes,
        List.Forall₂ (fun lexeme t => ∃ after, Lexeme lexeme after t) lexemes (tokenize query) ∧
          query.toList.filter (!isBlank ·) = lexemes.flatten.filter (!isBlank ·) := by
  have splits : Splits query.toList (tokenize query) := splits_scan query.toList
  refine ⟨?_, ?_, splits.lexemes⟩
  · exact scanWithin_of_splits splits (Nat.le_of_eq String.length_toList)
  · intro tokens
    constructor
    · exact scan_of_splits
    · rintro rfl
      exact splits

end BookmarkSearch.Query
