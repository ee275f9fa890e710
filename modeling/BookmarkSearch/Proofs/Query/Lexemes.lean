import BookmarkSearch.Query.Lexer
import Mathlib.Data.List.TakeWhile

/-!
What the lexer makes of the front of a text: blanks are passed over, and a parenthesis, a phrase in
quotes or a bare word is one token, behind which it goes on.
-/

namespace BookmarkSearch.Query

open Unicode

theorem scan_nil : scan [] = [] := by
  rw [scan]
  rfl

theorem scan_blank {c : Char} (cs : List Char) (blank : isBlank c = true) :
    scan (c :: cs) = scan cs := by
  rw [scan.eq_def, scan.eq_def cs, List.dropWhile_cons_of_pos blank]

theorem scan_cons {c : Char} (cs : List Char) (visible : isBlank c = false) :
    scan (c :: cs) = (nextToken c cs).1 :: scan (nextToken c cs).2 := by
  have front : (c :: cs).dropWhile isBlank = c :: cs :=
    List.dropWhile_cons_of_neg (by simp [visible])
  rw [scan.eq_def]
  split
  · rename_i nothing
    rw [front] at nothing
    cases nothing
  · rename_i d rest same
    rw [front] at same
    cases same
    rfl

theorem scan_openParen (cs : List Char) : scan ('(' :: cs) = .openParen :: scan cs :=
  scan_cons cs (by decide)

theorem scan_closeParen (cs : List Char) : scan (')' :: cs) = .closeParen :: scan cs :=
  scan_cons cs (by decide)

/-! Phrases. -/

theorem quotedPhrase_eq_some_iff {cs phrase rest : List Char} :
    quotedPhrase? cs = some (phrase, rest) ↔
      cs = '"' :: (phrase ++ '"' :: rest) ∧ phrase ≠ [] ∧ '"' ∉ phrase := by
  constructor
  · intro found
    unfold quotedPhrase? at found
    split at found
    · rename_i body
      split at found
      · rename_i quote after dropped
        have stopped : quote = '"' := by
          have closing := head_dropWhile (p := (· != '"')) body
          rw [dropped] at closing
          simpa using closing quote rfl
        split at found
        · cases found
        · rename_i first
          obtain ⟨rfl, rfl⟩ := Prod.mk.inj (Option.some.inj found)
          have whole := List.takeWhile_append_dropWhile (p := (· != '"')) (l := body)
          rw [dropped, stopped] at whole
          refine ⟨by rw [whole], fun nothing => ?_, fun inside => ?_⟩
          · rw [nothing, List.nil_append] at whole
            exact first (by rw [← whole]; rfl)
          · simpa using List.mem_takeWhile_imp inside
      · cases found
    · cases found
  · rintro ⟨rfl, nonempty, unquoted⟩
    have inside : ∀ c ∈ phrase, (c != '"') = true := by
      intro c member
      have other : c ≠ '"' := fun same => unquoted (same ▸ member)
      simpa using other
    have first : (phrase ++ '"' :: rest).head? ≠ some '"' := by
      obtain ⟨c, tail, rfl⟩ := List.exists_cons_of_ne_nil nonempty
      intro same
      exact unquoted (by simp [Option.some.inj same])
    simpa [quotedPhrase?, List.takeWhile_append_of_pos inside,
      List.dropWhile_append_of_pos inside] using first

/-- A quote begins a phrase if another one follows, but not at once. -/
theorem quotedPhrase_eq_none_iff {body : List Char} :
    quotedPhrase? ('"' :: body) = none ↔ body.head? = some '"' ∨ '"' ∉ body := by
  constructor
  · intro bare
    by_cases quoted : '"' ∈ body
    · obtain ⟨phrase, rest, rfl, unquoted⟩ := List.eq_append_cons_of_mem quoted
      cases phrase with
      | nil => exact .inl rfl
      | cons c tail =>
        have found : quotedPhrase? ('"' :: (c :: tail ++ '"' :: rest)) = some (c :: tail, rest) :=
          quotedPhrase_eq_some_iff.mpr ⟨rfl, List.cons_ne_nil c tail, unquoted⟩
        rw [bare] at found
        cases found
    · exact .inr quoted
  · intro bare
    cases found : quotedPhrase? ('"' :: body) with
    | none => rfl
    | some parts =>
      obtain ⟨phrase, rest⟩ := parts
      obtain ⟨same, nonempty, unquoted⟩ := quotedPhrase_eq_some_iff.mp found
      obtain ⟨-, rfl⟩ := List.cons.inj same
      rcases bare with first | absent
      · obtain ⟨c, tail, rfl⟩ := List.exists_cons_of_ne_nil nonempty
        obtain rfl : c = '"' := Option.some.inj first
        exact absurd List.mem_cons_self unquoted
      · exact absurd (List.mem_append_right phrase List.mem_cons_self) absent

/-- No phrase begins where no quote stands. -/
theorem quotedPhrase_eq_none_of_ne {c : Char} {cs : List Char} (other : c ≠ '"') :
    quotedPhrase? (c :: cs) = none := by
  cases found : quotedPhrase? (c :: cs) with
  | none => rfl
  | some parts =>
    have same := (quotedPhrase_eq_some_iff.mp found).1
    exact absurd (List.cons.inj same).1 other

theorem scan_phrase {phrase : List Char} (rest : List Char) (nonempty : phrase ≠ [])
    (unquoted : '"' ∉ phrase) :
    scan ('"' :: (phrase ++ '"' :: rest)) = .term (String.ofList phrase) :: scan rest := by
  have found : quotedPhrase? ('"' :: (phrase ++ '"' :: rest)) = some (phrase, rest) :=
    quotedPhrase_eq_some_iff.mpr ⟨rfl, nonempty, unquoted⟩
  rw [scan_cons _ (by decide)]
  simp [nextToken, found]

/-! Words. -/

theorem endsWord_imp {cs : List Char} {c : Char} (ends : endsWord cs c = true) :
    isBlank c = true ∨ isParen c = true := by
  unfold endsWord at ends
  split at ends
  · exact .inl ends
  · simpa using ends

/-- Where no phrase begins, a word reaches to the first character that ends it. -/
theorem scan_bare {c : Char} (cs : List Char) (visible : isBlank c = false)
    (other : isParen c = false) (bare : quotedPhrase? (c :: cs) = none) :
    scan (c :: cs) = wordToken ((c :: cs).takeWhile fun d => !endsWord (c :: cs) d) ::
      scan ((c :: cs).dropWhile fun d => !endsWord (c :: cs) d) := by
  have goesOn : (!endsWord (c :: cs) c) = true := by
    cases ends : endsWord (c :: cs) c with
    | false => rfl
    | true => simpa [visible, other] using endsWord_imp ends
  have parens : ¬c = '(' ∧ ¬c = ')' := by simpa [isParen] using other
  rw [scan_cons cs visible, List.takeWhile_cons, List.dropWhile_cons, if_pos goesOn,
    if_pos goesOn]
  simp [nextToken, parens, bare]

/-- What ends a word is no letter. -/
theorem toLower_of_ends {c : Char} (ends : isBlank c = true ∨ isParen c = true) :
    c.toLower = c := by
  have other : ¬(65 ≤ c.toNat ∧ c.toNat ≤ 90) := by
    rcases ends with blank | paren
    · simp only [isBlank, Bool.or_eq_true, Bool.and_eq_true, decide_eq_true_eq, beq_iff_eq] at blank
      omega
    · rcases (by simpa [isParen] using paren : c = '(' ∨ c = ')') with rfl | rfl <;> decide
  exact dif_neg other

theorem startsRegex_front {cs : List Char} (marked : startsRegex cs = true) :
    ∃ c rest, cs = c :: rest ∧ (c.toLower = '/' ∨ c.toLower = 'r') := by
  unfold startsRegex at marked
  split at marked
  · exact ⟨'/', _, rfl, .inl rfl⟩
  · cases cs with
    | nil => cases marked
    | cons c rest =>
      have lower : c.toLower = 'r' := by
        simp only [beginsWith, List.length_cons, List.take_succ_cons, List.map_cons,
          beq_iff_eq, List.cons.injEq] at marked
        exact marked.1
      exact ⟨c, rest, rfl, .inr lower⟩

/-- A word that ends does not become a regular expression through what follows. -/
theorem startsRegex_append {word after : List Char} (nonempty : word ≠ [])
    (ended : ∀ c ∈ after.head?, isBlank c = true ∨ isParen c = true) :
    startsRegex (word ++ after) = startsRegex word := by
  obtain ⟨first, tail, rfl⟩ := List.exists_cons_of_ne_nil nonempty
  by_cases slash : first = '/'
  · rw [slash]
    rfl
  have marked (rest : List Char) :
      startsRegex (first :: rest) = beginsWith ['r', 'e', ':'] (first :: rest) := by
    unfold startsRegex
    split
    · rename_i same
      exact absurd (List.cons.inj same).1 slash
    · rfl
  rw [List.cons_append, marked, marked]
  -- The marker is three characters long, so what follows could only complete a word of one or two.
  cases after with
  | nil => rw [List.append_nil]
  | cons d rest =>
    have ends := ended d rfl
    have unmarked : d.toLower ≠ 'e' ∧ d.toLower ≠ ':' := by
      rw [toLower_of_ends ends]
      constructor <;> rintro rfl <;> revert ends <;> decide
    rcases tail with _ | ⟨second, _ | ⟨third, tail⟩⟩
    · simp [beginsWith, unmarked.1]
    · simp [beginsWith, unmarked.2]
    · rfl

theorem visible_of_whole {c : Char} {tail : List Char}
    (whole : ∀ d ∈ c :: tail, endsWord (c :: tail) d = false) :
    isBlank c = false ∧ isParen c = false := by
  have goesOn := whole c List.mem_cons_self
  unfold endsWord at goesOn
  split at goesOn
  · -- A regular expression may hold parentheses, but it does not begin with one.
    rename_i marked
    refine ⟨goesOn, Bool.eq_false_iff.mpr fun paren => ?_⟩
    obtain ⟨_, _, same, lower⟩ := startsRegex_front marked
    rw [← (List.cons.inj same).1, toLower_of_ends (.inr paren)] at lower
    rcases lower with rfl | rfl <;> cases paren
  · simpa using goesOn

/-- A word is read as such in front of a character that ends it. -/
theorem scan_word {word : List Char} (after : List Char) (nonempty : word ≠ [])
    (whole : ∀ c ∈ word, endsWord word c = false)
    (ended : ∀ c ∈ after.head?, endsWord word c = true)
    (bare : quotedPhrase? (word ++ after) = none) :
    scan (word ++ after) = wordToken word :: scan after := by
  have sameEnd : endsWord (word ++ after) = endsWord word := by
    have marked := startsRegex_append nonempty fun c first => endsWord_imp (ended c first)
    funext c
    rw [endsWord, endsWord, marked]
  have inside : ∀ c ∈ word, (!endsWord word c) = true := by
    intro c member
    rw [whole c member]
    rfl
  have behind : ∀ c ∈ after.head?, (!endsWord word c) = false := by
    intro c first
    rw [ended c first]
    rfl
  obtain ⟨c, tail, rfl⟩ := List.exists_cons_of_ne_nil nonempty
  have front := visible_of_whole whole
  have read := scan_bare (tail ++ after) front.1 front.2 bare
  rw [← List.cons_append, sameEnd, takeWhile_run inside behind, dropWhile_run inside behind] at read
  exact read

theorem wordToken_eq_term {word : List Char} {text : String}
    (term : wordToken word = .term text) : text = String.ofList word := by
  unfold wordToken at term
  split at term
  · cases term
  split at term
  · cases term
  split at term
  · cases term
  · exact (Token.term.inj term).symm

/-- No operator begins as a regular expression does. -/
theorem wordToken_of_startsRegex {word : List Char} (marked : startsRegex word = true) :
    wordToken word = .term (String.ofList word) := by
  obtain ⟨c, rest, rfl, lower⟩ := startsRegex_front marked
  have other (d : Char) (operator : List Char) (first : d ≠ '/' ∧ d ≠ 'r') :
      isWord (d :: operator) (c :: rest) = false := by
    have different : c.toLower ≠ d := by
      rintro rfl
      exact lower.elim first.1 first.2
    simp [isWord, different]
  rw [wordToken, other, other, other]
  · rfl
  all_goals decide

/-! Terms. -/

/-- What is known of the text of a term that has been read: it is not empty, and it begins with a
quote only if it stood without quotes around it. -/
structure Lexed (text : String) : Prop where
  nonempty : text.toList ≠ []
  bare : text.toList.head? = some '"' → ∀ c ∈ text.toList, isBlank c = false ∧ isParen c = false

theorem nextToken_lexed {c : Char} {cs : List Char} {text : String} (visible : isBlank c = false)
    (term : (nextToken c cs).1 = .term text) : Lexed text := by
  unfold nextToken at term
  split at term
  · cases term
  split at term
  · cases term
  rename_i opening closing
  have other : isParen c = false := by simp [isParen, opening, closing]
  split at term
  · rename_i phrase rest found
    obtain ⟨-, nonempty, unquoted⟩ := quotedPhrase_eq_some_iff.mp found
    obtain rfl := Token.term.inj term
    refine ⟨by simpa using nonempty, fun first => ?_⟩
    rw [String.toList_ofList] at first
    exact absurd (List.mem_of_head? first) unquoted
  · obtain rfl := wordToken_eq_term term
    refine ⟨by simp, fun first => ?_⟩
    rw [String.toList_ofList] at first ⊢
    obtain rfl : c = '"' := Option.some.inj first
    have unmarked : startsRegex ('"' :: cs) = false := by simp [startsRegex, beginsWith]
    intro d member
    rcases List.mem_cons.mp member with rfl | later
    · exact ⟨visible, other⟩
    · have goesOn := List.mem_takeWhile_imp later
      simpa [endsWord, unmarked] using goesOn

theorem scan_lexed {cs : List Char} {text : String} (member : .term text ∈ scan cs) :
    Lexed text := by
  fun_induction scan cs with
  | case1 => cases member
  | case2 cs c rest front ih =>
    rcases List.mem_cons.mp member with first | later
    · have visible : isBlank c = false := head_dropWhile cs c (by rw [front]; rfl)
      exact nextToken_lexed visible first.symm
    · exact ih later

end BookmarkSearch.Query
