import BookmarkSearch.Proofs.Query.Lexemes
import BookmarkSearch.Proofs.Search.Scan
import BookmarkSearch.Proofs.Text.Normal

/-!
Any part of a field, put in quotes, finds its document. Normal form goes character by character, so
the normal form of a part is a part of the normal form of the whole, wherever the part was cut out.
-/

namespace BookmarkSearch.Text

open Unicode

theorem normalizeChars_part {part whole : List Char} (inside : part <:+: whole) :
    normalizeChars part <:+: normalizeChars whole := by
  obtain ⟨before, after, rfl⟩ := inside
  rw [normalizeChars_append, normalizeChars_append]
  exact ⟨normalizeChars before, normalizeChars after, rfl⟩

theorem trimBy_part (p : Char → Bool) (cs : List Char) : trimBy p cs <:+: cs := by
  have front : cs.dropWhile p <:+: cs := (List.dropWhile_suffix p).isInfix
  have back : trimBy p cs <+: cs.dropWhile p := by
    rw [trimBy, ← List.reverse_suffix, List.reverse_reverse]
    exact List.dropWhile_suffix p
  exact back.isInfix.trans front

theorem normalizeTerm_part {x : String} {whole : List Char} (inside : x.toList <:+: whole) :
    (normalizeTerm x).toList <:+: normalizeChars whole := by
  rw [normalizeTerm, String.toList_ofList]
  exact (trimBy_part _ _).trans (normalizeChars_part inside)

end BookmarkSearch.Text

namespace BookmarkSearch.Query

open Unicode

def inQuotes (x : String) : String := "\"" ++ x ++ "\""

theorem toList_inQuotes (x : String) : (inQuotes x).toList = '"' :: (x.toList ++ ['"']) := by
  simp [inQuotes]

theorem trim_inQuotes (x : String) : trim (inQuotes x) = inQuotes x := by
  have front : ∀ c ∈ (inQuotes x).toList.head?, isBlank c = false := by
    rw [toList_inQuotes]
    rintro c ⟨⟩
    rfl
  have back : ∀ c ∈ (inQuotes x).toList.reverse.head?, isBlank c = false := by
    rw [toList_inQuotes, ← List.cons_append, List.reverse_append]
    rintro c ⟨⟩
    rfl
  rw [trim, trimBy_eq_self front back, String.ofList_toList]

theorem ofString_inQuotes {x : String} (short : x.length + 2 ≤ maxQueryLength) :
    ∃ text, QueryText.ofString (inQuotes x) = .ok text ∧ text.text = inQuotes x := by
  have nonempty : inQuotes x ≠ "" := by
    intro same
    have nothing := congrArg String.toList same
    rw [toList_inQuotes] at nothing
    cases nothing
  have within : (inQuotes x).length ≤ maxQueryLength := by
    rw [← String.length_toList, toList_inQuotes]
    simp only [List.length_cons, List.length_append, List.length_nil, String.length_toList]
    omega
  refine ⟨⟨inQuotes x, trim_inQuotes x, nonempty, within⟩, ?_, rfl⟩
  simp only [QueryText.ofString, trim_inQuotes]
  rw [dif_neg nonempty, dif_pos within]

theorem tokenize_inQuotes {x : String} (nonempty : x ≠ "") (unquoted : '"' ∉ x.toList) :
    tokenize (inQuotes x) = [.term x] := by
  have something : x.toList ≠ [] := by
    intro nothing
    exact nonempty (String.toList_eq_nil_iff.mp nothing)
  rw [tokenize, toList_inQuotes, scan_phrase [] something unquoted, scan_nil,
    String.ofList_toList]

theorem parse_term (x : String) (limit : Nat) : parse [.term x] limit = some (.term x) := by
  rw [parse_eq_run]
  rfl

theorem betweenSlashes_eq_none {cs : List Char} :
    TermSense.betweenSlashes? cs = none ↔
      ∀ rest, cs = '/' :: rest → rest.getLast? ≠ some '/' := by
  unfold TermSense.betweenSlashes?
  split
  · rename_i rest
    constructor
    · intro nothing other same
      obtain ⟨-, rfl⟩ := List.cons.inj same
      intro closed
      rw [if_pos closed] at nothing
      cases nothing
    · intro unclosed
      exact if_neg (unclosed rest rfl)
  · rename_i unslashed
    exact iff_of_true rfl fun rest same => absurd same (unslashed rest)

theorem ofTerm_eq_literal_iff {raw : String} :
    TermSense.ofTerm raw = .literal raw ↔
      beginsWith ['r', 'e', ':'] raw.toList = false ∧
        TermSense.betweenSlashes? raw.toList = none := by
  simp only [TermSense.ofTerm]
  cases beginsWith ['r', 'e', ':'] raw.toList with
  | true => simp
  | false => cases TermSense.betweenSlashes? raw.toList <;> simp

theorem ofTerm_literal {x : String} (unmarked : beginsWith ['r', 'e', ':'] x.toList = false)
    (unslashed : ∀ inner, x.toList ≠ '/' :: inner ++ ['/']) : TermSense.ofTerm x = .literal x := by
  rw [ofTerm_eq_literal_iff, betweenSlashes_eq_none]
  refine ⟨unmarked, fun rest same closed => ?_⟩
  obtain ⟨inner, rfl⟩ := List.getLast?_eq_some_iff.mp closed
  exact unslashed inner same

end BookmarkSearch.Query

namespace BookmarkSearch.Search

open Query Text

theorem occursIn_iff {needle hay : List Char} : occursIn needle hay = true ↔ needle <:+: hay := by
  induction hay with
  | nil => rw [occursIn, List.isEmpty_iff, List.infix_nil]
  | cons c rest ih =>
    rw [occursIn, Bool.or_eq_true, List.isPrefixOf_iff_prefix, ih, List.infix_cons_iff]

def Document.fields (d : Document) : List String := [d.title, d.url, d.description]

/-- Each field is a part of the text that literal terms are looked for in. -/
theorem combinedText_field (mode : Mode) {d : Document} {field : String}
    (member : field ∈ d.fields) : ∃ whole, field.toList <:+: whole ∧
      (Context.ofDocument mode d).combinedText.toList = normalizeChars whole := by
  refine ⟨(d.title ++ " " ++ d.url ++ " " ++ d.description).toList, ?_, ?_⟩
  · simp only [String.toList_append]
    rcases List.mem_cons.mp member with rfl | member
    · exact ⟨[], " ".toList ++ d.url.toList ++ " ".toList ++ d.description.toList, by simp⟩
    rcases List.mem_cons.mp member with rfl | member
    · exact ⟨d.title.toList ++ " ".toList, " ".toList ++ d.description.toList, by simp⟩
    rw [List.mem_singleton.mp member]
    exact (List.suffix_append _ _).isInfix
  · rw [Context.ofDocument, Text.normalize, String.toList_ofList]

def textMode : Mode := ⟨false, false⟩

theorem accepts_textMode (text tag : String) (d : Document) :
    (Matcher.literal text tag).accepts (.ofDocument textMode d) =
      (text != "" && occursIn text.toList (Context.ofDocument textMode d).combinedText.toList) :=
  rfl

theorem compile_literal {x : String} (literal : TermSense.ofTerm x = .literal x) :
    Matcher.compile x false = .ok (.ofLiteral x) := by
  rw [Matcher.compile, TermSense.resolve, literal]
  rfl

theorem termMatches_of_literal {raw : String} (literal : TermSense.ofTerm raw = .literal raw)
    {c : Context} (own : c.mode.allRegex = false) :
    termMatches raw c = (Matcher.ofLiteral raw).accepts c := by
  rw [termMatches, own, compile_literal literal]

theorem termMatches_of_regex {raw source : String} {c : Context} {pattern : Regex.Pattern}
    (sense : TermSense.resolve raw c.mode.allRegex = .regex source) (nonempty : source ≠ "")
    (compiled : Regex.compile source = .ok pattern) :
    termMatches raw c = (Matcher.regex source pattern).accepts c := by
  rw [termMatches, Matcher.compile, sense]
  simp only [if_neg nonempty, compiled]
  rfl

theorem termMatches_part {d : Document} {field x : String} (member : field ∈ d.fields)
    (part : x.toList <:+: field.toList) (literal : TermSense.ofTerm x = .literal x)
    (named : normalizeTerm x ≠ "") : termMatches x (.ofDocument textMode d) = true := by
  obtain ⟨whole, inside, combined⟩ := combinedText_field textMode member
  rw [termMatches_of_literal literal rfl, Matcher.ofLiteral, if_neg fun nothing => named nothing.1]
  simp only [accepts_textMode, Bool.and_eq_true, bne_iff_ne]
  refine ⟨named, ?_⟩
  rw [occursIn_iff, combined]
  exact normalizeTerm_part (part.trans inside)

theorem ofQuery_warnings (config : Config) (text : QueryText) :
    (Prepared.ofQuery config text).warnings =
      truncationWarnings config.maxTokens (tokenize text.text).length ++
        (compileTerms config.mode.allRegex []
          ((Prepared.ofQuery config text).terms.map QueryTerm.raw)).2 :=
  rfl

/-- Whatever part of a field is searched for in quotes, the document is found, and the term is shown
to match there. -/
theorem phrase_found {documents : List Document} {place : Nat} {d : Document}
    (there : documents[place]? = some d) {field x : String} (member : field ∈ d.fields)
    (part : x.toList <:+: field.toList) (unquoted : '"' ∉ x.toList) (short : x.length ≤ 4094)
    (unmarked : beginsWith ['r', 'e', ':'] x.toList = false)
    (unslashed : ∀ inner, x.toList ≠ '/' :: inner ++ ['/']) (named : normalizeTerm x ≠ "")
    {config : Config} (textual : config.mode = textMode) (room : 1 ≤ config.maxTokens) :
    ∃ o, search config (inQuotes x) documents = .ok o ∧ o.warnings = [] ∧
      o.terms = [⟨x, false, false⟩] ∧
      ∃ h ∈ o.hits, h.place = place ∧ h.document = d ∧ h.matched = [⟨x, false, false⟩] ∧
        h.isMatched ⟨x, false, false⟩ = true := by
  have literal := ofTerm_literal unmarked unslashed
  have nonempty : x ≠ "" := by
    rintro rfl
    exact named rfl
  obtain ⟨text, accepted, written⟩ := ofString_inQuotes (x := x) (Nat.add_le_add_right short 2)
  have tokens : tokenize text.text = [.term x] := by
    rw [written, tokenize_inQuotes nonempty unquoted]
  have expression : expressionOf config text = some (.term x) := by
    rw [expressionOf, tokens, List.take_of_length_le room, parse_term]
  have terms : (Prepared.ofQuery config text).terms = [⟨x, false, false⟩] := by
    rw [ofQuery_terms, expression, Option.elim_some, Expression.terms, Expression.termsUnder,
      literal]
    rfl
  have matchesThere := termMatches_part member part literal named
  have found : (⟨place, d, [⟨x, false, false⟩]⟩ : Hit) ∈
      ((Prepared.ofQuery config text).run documents).hits := by
    rw [run_hits, scanHits, ← ofQuery_terms, terms, expression, textual]
    refine List.mem_map.mpr ⟨(d, place), List.mem_filter.mpr ⟨?_, matchesThere⟩, ?_⟩
    · exact List.mk_mem_zipIdx_iff_getElem?.mpr there
    · simp [matchesThere]
  refine ⟨_, search_accepted accepted config documents, ?_, terms, _, found, rfl, rfl, rfl, ?_⟩
  · change (Prepared.ofQuery config text).warnings = []
    rw [ofQuery_warnings, tokens, terms, textual]
    have whole : truncationWarnings config.maxTokens [Token.term x].length = [] :=
      if_neg (Nat.not_lt.mpr room)
    have compiled : (compileTerms false [] [x]).2 = [] := by
      rw [compileTerms, compile_literal literal]
      rfl
    rw [whole]
    exact compiled
  · simp [Hit.isMatched]

/-- A part of a title that is cut out between a letter and its accent at either end. -/
theorem phrase_found_between_marks :
    let x := "\u0301 Ło"
    let d : Document := ⟨"Cafe\u0301 Ło\u0301dz\u0301", "", "tag:city"⟩
    let documents : List Document := [⟨"Maps", "https://maps.example", ""⟩, d]
    ('"' ∉ x.toList ∧ x.length ≤ 4094 ∧ normalizeTerm x ≠ "") ∧
      ∃ o, search .default (inQuotes x) documents = .ok o ∧ o.warnings = [] ∧
        o.terms = [⟨x, false, false⟩] ∧
        ∃ h ∈ o.hits, h.place = 1 ∧ h.document = d ∧ h.matched = [⟨x, false, false⟩] ∧
          h.isMatched ⟨x, false, false⟩ = true := by
  intro x d documents
  have there : documents[1]? = some d := rfl
  have member : d.title ∈ d.fields := List.mem_cons_self
  have part : x.toList <:+: d.title.toList := ⟨"Cafe".toList, "\u0301dz\u0301".toList, by decide⟩
  have unquoted : '"' ∉ x.toList := by decide
  have short : x.length ≤ 4094 := by decide
  have unmarked : beginsWith ['r', 'e', ':'] x.toList = false := by decide
  have unslashed : ∀ inner, x.toList ≠ '/' :: inner ++ ['/'] := by
    intro inner same
    have first : x.toList.head? = some '/' := congrArg List.head? same
    exact absurd first (by decide)
  have named : normalizeTerm x ≠ "" := by decide +kernel
  exact ⟨⟨unquoted, short, named⟩, phrase_found there member part unquoted short unmarked unslashed
    named rfl (by decide)⟩

end BookmarkSearch.Search
