import BookmarkSearch.Proofs.Regex.Words
import BookmarkSearch.Proofs.Search.Fields
import BookmarkSearch.Proofs.Search.Warnings

/-!
Plain words, which are made of ASCII letters and digits. It makes no difference whether such a word
is looked for as a literal or as a pattern: the texts searched differ only in what parts the fields,
and a word is found in either of them if a field has it in lower case.
-/

namespace BookmarkSearch.Query

/-! The two ways to mark a pattern. -/

theorem ofTerm_marked (source : String) : TermSense.ofTerm ("re:" ++ source) = .regex source := by
  simp [TermSense.ofTerm, beginsWith]

theorem ofTerm_slashed (source : String) :
    TermSense.ofTerm ("/" ++ source ++ "/") = .regex source := by
  simp [TermSense.ofTerm, beginsWith, TermSense.betweenSlashes?]

end BookmarkSearch.Query

namespace BookmarkSearch.Search

open Unicode Text Query

def Document.HasWord (d : Document) (x : String) : Prop :=
  ∃ field ∈ d.fields, x.toList.map Char.toLower <:+: (Text.normalize field).toList

/-! The letters of a plain word. -/

theorem ascii_of_plain {c : Char} (plain : c.isAlphanum = true) : c.toNat < 128 := by
  have ranges : (decide (c.val ≥ 'A'.val ∧ c.val ≤ 'Z'.val) ||
      (c.val ≥ 'a'.val && c.val ≤ 'z'.val) || (c.val ≥ '0'.val && c.val ≤ '9'.val)) = true := plain
  have upper : 'Z'.val.toNat = 90 := rfl
  have lower : 'z'.val.toNat = 122 := rfl
  have digit : '9'.val.toNat = 57 := rfl
  have point : c.val.toNat = c.toNat := rfl
  simp only [Bool.or_eq_true, Bool.and_eq_true, decide_eq_true_eq, UInt32.le_iff_toNat_le,
    ge_iff_le] at ranges
  omega

theorem isWordChar_of_plain : ∀ n < 128, (Char.ofNat n).isAlphanum = true →
    isWordChar (Char.ofNat n).toLower = true := by
  decide +kernel

section Words

variable {x : String} (plain : ∀ c ∈ x.toList, c.isAlphanum = true)
include plain

theorem lowered_isWordChar : ∀ c ∈ x.toList.map Char.toLower, isWordChar c = true := by
  intro l member
  obtain ⟨c, inside, rfl⟩ := List.mem_map.mp member
  have letter := isWordChar_of_plain c.toNat (ascii_of_plain (plain c inside))
  rw [Char.ofNat_toNat] at letter
  exact letter (plain c inside)

theorem not_mem_lowered {separator : Char} (outside : isWordChar separator = false) :
    separator ∉ x.toList.map Char.toLower := by
  intro member
  rw [lowered_isWordChar plain separator member] at outside
  cases outside

theorem normalizeTerm_plain : (normalizeTerm x).toList = x.toList.map Char.toLower := by
  rw [normalizeTerm, String.toList_ofList,
    normalizeChars_ascii fun c member => ascii_of_plain (plain c member)]
  exact trimBy_eq_self_of_forall fun c member => by rw [lowered_isWordChar plain c member]; rfl

theorem ofTerm_plain : TermSense.ofTerm x = .literal x := by
  apply ofTerm_literal
  · rw [← Bool.not_eq_true, beginsWith, beq_iff_eq, List.map_take]
    intro marked
    have colon : ':' ∈ (x.toList.map Char.toLower).take 3 := by
      rw [show 3 = ['r', 'e', ':'].length from rfl, marked]
      decide
    exact not_mem_lowered plain (by decide +kernel) (List.mem_of_mem_take colon)
  · intro inner slashed
    have sign := plain '/' (slashed ▸ List.mem_cons_self)
    cases sign

theorem infix_joined_plain {between : String} {separator : Char}
    (single : between.toList = [separator]) (kept : Text.normalize between = between)
    (outside : isWordChar separator = false) (d : Document) :
    x.toList.map Char.toLower <:+: normalizeChars (joined between d).toList ↔ d.HasWord x := by
  rw [← toList_normalize, infix_joined_iff single kept (not_mem_lowered plain outside),
    Document.HasWord]

/-- As a literal a word is looked for in the fields with blanks in between. -/
theorem literal_finds_iff (word : x ≠ "") (d : Document) :
    termMatches x (.ofDocument textMode d) = true ↔ d.HasWord x := by
  have something : normalizeTerm x ≠ "" := by
    intro nothing
    have letters := congrArg String.toList nothing
    rw [normalizeTerm_plain plain, String.toList_empty, List.map_eq_nil_iff,
      String.toList_eq_nil_iff] at letters
    exact word letters
  rw [termMatches_text_iff (ofTerm_plain plain), and_iff_right something,
    normalizeTerm_plain plain, infix_joined_plain plain rfl normalize_space (by decide +kernel)]

/-- As a pattern a word is looked for in the fields line by line. -/
theorem pattern_finds_iff (word : x ≠ "") (fits : Regex.compile x ≠ .error .tooBig)
    {raw : String} {allRegex : Bool} (sense : TermSense.resolve raw allRegex = .regex x)
    (d : Document) : termMatches raw (.ofDocument ⟨false, allRegex⟩ d) = true ↔ d.HasWord x := by
  have accepted : termMatches raw (.ofDocument ⟨false, allRegex⟩ d) =
      (Regex.Pattern.ofWord x.toList).matchesText (Text.normalize (joined "\n" d)) :=
    termMatches_of_regex sense word (Regex.compile_fitting plain fits)
  rw [accepted, Regex.Pattern.matchesText_ofWord, toList_normalize,
    infix_foldAlike_iff fun c member => ascii_of_plain (plain c member),
    infix_joined_plain plain rfl normalize_newline (by decide +kernel)]

end Words

/-- A plain word finds the same documents as a literal, with either mark of a pattern, and where all
terms are patterns: those with a field that has the word in lower case when it is normalized. -/
theorem plain_word_readings {x : String} (word : x ≠ "")
    (plain : ∀ c ∈ x.toList, c.isAlphanum = true) (fits : Regex.compile x ≠ .error .tooBig)
    (d : Document) :
    (termMatches x (.ofDocument ⟨false, false⟩ d) = true ↔ d.HasWord x) ∧
    termMatches x (.ofDocument ⟨false, true⟩ d) = termMatches x (.ofDocument ⟨false, false⟩ d) ∧
    ∀ allRegex,
      termMatches ("re:" ++ x) (.ofDocument ⟨false, allRegex⟩ d) =
        termMatches x (.ofDocument ⟨false, false⟩ d) ∧
      termMatches ("/" ++ x ++ "/") (.ofDocument ⟨false, allRegex⟩ d) =
        termMatches x (.ofDocument ⟨false, false⟩ d) := by
  have literal := literal_finds_iff plain word d
  have agree {raw : String} {allRegex : Bool}
      (sense : TermSense.resolve raw allRegex = .regex x) :
      termMatches raw (.ofDocument ⟨false, allRegex⟩ d) =
        termMatches x (.ofDocument ⟨false, false⟩ d) := by
    rw [Bool.eq_iff_iff]
    exact (pattern_finds_iff plain word fits sense d).trans literal.symm
  refine ⟨literal, agree ?_, fun allRegex => ⟨agree ?_, agree ?_⟩⟩
  · exact resolve_eq_regex_iff.mpr (.inr ⟨rfl, ofTerm_plain plain⟩)
  · exact resolve_eq_regex_iff.mpr (.inl (ofTerm_marked x))
  · exact resolve_eq_regex_iff.mpr (.inl (ofTerm_slashed x))

/-- The word `K2` finds the Kelvin sign in front of a 2, since the normal form of the sign is k. -/
theorem plain_word_readings_kelvin :
    let d : Document := ⟨"\u212A2", "", ""⟩
    (∀ c ∈ "K2".toList, c.isAlphanum = true) ∧ Regex.compile "K2" ≠ .error .tooBig ∧
      termMatches "K2" (.ofDocument ⟨false, false⟩ d) = true ∧
      termMatches "K2" (.ofDocument ⟨false, true⟩ d) = true ∧
      ∀ allRegex,
        termMatches ("re:" ++ "K2") (.ofDocument ⟨false, allRegex⟩ d) = true ∧
        termMatches ("/" ++ "K2" ++ "/") (.ofDocument ⟨false, allRegex⟩ d) = true := by
  intro d
  have plain : ∀ c ∈ "K2".toList, c.isAlphanum = true := List.all_eq_true.mp (by decide)
  have kelvin : CodeSet.variantsOf 'K' =
      ⟨[(0x4B, 0x4B), (0x6B, 0x6B), (0x212A, 0x212A)]⟩ := by
    have variants : caseVariants 'K'.toNat = [0x6B, 0x4B, 0x212A] := by decide +kernel
    rw [CodeSet.variantsOf, variants]
    simp [CodeSet.ofSpans, List.mergeSort, List.MergeSort.Internal.splitInTwo, CodeSet.join]
  have two : CodeSet.variantsOf '2' = ⟨[(0x32, 0x32)]⟩ := by
    have variants : caseVariants '2'.toNat = [0x32] := by decide +kernel
    rw [CodeSet.variantsOf, variants]
    simp [CodeSet.ofSpans, CodeSet.join]
  have fits : Regex.compile "K2" ≠ .error .tooBig := by
    have size : (Regex.Pattern.ofWord "K2".toList).cost = 332 := by
      change Regex.setCost (CodeSet.variantsOf 'K') + Regex.setCost (CodeSet.variantsOf '2') = 332
      rw [kelvin, two]
      simp [Regex.setCost, CodeSet.single?, Char.utf8Size, CodeSet.isAscii, Regex.spanSequences,
        Regex.utf8Lengths, Regex.utf8Digits, Regex.rangeSequences, Regex.newStates,
        Regex.unshared, Regex.stateCost, lastCodePoint]
    rw [Regex.compile_word plain, size]
    intro refused
    cases refused
  obtain ⟨found, every, marked⟩ := plain_word_readings (by decide) plain fits d
  have there : termMatches "K2" (.ofDocument ⟨false, false⟩ d) = true :=
    found.mpr ⟨d.title, List.mem_cons_self, ⟨[], [], by decide +kernel⟩⟩
  refine ⟨plain, fits, there, every.trans there, fun allRegex => ?_⟩
  obtain ⟨prefixed, slashed⟩ := marked allRegex
  exact ⟨prefixed.trans there, slashed.trans there⟩

end BookmarkSearch.Search
