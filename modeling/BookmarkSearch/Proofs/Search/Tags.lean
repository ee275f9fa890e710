import Mathlib.Data.List.TakeWhile
import BookmarkSearch.Proofs.Text.Normal
import BookmarkSearch.Search.Matcher

/-!
Which tags a term finds. A tag goes into normal form twice, once when it is taken from the
description and once when it is filed, and a term only once. So a tag with a letter whose lower case
has a plain letter is filed under a name that the term of the same text does not have.
-/

namespace BookmarkSearch.Search

open Unicode Text Query

theorem mem_trimBy {p : Char → Bool} {cs : List Char} {c : Char} (member : c ∈ cs)
    (kept : p c = false) : c ∈ trimBy p cs := by
  have survives (text : List Char) (inside : c ∈ text) : c ∈ text.dropWhile p := by
    have parts := List.takeWhile_append_dropWhile (p := p) (l := text)
    rw [← parts, List.mem_append] at inside
    refine inside.resolve_left fun dropped => ?_
    rw [List.mem_takeWhile_imp dropped] at kept
    cases kept
  have behindFront := survives cs member
  rw [← List.mem_reverse] at behindFront
  rw [trimBy, List.mem_reverse]
  exact survives _ behindFront

theorem mem_of_mem_trimBy {p : Char → Bool} {cs : List Char} {c : Char}
    (member : c ∈ trimBy p cs) : c ∈ cs := by
  rw [trimBy, List.mem_reverse] at member
  have inside := (List.dropWhile_sublist p).mem member
  rw [List.mem_reverse] at inside
  exact (List.dropWhile_sublist p).mem inside

def markedTags (description : String) : List (List Char) :=
  (piecesOf description).filterMap afterTagMarker?

def bareTerm (raw : String) : String :=
  String.ofList ((afterTagMarker? raw.toList).getD raw.toList)

def tagName (tag : List Char) : String :=
  String.ofList (trimBy (fun c => !isWordChar c) ((normalizeChars tag).map plainLetter))

/-- Whether no letter in the normal form of a tag has a plain letter. -/
def Settled (tag : List Char) : Prop := ∀ c ∈ normalizeChars tag, plainLetter c = c

instance (tag : List Char) : Decidable (Settled tag) :=
  List.decidableBAll _ _

theorem normalizeTerm_normalize (tag : List Char) :
    normalizeTerm (String.ofList (normalizeChars tag)) = tagName tag := by
  rw [normalizeTerm, String.toList_ofList, normalizeChars_twice, tagName]

theorem tagName_settled {tag : List Char} (settled : Settled tag) :
    tagName tag = normalizeTerm (String.ofList tag) := by
  have same : (normalizeChars tag).map plainLetter = normalizeChars tag := by
    rw [List.map_congr_left settled, List.map_id']
  rw [tagName, same, normalizeTerm, String.toList_ofList]

/-- The letter that keeps a tag from being settled stays when its ends are trimmed. -/
theorem exists_stroked {tag : List Char} (unsettled : ¬Settled tag) :
    ∃ c ∈ (normalizeTerm (String.ofList tag)).toList, plainLetter c ≠ c := by
  simp only [Settled, not_forall] at unsettled
  obtain ⟨c, member, stroked⟩ := unsettled
  refine ⟨c, ?_, stroked⟩
  rw [normalizeTerm, String.toList_ofList, String.toList_ofList]
  exact mem_trimBy member (by rw [isWordChar_of_stroked stroked]; rfl)

/-- No tag is filed under the normal form of one that is not settled. -/
theorem tagName_ne {tag : List Char} (unsettled : ¬Settled tag) (other : List Char) :
    tagName other ≠ normalizeTerm (String.ofList tag) := by
  intro same
  obtain ⟨c, member, stroked⟩ := exists_stroked unsettled
  rw [← same, tagName, String.toList_ofList] at member
  obtain ⟨d, -, rfl⟩ := List.mem_map.mp (mem_of_mem_trimBy member)
  exact stroked (plainLetter_idem d)

/-! What is filed and what is looked for. -/

theorem mem_tagsOf {description name : String} :
    name ∈ (tagsOf description).map normalizeTerm ∧ name ≠ "" ↔
      ∃ tag ∈ markedTags description, tagName tag = name ∧ name ≠ "" := by
  rw [List.mem_map]
  constructor
  · rintro ⟨⟨text, member, rfl⟩, something⟩
    obtain ⟨tag, marked, rfl⟩ := List.mem_map.mp (List.mem_filter.mp member).1
    exact ⟨tag, marked, (normalizeTerm_normalize tag).symm, something⟩
  · rintro ⟨tag, marked, rfl, something⟩
    refine ⟨⟨String.ofList (normalizeChars tag), ?_, normalizeTerm_normalize tag⟩, something⟩
    refine List.mem_filter.mpr ⟨List.mem_map_of_mem marked, ?_⟩
    -- A tag without anything in its normal form would have no name.
    simp only [bne_iff_ne]
    intro nothing
    rw [← normalizeTerm_normalize, nothing] at something
    exact something rfl

theorem hasTag_iff (mode : Mode) (d : Document) (name : String) :
    (name != "" && (Context.ofDocument mode d).hasTag name) = true ↔
      ∃ tag ∈ markedTags d.description, tagName tag = name ∧ name ≠ "" := by
  rw [← mem_tagsOf, Bool.and_eq_true, bne_iff_ne, Context.hasTag, List.contains_iff_mem,
    Context.ofDocument, List.mem_eraseDups, List.mem_filter]
  simp only [bne_iff_ne]
  tauto

def tagMode : Mode := ⟨true, false⟩

theorem accepts_ofLiteral (raw : String) (d : Document) :
    (Matcher.ofLiteral raw).accepts (.ofDocument tagMode d) =
      (normalizeTerm (bareTerm raw) != "" &&
        (Context.ofDocument tagMode d).hasTag (normalizeTerm (bareTerm raw))) := by
  simp only [Matcher.ofLiteral]
  split
  · rename_i nothing
    simp [Matcher.accepts, bareTerm, nothing.2]
  · rfl

theorem termMatches_literal {raw : String} (literal : TermSense.ofTerm raw = .literal raw)
    (d : Document) :
    termMatches raw (.ofDocument tagMode d) = true ↔
      ∃ tag ∈ markedTags d.description,
        tagName tag = normalizeTerm (bareTerm raw) ∧ normalizeTerm (bareTerm raw) ≠ "" := by
  have compiled : Matcher.compile raw (Context.ofDocument tagMode d).mode.allRegex =
      .ok (.ofLiteral raw) := by
    rw [Matcher.compile, TermSense.resolve, literal]
    rfl
  rw [← hasTag_iff tagMode, ← accepts_ofLiteral, termMatches, compiled]

def markedTerm (tag : List Char) : String := String.ofList (tagMarker ++ tag)

theorem ofTerm_markedTerm (tag : List Char) :
    TermSense.ofTerm (markedTerm tag) = .literal (markedTerm tag) := by
  have plain : beginsWith ['r', 'e', ':'] (markedTerm tag).toList = false := by
    rw [markedTerm, String.toList_ofList]
    rfl
  have unslashed : TermSense.betweenSlashes? (markedTerm tag).toList = none := by
    rw [markedTerm, String.toList_ofList]
    rfl
  simp only [TermSense.ofTerm, plain, unslashed, Bool.false_eq_true, ↓reduceIte]

theorem bareTerm_markedTerm (tag : List Char) : bareTerm (markedTerm tag) = String.ofList tag := by
  rw [bareTerm, markedTerm, String.toList_ofList]
  rfl

/-- Whether some tag of a description has the normal form of a term, and one that is not empty. -/
def NamesTag (raw description : String) : Prop :=
  ∃ tag ∈ markedTags description,
    normalizeTerm (String.ofList tag) = normalizeTerm (bareTerm raw) ∧
      normalizeTerm (bareTerm raw) ≠ ""

theorem settled_of_found {tag : List Char} {d : Document}
    (found : termMatches (markedTerm tag) (.ofDocument tagMode d) = true) : Settled tag := by
  rw [termMatches_literal (ofTerm_markedTerm tag), bareTerm_markedTerm] at found
  obtain ⟨other, -, same, -⟩ := found
  exact Decidable.byContradiction fun unsettled => tagName_ne unsettled other same

/-- A term finds the tags that are filed under its normal form. Terms find just the tags that have
their normal form exactly if all tags of the description are settled; and a tag whose normal form is
not empty is found by the term that is written like it exactly if it is settled. -/
theorem tags_found_iff (d : Document) :
    (∀ raw, TermSense.ofTerm raw = .literal raw →
      (termMatches raw (.ofDocument tagMode d) = true ↔
        ∃ tag ∈ markedTags d.description,
          tagName tag = normalizeTerm (bareTerm raw) ∧ normalizeTerm (bareTerm raw) ≠ "")) ∧
    ((∀ raw, TermSense.ofTerm raw = .literal raw →
        (termMatches raw (.ofDocument tagMode d) = true ↔ NamesTag raw d.description)) ↔
      ∀ tag ∈ markedTags d.description, Settled tag) ∧
    ∀ tag ∈ markedTags d.description, normalizeTerm (String.ofList tag) ≠ "" →
      (termMatches (markedTerm tag) (.ofDocument tagMode d) = true ↔ Settled tag) := by
  refine ⟨fun raw literal => termMatches_literal literal d, ⟨?_, ?_⟩, ?_⟩
  · -- The term that is written like a tag that is not settled is one that the two disagree on.
    intro agree tag marked
    refine Decidable.byContradiction fun unsettled => ?_
    have something : normalizeTerm (String.ofList tag) ≠ "" := by
      obtain ⟨c, member, -⟩ := exists_stroked unsettled
      intro nothing
      rw [nothing] at member
      cases member
    have names : NamesTag (markedTerm tag) d.description := by
      rw [NamesTag, bareTerm_markedTerm]
      exact ⟨tag, marked, rfl, something⟩
    exact unsettled (settled_of_found ((agree _ (ofTerm_markedTerm tag)).mpr names))
  · intro settled raw literal
    rw [termMatches_literal literal, NamesTag]
    refine exists_congr fun tag => and_congr_right fun marked => ?_
    rw [tagName_settled (settled tag marked)]
  · intro tag marked something
    refine ⟨settled_of_found, fun settled => ?_⟩
    rw [termMatches_literal (ofTerm_markedTerm tag), bareTerm_markedTerm]
    exact ⟨tag, marked, tagName_settled settled, something⟩

/-- Of the tags `Rust` and `Łódź` the first is found by its term. The second is filed as `lodz`, and
looked for as `łodz`. -/
theorem tags_found_without_stroke :
    let d : Document := ⟨"", "", "tag:Rust,TAG:Łódź"⟩
    let rust := ['R', 'u', 's', 't']
    let lodz := ['Ł', 'ó', 'd', 'ź']
    (rust ∈ markedTags d.description ∧ normalizeTerm (String.ofList rust) ≠ "" ∧
        termMatches (markedTerm rust) (.ofDocument tagMode d) = true) ∧
      lodz ∈ markedTags d.description ∧ normalizeTerm (String.ofList lodz) ≠ "" ∧
        termMatches (markedTerm lodz) (.ofDocument tagMode d) = false := by
  intro d rust lodz
  obtain ⟨-, -, found⟩ := tags_found_iff d
  have first : rust ∈ markedTags d.description := by decide
  have second : lodz ∈ markedTags d.description := by decide
  have firstNamed : normalizeTerm (String.ofList rust) ≠ "" := by decide +kernel
  have secondNamed : normalizeTerm (String.ofList lodz) ≠ "" := by decide +kernel
  have settled : Settled rust := by decide +kernel
  have unsettled : ¬Settled lodz := by decide +kernel
  refine ⟨⟨first, firstNamed, (found rust first firstNamed).mpr settled⟩, second,
    secondNamed, ?_⟩
  rw [← Bool.not_eq_true, found lodz second secondNamed]
  exact unsettled

/-- The term `tag:Ł` has the normal form of the tag `Ł`, and does not find it. -/
theorem tag_missed_by_own_term :
    let d : Document := ⟨"", "", "tag:Ł"⟩
    TermSense.ofTerm "tag:Ł" = .literal "tag:Ł" ∧ NamesTag "tag:Ł" d.description ∧
      termMatches "tag:Ł" (.ofDocument tagMode d) = false := by
  intro d
  have written : "tag:Ł" = markedTerm ['Ł'] := by decide
  rw [written]
  refine ⟨ofTerm_markedTerm ['Ł'], ⟨['Ł'], by decide, ?_, ?_⟩, ?_⟩
  · rw [bareTerm_markedTerm]
  · rw [bareTerm_markedTerm]
    decide +kernel
  · have unsettled : ¬Settled ['Ł'] := by decide +kernel
    rw [← Bool.not_eq_true]
    exact fun found => unsettled (settled_of_found found)

end BookmarkSearch.Search
