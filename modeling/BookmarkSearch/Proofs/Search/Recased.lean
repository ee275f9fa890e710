import BookmarkSearch.Proofs.Search.Markers
import BookmarkSearch.Proofs.Search.Tags

/-!
Whether the case of letters makes a difference to what literal terms find. All that is matched is in
normal form, and marks and markers have no case; so a change of case makes none exactly if all
letters that it changes commute.
-/

namespace BookmarkSearch.Search

open Unicode Text Query

structure Document.Recased (may : Char → Prop) (d d' : Document) : Prop where
  title : Text.Recased may d.title.toList d'.title.toList
  url : Text.Recased may d.url.toList d'.url.toList
  description : Text.Recased may d.description.toList d'.description.toList

theorem normalize_recased {s t : String} (recased : Recased Commutes s.toList t.toList) :
    Text.normalize t = Text.normalize s := by
  rw [Text.normalize, Text.normalize, normalizeChars_recased recased]

theorem normalizeTerm_recased {s t : String} (recased : Recased Commutes s.toList t.toList) :
    normalizeTerm t = normalizeTerm s := by
  rw [normalizeTerm, normalizeTerm, normalizeChars_recased recased]

theorem rel_getD {α : Type} {R : α → α → Prop} {x y : Option α} {a b : α}
    (related : Option.Rel R x y) (default : R a b) : R (x.getD a) (y.getD b) := by
  cases related with
  | some known => exact known
  | none => exact default

theorem ofLiteral_recased {raw raw' : String}
    (recased : Recased Commutes raw.toList raw'.toList) :
    Matcher.ofLiteral raw' = Matcher.ofLiteral raw := by
  have bare : Recased Commutes (bareTerm raw).toList (bareTerm raw').toList := by
    rw [bareTerm, bareTerm, String.toList_ofList, String.toList_ofList]
    exact rel_getD (recased_afterTagMarker recased) recased
  have tag := normalizeTerm_recased bare
  rw [bareTerm, bareTerm] at tag
  rw [Matcher.ofLiteral, Matcher.ofLiteral, normalizeTerm_recased recased, tag]

theorem map_eq_of_forall₂ {α β : Type} {R : α → α → Prop} {f : α → β} {l l' : List α}
    (same : ∀ a b, R a b → f b = f a) (related : List.Forall₂ R l l') : l'.map f = l.map f := by
  induction related with
  | nil => rfl
  | cons head _ ih => rw [List.map_cons, List.map_cons, same _ _ head, ih]

theorem tagsOf_recased {description description' : String}
    (recased : Recased Commutes description.toList description'.toList) :
    tagsOf description' = tagsOf description := by
  have marked : List.Forall₂ (Recased Commutes) (markedTags description)
      (markedTags description') := by
    rw [markedTags, markedTags, piecesOf, piecesOf, splitAtAll_eq_splitOnP,
      splitAtAll_eq_splitOnP]
    refine List.rel_filterMap ?_ (recased_splitOnP caseless_separatesPieces recased)
    exact fun _ _ piece => recased_afterTagMarker piece
  rw [tagsOf, tagsOf]
  refine congrArg _ (map_eq_of_forall₂ (fun tag tag' same => ?_) marked)
  rw [normalizeChars_recased same]

def joined (between : String) (d : Document) : String :=
  d.title ++ between ++ d.url ++ between ++ d.description

section Documents

variable {may : Char → Prop} {d d' : Document}

theorem joined_recased (between : String) (recased : d.Recased may d') :
    Recased may (joined between d).toList (joined between d').toList := by
  simp only [joined, String.toList_append]
  have front := (recased.title.append (.refl between.toList)).append recased.url
  exact (front.append (.refl between.toList)).append recased.description

/-- All that is matched of a document is in normal form. -/
theorem ofDocument_recased (mode : Mode) (recased : d.Recased Commutes d') :
    Context.ofDocument mode d' = Context.ofDocument mode d := by
  have combined := normalize_recased (joined_recased " " recased)
  have fielded := normalize_recased (joined_recased "\n" recased)
  rw [joined, joined] at combined fielded
  rw [Context.ofDocument, Context.ofDocument, combined, fielded,
    tagsOf_recased recased.description]

theorem termMatches_recased {raw raw' : String} (literal : TermSense.ofTerm raw = .literal raw)
    (recased : Recased Commutes raw.toList raw'.toList) {c : Context}
    (regular : c.mode.allRegex = false) : termMatches raw' c = termMatches raw c := by
  rw [termMatches_of_literal (recased_literal literal recased) regular, ofLiteral_recased recased,
    termMatches_of_literal literal regular]

/-! The words of what is found. -/

theorem termMatches_text_iff {raw : String} (literal : TermSense.ofTerm raw = .literal raw)
    (d : Document) :
    termMatches raw (.ofDocument textMode d) = true ↔
      normalizeTerm raw ≠ "" ∧
        (normalizeTerm raw).toList <:+: normalizeChars (joined " " d).toList := by
  have combined : (Context.ofDocument textMode d).combinedText.toList =
      normalizeChars (joined " " d).toList := by
    rw [Context.ofDocument, Text.normalize, String.toList_ofList, joined]
  rw [termMatches_of_literal literal rfl, ← combined, ← occursIn_iff]
  simp only [Matcher.ofLiteral]
  split
  · rename_i nothing
    simp [Matcher.accepts, nothing.1]
  · rw [accepts_textMode, Bool.and_eq_true, bne_iff_ne]

theorem wordsOf_normalizeTerm (raw : String) :
    wordsOf (normalizeTerm raw).toList = wordsOf (normalizeChars raw.toList) := by
  rw [normalizeTerm, String.toList_ofList, wordsOf_trimBy]

theorem wordsOf_of_found {raw : String} (literal : TermSense.ofTerm raw = .literal raw)
    (found : termMatches raw (.ofDocument textMode d) = true) :
    (wordsOf (normalizeChars raw.toList)).Sublist
      (wordsOf (normalizeChars (joined " " d).toList)) := by
  rw [← wordsOf_normalizeTerm]
  exact ((termMatches_text_iff literal d).mp found).2.sublist.filter _

theorem wordsOf_of_unnamed {raw : String} (unnamed : normalizeTerm raw = "") :
    wordsOf (normalizeChars raw.toList) = [] := by
  rw [← wordsOf_normalizeTerm, unnamed]
  rfl

/-- A term in another case finds the same documents exactly if all letters that it changes commute:
if one does not, the document that is the term itself is no longer found. -/
theorem recased_term_iff {raw raw' : String} (literal : TermSense.ofTerm raw = .literal raw)
    (recased : Recased may raw.toList raw'.toList) :
    (∀ tagsOnly d, termMatches raw' (.ofDocument ⟨tagsOnly, false⟩ d) =
      termMatches raw (.ofDocument ⟨tagsOnly, false⟩ d)) ↔
      Recased Commutes raw.toList raw'.toList := by
  constructor
  · intro agree
    have alike := recased.symm.alike
    refine recased.commutes (eq_of_wordsOf_sublist alike ?_)
    by_cases named : normalizeTerm raw = ""
    · have nothing := length_wordsOf alike
      rw [wordsOf_of_unnamed named, List.length_nil, List.length_eq_zero_iff] at nothing
      rw [nothing]
      exact List.nil_sublist _
    · let own : Document := ⟨raw, "", ""⟩
      have found : termMatches raw (.ofDocument textMode own) = true :=
        termMatches_part List.mem_cons_self List.infix_rfl literal named
      have inside := wordsOf_of_found (recased_literal literal recased)
        ((agree false own).trans found)
      have ownWords : wordsOf (normalizeChars (joined " " own).toList) =
          wordsOf (normalizeChars raw.toList) := by
        obtain ⟨blank, wordless⟩ := normalOf_sign (show signBits.testBit ' '.toNat = true by rfl)
        have blanks : wordsOf (normalizeChars [' ', ' ']) = [] := by
          simp [normalizeChars_eq, wordsOf, blank, wordless]
        have text : (joined " " own).toList = raw.toList ++ [' ', ' '] := by
          simp [joined, own]
        rw [text, normalizeChars_append, wordsOf, List.filter_append, ← wordsOf, ← wordsOf,
          blanks, List.append_nil]
      rwa [ownWords] at inside
  · intro commutes tagsOnly d
    exact termMatches_recased literal commutes rfl

def wholeTerm (d : Document) : String := "!" ++ joined " " d

theorem ofTerm_wholeTerm (d : Document) :
    TermSense.ofTerm (wholeTerm d) = .literal (wholeTerm d) := by
  have text : (wholeTerm d).toList = '!' :: (joined " " d).toList := by simp [wholeTerm]
  rw [ofTerm_eq_literal_iff, text]
  exact ⟨by rw [beginsWith_cons]; rfl, rfl⟩

theorem normalizeTerm_wholeTerm (d : Document) :
    normalizeTerm (wholeTerm d) = normalizeTerm (joined " " d) := by
  obtain ⟨mark, wordless⟩ := normalOf_sign (show signBits.testBit '!'.toNat = true by rfl)
  have text : (wholeTerm d).toList = ['!'] ++ (joined " " d).toList := by simp [wholeTerm]
  rw [normalizeTerm, normalizeTerm, text, normalizeChars_append, normalizeChars_singleton, mark,
    trimBy, trimBy, List.singleton_append, List.dropWhile_cons_of_pos (by rw [wordless]; rfl)]

/-- A document in another case is found by the same terms exactly if all letters that it changes
commute: if one does not, the term that is the document itself does no longer find it. -/
theorem recased_document_iff (recased : d.Recased may d') :
    (∀ tagsOnly raw, TermSense.ofTerm raw = .literal raw →
      termMatches raw (.ofDocument ⟨tagsOnly, false⟩ d') =
        termMatches raw (.ofDocument ⟨tagsOnly, false⟩ d)) ↔
      d.Recased Commutes d' := by
  constructor
  · intro agree
    have alike := (joined_recased " " recased).alike
    have same : normalizeChars (joined " " d).toList = normalizeChars (joined " " d').toList := by
      refine eq_of_wordsOf_sublist alike ?_
      by_cases named : normalizeTerm (joined " " d) = ""
      · rw [wordsOf_of_unnamed named]
        exact List.nil_sublist _
      · have found : termMatches (wholeTerm d) (.ofDocument textMode d) = true := by
          rw [termMatches_text_iff (ofTerm_wholeTerm d), normalizeTerm_wholeTerm]
          exact ⟨named, normalizeTerm_part List.infix_rfl⟩
        have inside := wordsOf_of_found (ofTerm_wholeTerm d)
          ((agree false _ (ofTerm_wholeTerm d)).trans found)
        rwa [← wordsOf_normalizeTerm, normalizeTerm_wholeTerm, wordsOf_normalizeTerm] at inside
    simp only [joined, String.toList_append, normalizeChars_append] at same
    obtain ⟨front, description⟩ := List.append_inj' same
      recased.description.alike.length_eq
    obtain ⟨front, -⟩ := List.append_inj' front rfl
    obtain ⟨front, url⟩ := List.append_inj' front recased.url.alike.length_eq
    obtain ⟨title, -⟩ := List.append_inj' front rfl
    exact ⟨recased.title.commutes title.symm, recased.url.commutes url.symm,
      recased.description.commutes description.symm⟩
  · intro commutes tagsOnly raw _
    rw [ofDocument_recased ⟨tagsOnly, false⟩ commutes]

end Documents

def anyLetter (_ : Char) : Prop := True

/-- The odd letters are those that do not commute. A text is left as it is by a second
normalization exactly if its letters settle, as those do that commute. In another case it has the
same normal form, and as a literal term it finds the same documents, exactly if all letters whose
case is changed commute; and so it is with a document and the literal terms that find it. -/
theorem case_ignored_iff {s s' : String} {d d' : Document}
    (text : Recased anyLetter s.toList s'.toList) (document : d.Recased anyLetter d') :
    (∀ c, (Commutes c ↔ c.toNat ∉ oddLetters) ∧ (Commutes c → Settles c)) ∧
    (Text.normalize (Text.normalize s) = Text.normalize s ↔ ∀ c ∈ s.toList, Settles c) ∧
    (Text.normalize s' = Text.normalize s ↔ Recased Commutes s.toList s'.toList) ∧
    (TermSense.ofTerm s = .literal s →
      TermSense.ofTerm s' = .literal s' ∧
      ((∀ tagsOnly e, termMatches s' (.ofDocument ⟨tagsOnly, false⟩ e) =
          termMatches s (.ofDocument ⟨tagsOnly, false⟩ e)) ↔
        Recased Commutes s.toList s'.toList)) ∧
    ((∀ tagsOnly raw, TermSense.ofTerm raw = .literal raw →
        termMatches raw (.ofDocument ⟨tagsOnly, false⟩ d') =
          termMatches raw (.ofDocument ⟨tagsOnly, false⟩ d)) ↔
      d.Recased Commutes d') := by
  refine ⟨fun c => ⟨commutes_iff c, settles_of_commutes⟩, ?_, ?_,
    fun literal => ⟨recased_literal literal text, recased_term_iff literal text⟩,
    recased_document_iff document⟩
  · rw [← normalizeChars_twice_iff, Text.normalize, Text.normalize, String.toList_ofList,
      String.ofList_inj]
  · rw [← text.normalizeChars_iff, Text.normalize, Text.normalize, String.ofList_inj]

/-- Accents do not stand in the way of case, in a term or in a tag. -/
theorem case_ignored_on_accents :
    let d : Document := ⟨"ÉLAN", "", "TAG:Élan"⟩
    let d' : Document := ⟨"élan", "", "tag:élan"⟩
    (Recased anyLetter "ÉLAN".toList "élan".toList ∧ d.Recased anyLetter d') ∧
      Text.normalize (Text.normalize "ÉLAN") = Text.normalize "ÉLAN" ∧
      Text.normalize "élan" = Text.normalize "ÉLAN" ∧
      (∀ tagsOnly d, termMatches "élan" (.ofDocument ⟨tagsOnly, false⟩ d) =
        termMatches "ÉLAN" (.ofDocument ⟨tagsOnly, false⟩ d)) ∧
      ∀ tagsOnly, termMatches "tag:élan" (.ofDocument ⟨tagsOnly, false⟩ d') =
        termMatches "tag:élan" (.ofDocument ⟨tagsOnly, false⟩ d) := by
  intro d d'
  have commute : ("ÉLAN".toList ++ "TAG:Élan".toList).all (Commutes ·) = true := by decide +kernel
  simp only [List.all_append, Bool.and_eq_true, List.all_eq_true, decide_eq_true_eq] at commute
  obtain ⟨title, description⟩ := commute
  have lowerTitle : "ÉLAN".toList.flatMap lowerCase = "élan".toList := by decide +kernel
  have lowerTag : "TAG:Élan".toList.flatMap lowerCase = "tag:élan".toList := by decide +kernel
  have any {cs : List Char} : ∀ c ∈ cs, anyLetter c := fun _ _ => trivial
  have recased := Recased.of_lowerCase any lowerTitle
  have recasedTitle := Recased.of_lowerCase title lowerTitle
  have recasedTag := Recased.of_lowerCase description lowerTag
  have recasedDocument : d.Recased anyLetter d' := ⟨recased, .nil, .of_lowerCase any lowerTag⟩
  obtain ⟨letters, stable, normal, term, document⟩ := case_ignored_iff recased recasedDocument
  refine ⟨⟨recased, recasedDocument⟩, ?_, ?_, ?_, fun tagsOnly => ?_⟩
  · exact stable.mpr fun c member => (letters c).2 (title c member)
  · exact normal.mpr recasedTitle
  · exact (term (by decide)).2.mpr recasedTitle
  · have literal : TermSense.ofTerm "tag:élan" = .literal "tag:élan" := by decide
    exact document.mpr ⟨recasedTitle, .nil, recasedTag⟩ tagsOnly "tag:élan" literal

/-- The lower case of Ł has a plain letter, and Ł has none. So the normal form of Ł is not that of
its lower case, and not stable; and a document named Łódź is not found by the term in lower case. -/
theorem case_told_by_stroke :
    let d : Document := ⟨"Łódź", "", ""⟩
    (lowerCase 'Ł' = ['ł'] ∧ Text.normalize "Ł" = "ł" ∧ Text.normalize "ł" = "l" ∧
        Text.normalize (Text.normalize "Ł") ≠ Text.normalize "Ł") ∧
      Recased anyLetter "Łódź".toList "łódź".toList ∧
      TermSense.ofTerm "Łódź" = .literal "Łódź" ∧ TermSense.ofTerm "łódź" = .literal "łódź" ∧
      termMatches "Łódź" (.ofDocument ⟨false, false⟩ d) = true ∧
      termMatches "łódź" (.ofDocument ⟨false, false⟩ d) = false := by
  have lower : "Łódź".toList.flatMap lowerCase = "łódź".toList := by decide +kernel
  refine ⟨by decide +kernel, ?_, by decide, by decide, by decide +kernel, by decide +kernel⟩
  exact .of_lowerCase (fun _ _ => trivial) lower

end BookmarkSearch.Search
