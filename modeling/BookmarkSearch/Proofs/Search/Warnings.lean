import BookmarkSearch.Proofs.Search.Phrase

/-!
What a query is warned of: that it has been cut, if it has, and each text of a term once whose
pattern is refused, with the cause, in the order in which they are first used. However often and
under whatever NOTs such a term stands in the query, it matches nothing; and each run of the query
repeats the warnings.
-/

namespace BookmarkSearch.Search

open Query

/-- Whether a term stands for a pattern, by its own marks or because all terms do, and one that is
not empty and is refused for a cause. -/
def Refused (allRegex : Bool) (raw : String) (cause : Regex.RegexError) : Prop :=
  ∃ source,
    (TermSense.ofTerm raw = .regex source ∨
      allRegex = true ∧ TermSense.ofTerm raw = .literal source) ∧
    source ≠ "" ∧ Regex.compile source = .error cause

theorem resolve_eq_regex_iff {raw source : String} {allRegex : Bool} :
    TermSense.resolve raw allRegex = .regex source ↔
      TermSense.ofTerm raw = .regex source ∨
        allRegex = true ∧ TermSense.ofTerm raw = .literal source := by
  rw [TermSense.resolve]
  cases TermSense.ofTerm raw with
  | regex own => simp
  | literal text => cases allRegex <;> simp

theorem compile_eq_error_iff {raw : String} {allRegex : Bool} {cause : Regex.RegexError} :
    Matcher.compile raw allRegex = .error cause ↔ Refused allRegex raw cause := by
  simp only [Refused, ← resolve_eq_regex_iff, Matcher.compile]
  cases TermSense.resolve raw allRegex with
  | literal text => simp
  | regex source =>
    by_cases empty : source = ""
    · simp [empty]
    · cases compiled : Regex.compile source <;> simp [empty, compiled, Except.map]

def refusal? (allRegex : Bool) (raw : String) : Option Regex.RegexError :=
  match Matcher.compile raw allRegex with
  | .error cause => some cause
  | .ok _ => none

theorem refusal?_eq_some_iff {raw : String} {allRegex : Bool} {cause : Regex.RegexError} :
    refusal? allRegex raw = some cause ↔ Refused allRegex raw cause := by
  rw [← compile_eq_error_iff, refusal?]
  cases Matcher.compile raw allRegex <;> simp

theorem ofTerm_refused {raw : String} {allRegex : Bool} {cause : Regex.RegexError}
    (refused : Refused allRegex raw cause) : Matcher.ofTerm raw allRegex = .never := by
  rw [Matcher.ofTerm, compile_eq_error_iff.mpr refused]
  rfl

def refusals (allRegex : Bool) (raws : List String) : List (String × Regex.RegexError) :=
  raws.filterMap fun raw => (refusal? allRegex raw).map fun cause => (raw, cause)

theorem mem_refusals {allRegex : Bool} {raws : List String} {r : String × Regex.RegexError} :
    r ∈ refusals allRegex raws ↔ r.1 ∈ raws ∧ Refused allRegex r.1 r.2 := by
  obtain ⟨raw, cause⟩ := r
  simp only [refusals, List.mem_filterMap, Option.map_eq_some_iff, refusal?_eq_some_iff]
  constructor
  · rintro ⟨_, member, _, refused, ⟨⟩⟩
    exact ⟨member, refused⟩
  · rintro ⟨member, refused⟩
    exact ⟨raw, member, cause, refused, rfl⟩

/-! The order of first use. -/

theorem idxOf_of_filter {α : Type} [BEq α] [LawfulBEq α] (p : α → Bool) {l : List α} {a b : α}
    (keptA : p a) (keptB : p b) (first : (l.filter p).idxOf a < (l.filter p).idxOf b) :
    l.idxOf a < l.idxOf b := by
  induction l with
  | nil => exact first
  | cons c rest ih =>
    cases kept : p c with
    | false =>
      rw [List.filter_cons_of_neg (by simp [kept])] at first
      have otherA : (c == a) = false := beq_eq_false_iff_ne.mpr fun same => by simp_all
      have otherB : (c == b) = false := beq_eq_false_iff_ne.mpr fun same => by simp_all
      simp only [List.idxOf_cons, otherA, otherB, cond_false]
      exact Nat.succ_lt_succ (ih first)
    | true =>
      rw [List.filter_cons_of_pos kept] at first
      simp only [List.idxOf_cons] at first ⊢
      revert first
      cases c == b with
      | true => exact fun before => absurd before (Nat.not_lt_zero _)
      | false =>
        cases c == a with
        | true => exact fun _ => Nat.succ_pos _
        | false => exact fun first => Nat.succ_lt_succ (ih (Nat.lt_of_succ_lt_succ first))

/-- What is left without repetitions stands in the order of first use. -/
theorem eraseDups_pairwise {α : Type} [BEq α] [LawfulBEq α] (l : List α) :
    l.eraseDups.Pairwise fun a b => l.idxOf a < l.idxOf b := by
  induction size : l.length using Nat.strong_induction_on generalizing l with
  | _ n ih =>
    cases l with
    | nil => exact .nil
    | cons c rest =>
      let others := rest.filter fun b => !b == c
      have shorter : others.length < n := by
        rw [← size]
        exact Nat.lt_succ_of_le (List.length_filter_le _ rest)
      have apart : ∀ {b}, b ∈ others.eraseDups → (!b == c) = true := fun member =>
        (List.mem_filter.mp (List.mem_eraseDups.mp member)).2
      have later : ∀ {b}, (!b == c) = true → (c :: rest).idxOf b = rest.idxOf b + 1 := by
        intro b other
        have differs : (c == b) = false := by
          rw [BEq.comm, ← Bool.not_eq_true']
          exact other
        rw [List.idxOf_cons, differs, cond_false]
      rw [List.eraseDups_cons, List.pairwise_cons]
      constructor
      · intro b member
        rw [List.idxOf_cons_self, later (apart member)]
        exact Nat.succ_pos _
      · refine (ih _ shorter others rfl).imp_of_mem fun memberA memberB first => ?_
        rw [later (apart memberA), later (apart memberB)]
        exact Nat.succ_lt_succ (idxOf_of_filter _ (apart memberA) (apart memberB) first)

/-! The warnings of compiling. -/

theorem compileTerms_new_warnings {allRegex : Bool} {done : List (String × Matcher)} {raw : String}
    (fresh : done.lookup raw = none) (rest : List String) :
    (compileTerms allRegex done (raw :: rest)).2 =
      (refusals allRegex [raw]).map (fun r => .invalidRegex r.1 r.2) ++
        (compileTerms allRegex (done ++ [(raw, .ofTerm raw allRegex)]) rest).2 := by
  rw [compileTerms, fresh, Matcher.ofTerm, refusals, List.filterMap_cons, refusal?]
  cases Matcher.compile raw allRegex <;> rfl

/-- Compiling warns of each refused text that is new to it, once and in the order of first use. -/
theorem compileTerms_warnings (allRegex : Bool) (done : List (String × Matcher))
    (raws : List String) :
    (compileTerms allRegex done raws).2 =
      (refusals allRegex (raws.filter fun raw => (done.lookup raw).isNone).eraseDups).map
        fun r => .invalidRegex r.1 r.2 := by
  -- What is done grows along the list, and the texts that are new to it are those that have not
  -- been used before.
  induction raws generalizing done with
  | nil => rfl
  | cons raw rest ih =>
    cases found : done.lookup raw with
    | some m =>
      rw [compileTerms_known found, ih, List.filter_cons_of_neg (by simp [found])]
    | none =>
      have fresh :
          (fun other => ((done ++ [(raw, Matcher.ofTerm raw allRegex)]).lookup other).isNone) =
            fun other => (!other == raw) && (done.lookup other).isNone := by
        funext other
        rw [List.lookup_append, List.lookup_cons]
        cases done.lookup other <;> cases other == raw <;> rfl
      have first : (raw :: rest).filter (fun other => (done.lookup other).isNone) =
          raw :: rest.filter fun other => (done.lookup other).isNone :=
        List.filter_cons_of_pos (by rw [found]; rfl)
      rw [compileTerms_new_warnings found, ih, first, fresh, List.eraseDups_cons,
        ← List.filter_filter, ← List.map_append, refusals, refusals, ← List.filterMap_append]
      rfl

/-! The warnings of a query. -/

def keptTexts (config : Config) (text : QueryText) : List String :=
  termTexts ((tokenize text.text).take config.maxTokens)

theorem ofQuery_keptTexts (config : Config) (text : QueryText) :
    (Prepared.ofQuery config text).terms.map QueryTerm.raw = keptTexts config text := by
  rw [ofQuery_raws, expressionOf, parse_texts, keptTexts]

theorem ofQuery_refused {config : Config} {text : QueryText} {raw : String}
    {cause : Regex.RegexError} (member : raw ∈ keptTexts config text)
    (refused : Refused config.mode.allRegex raw cause) (c : Context) :
    (Prepared.ofQuery config text).accepts c raw = false := by
  have found : (Prepared.ofQuery config text).matchers.lookup raw = some .never := by
    rw [← ofTerm_refused refused]
    apply lookup_compileTerms
    · intro other m known
      cases known
    · exact (ofQuery_keptTexts config text).symm ▸ member
  rw [Prepared.accepts, found]
  rfl

theorem termMatches_refused {raw : String} {c : Context} {cause : Regex.RegexError}
    (refused : Refused c.mode.allRegex raw cause) : termMatches raw c = false := by
  rw [termMatches_eq, ofTerm_refused refused]
  rfl

theorem run_refused {config : Config} {text : QueryText} {t : QueryTerm}
    {cause : Regex.RegexError} (member : t.raw ∈ keptTexts config text)
    (refused : Refused config.mode.allRegex t.raw cause) {documents : List Document} {h : Hit}
    (hit : h ∈ ((Prepared.ofQuery config text).run documents).hits) : h.isMatched t = false := by
  rw [run_hits] at hit
  obtain ⟨⟨d, place⟩, -, rfl⟩ := List.mem_map.mp hit
  have present : t.raw ∈ (Prepared.ofQuery config text).terms.map QueryTerm.raw :=
    (ofQuery_keptTexts config text).symm ▸ member
  rw [isMatched_eq_reported]
  exact (reported_filter (termMatches · _) present).trans (termMatches_refused refused)

/-- That `refused` are the texts a query is warned of after it has been cut, or not, each with the
cause it is refused for. -/
structure IsWarned (config : Config) (text : QueryText)
    (refused : List (String × Regex.RegexError)) : Prop where
  warnings : (Prepared.ofQuery config text).warnings =
    (if config.maxTokens < (tokenize text.text).length then
      [.truncated config.maxTokens ((tokenize text.text).length - config.maxTokens)]
    else []) ++ refused.map fun r => .invalidRegex r.1 r.2
  complete : ∀ raw cause, (raw, cause) ∈ refused ↔
    raw ∈ keptTexts config text ∧ Refused config.mode.allRegex raw cause
  first_use : refused.Pairwise fun a b =>
    (keptTexts config text).idxOf a.1 < (keptTexts config text).idxOf b.1
  matchless : ∀ r ∈ refused, ∀ c, (Prepared.ofQuery config text).accepts c r.1 = false ∧
    (c.mode.allRegex = config.mode.allRegex → termMatches r.1 c = false)
  unmarked : ∀ t : QueryTerm, t.raw ∈ refused.map Prod.fst → ∀ documents,
    ∀ h ∈ ((Prepared.ofQuery config text).run documents).hits, h.isMatched t = false
  repeated : ∀ documents, ((Prepared.ofQuery config text).run documents).warnings =
    (Prepared.ofQuery config text).warnings
  searched : ∀ query, QueryText.ofString query = .ok text → ∀ documents, ∃ o,
    search config query documents = .ok o ∧ o.warnings = (Prepared.ofQuery config text).warnings

/-- A query is warned of a cut exactly if it has been cut, and then once of each text of a term that
is left whose pattern is refused, in the order of first use. No such term matches any document. -/
theorem ofQuery_isWarned (config : Config) (text : QueryText) :
    IsWarned config text (refusals config.mode.allRegex (keptTexts config text).eraseDups) := by
  have member : ∀ r, r ∈ refusals config.mode.allRegex (keptTexts config text).eraseDups ↔
      r.1 ∈ keptTexts config text ∧ Refused config.mode.allRegex r.1 r.2 := by
    intro r
    rw [mem_refusals, List.mem_eraseDups]
  refine ⟨?_, fun raw cause => member (raw, cause), ?_, ?_, ?_, fun _ => rfl, ?_⟩
  · have unknown : (keptTexts config text).filter
        (fun raw => (([] : List (String × Matcher)).lookup raw).isNone) = keptTexts config text :=
      List.filter_eq_self.mpr fun _ _ => rfl
    rw [ofQuery_warnings, ofQuery_keptTexts, compileTerms_warnings, unknown, truncationWarnings]
  · refine List.pairwise_filterMap.mpr ((eraseDups_pairwise (keptTexts config text)).imp ?_)
    intro a b first r here s there
    obtain ⟨_, -, rfl⟩ := Option.map_eq_some_iff.mp here
    obtain ⟨_, -, rfl⟩ := Option.map_eq_some_iff.mp there
    exact first
  · intro r warned c
    obtain ⟨kept, refused⟩ := (member r).mp warned
    exact ⟨ofQuery_refused kept refused c, fun same => termMatches_refused (same ▸ refused)⟩
  · intro t warned documents h hit
    obtain ⟨r, listed, same⟩ := List.mem_map.mp warned
    obtain ⟨kept, refused⟩ := (member r).mp listed
    rw [same] at kept refused
    exact run_refused kept refused hit
  · intro query accepted documents
    exact ⟨_, search_accepted accepted config documents, rfl⟩

/-- A malformed term under both polarities, another that is the same pattern by other marks, and one
behind the cut. -/
example :
    (Prepared.ofQuery { Config.default with maxTokens := 6 }
        ⟨"re:( go NOT re:( /(/ go re:[", by decide, by decide, by decide⟩).warnings =
      [.truncated 6 1, .invalidRegex "re:(" .malformed, .invalidRegex "/(/" .malformed] := by
  decide +kernel

end BookmarkSearch.Search
