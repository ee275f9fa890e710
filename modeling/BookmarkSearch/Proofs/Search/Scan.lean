import Mathlib.Data.List.TakeWhile
import BookmarkSearch.Proofs.Query.Terms
import BookmarkSearch.Search.Outcome

/-!
A search is the plain scan: it finds the documents that the query holds of, each term being compiled
anew for each document, although it compiles each distinct term only once. The terms it reports with
a hit are enough to see why the query holds there.
-/

namespace BookmarkSearch.Query

namespace Expression

section Eval

variable (holds : String → Bool)

@[simp] theorem eval_term (text : String) : (term text).eval holds = holds text := rfl

@[simp] theorem eval_not (e : Expression) : e.not.eval holds = !e.eval holds := rfl

@[simp] theorem eval_and (l r : Expression) :
    (l.and r).eval holds = (l.eval holds && r.eval holds) := rfl

@[simp] theorem eval_or (l r : Expression) :
    (l.or r).eval holds = (l.eval holds || r.eval holds) := rfl

end Eval

/-- What an expression says depends on its own terms only. -/
theorem eval_congr {f g : String → Bool} (e : Expression) (same : ∀ raw ∈ e.texts, f raw = g raw) :
    e.eval f = e.eval g := by
  induction e with
  | term text => exact same text (List.mem_singleton_self text)
  | not e ih => rw [eval_not, eval_not, ih same]
  | and l r left right =>
    have here := left fun raw member => same raw (List.mem_append_left _ member)
    have there := right fun raw member => same raw (List.mem_append_right _ member)
    rw [eval_and, eval_and, here, there]
  | or l r left right =>
    have here := left fun raw member => same raw (List.mem_append_left _ member)
    have there := right fun raw member => same raw (List.mem_append_right _ member)
    rw [eval_or, eval_or, here, there]

end Expression

theorem isAllBlank_of_accepted {query : String} {text : QueryText}
    (accepted : QueryText.ofString query = .ok text) : Unicode.isAllBlank query = false := by
  unfold QueryText.ofString at accepted
  split at accepted
  · cases accepted
  · rename_i nonempty
    rw [← Bool.not_eq_true]
    intro blank
    apply nonempty
    have nothing : query.toList.dropWhile Unicode.isBlank = [] :=
      List.dropWhile_eq_nil_iff.mpr (List.all_eq_true.mp blank)
    rw [Unicode.trim, Unicode.trimBy, nothing]
    rfl

end BookmarkSearch.Query

namespace BookmarkSearch.Search

open Query

/-! Compiling once and compiling anew. -/

namespace Matcher

def ofTerm (raw : String) (allRegex : Bool) : Matcher :=
  (compile raw allRegex).toOption.getD .never

end Matcher

theorem termMatches_eq (raw : String) (c : Context) :
    termMatches raw c = (Matcher.ofTerm raw c.mode.allRegex).accepts c := by
  rw [termMatches, Matcher.ofTerm]
  cases Matcher.compile raw c.mode.allRegex <;> rfl

/-- A term that is new is added with the matcher that stands for it, whether it can be compiled or
not. -/
theorem compileTerms_new {allRegex : Bool} {done : List (String × Matcher)} {raw : String}
    (fresh : done.lookup raw = none) (rest : List String) :
    (compileTerms allRegex done (raw :: rest)).1 =
      (compileTerms allRegex (done ++ [(raw, .ofTerm raw allRegex)]) rest).1 := by
  rw [compileTerms, fresh, Matcher.ofTerm]
  cases Matcher.compile raw allRegex <;> rfl

theorem compileTerms_known {allRegex : Bool} {done : List (String × Matcher)} {raw : String}
    {m : Matcher} (known : done.lookup raw = some m) (rest : List String) :
    compileTerms allRegex done (raw :: rest) = compileTerms allRegex done rest := by
  rw [compileTerms, known]
  rfl

/-- What has been compiled stays in its place. -/
theorem lookup_compileTerms_done {allRegex : Bool} {done : List (String × Matcher)} {raw : String}
    {m : Matcher} (known : done.lookup raw = some m) (raws : List String) :
    (compileTerms allRegex done raws).1.lookup raw = some m := by
  induction raws generalizing done with
  | nil => exact known
  | cons first rest ih =>
    cases found : done.lookup first with
    | some _ =>
      rw [compileTerms_known found]
      exact ih known
    | none =>
      rw [compileTerms_new found]
      apply ih
      rw [List.lookup_append, known]
      rfl

/-- Each term finds the matcher that stands for it, wherever the term first occurs. -/
theorem lookup_compileTerms {allRegex : Bool} {done : List (String × Matcher)}
    (faithful : ∀ raw m, done.lookup raw = some m → m = .ofTerm raw allRegex) {raws : List String}
    {raw : String} (member : raw ∈ raws) :
    (compileTerms allRegex done raws).1.lookup raw = some (.ofTerm raw allRegex) := by
  -- `done` stays faithful along the list: a text is added only where none of its kind is known.
  induction raws generalizing done with
  | nil => cases member
  | cons first rest ih =>
    cases found : done.lookup first with
    | some m =>
      rw [compileTerms_known found]
      rcases List.mem_cons.mp member with rfl | later
      · rw [lookup_compileTerms_done found, faithful _ _ found]
      · exact ih faithful later
    | none =>
      rw [compileTerms_new found]
      have added : (done ++ [(first, Matcher.ofTerm first allRegex)]).lookup first =
          some (.ofTerm first allRegex) := by
        rw [List.lookup_append, found]
        simp
      rcases List.mem_cons.mp member with rfl | later
      · exact lookup_compileTerms_done added rest
      · refine ih (fun other m known => ?_) later
        rw [List.lookup_append, Option.or_eq_some_iff] at known
        rcases known with earlier | ⟨-, now⟩
        · exact faithful other m earlier
        · rw [List.lookup_cons] at now
          split at now
          · rename_i same
            rw [beq_iff_eq.mp same]
            exact (Option.some.inj now).symm
          · cases now

/-! A prepared query. -/

def expressionOf (config : Config) (text : QueryText) : Option Expression :=
  parse ((tokenize text.text).take config.maxTokens) config.maxDepth

section Prepared

variable (config : Config) (text : QueryText)

theorem ofQuery_expression :
    (Prepared.ofQuery config text).expression = expressionOf config text := rfl

theorem ofQuery_terms :
    (Prepared.ofQuery config text).terms = (expressionOf config text).elim [] Expression.terms :=
  rfl

theorem ofQuery_raws :
    (Prepared.ofQuery config text).terms.map QueryTerm.raw =
      treeTexts (expressionOf config text) := by
  rw [ofQuery_terms]
  cases expressionOf config text with
  | none => rfl
  | some e => exact Expression.termsUnder_raw false e

variable {config text}

theorem ofQuery_accepts {c : Context} (mode : c.mode = config.mode) {raw : String}
    (member : raw ∈ (Prepared.ofQuery config text).terms.map QueryTerm.raw) :
    (Prepared.ofQuery config text).accepts c raw = termMatches raw c := by
  have found : (Prepared.ofQuery config text).matchers.lookup raw =
      some (.ofTerm raw config.mode.allRegex) := by
    apply lookup_compileTerms _ member
    intro other m known
    cases known
  rw [Prepared.accepts, found, termMatches_eq, mode]
  rfl

theorem ofQuery_holds {c : Context} (mode : c.mode = config.mode) :
    (Prepared.ofQuery config text).holds c = queryHolds (expressionOf config text) c := by
  have accepts : ∀ raw ∈ treeTexts (expressionOf config text),
      (Prepared.ofQuery config text).accepts c raw = termMatches raw c := by
    rw [← ofQuery_raws]
    exact fun raw member => ofQuery_accepts mode member
  rw [Prepared.holds, queryHolds, ofQuery_expression]
  cases same : expressionOf config text with
  | none => rfl
  | some e =>
    rw [same] at accepts
    exact e.eval_congr accepts

theorem ofQuery_matchedTerms {c : Context} (mode : c.mode = config.mode) :
    (Prepared.ofQuery config text).matchedTerms c =
      (Prepared.ofQuery config text).terms.filter fun t => termMatches t.raw c :=
  List.filter_congr fun _ member => ofQuery_accepts mode (List.mem_map_of_mem member)

end Prepared

/-! Hits. -/

def reported (matched : List QueryTerm) (raw : String) : Bool := matched.any (·.raw == raw)

theorem isMatched_eq_reported (h : Hit) (t : QueryTerm) :
    h.isMatched t = reported h.matched t.raw := rfl

theorem reported_filter (p : String → Bool) {terms : List QueryTerm} {raw : String}
    (member : raw ∈ terms.map QueryTerm.raw) :
    reported (terms.filter fun t => p t.raw) raw = p raw := by
  rw [Bool.eq_iff_iff, reported, List.any_eq_true]
  constructor
  · rintro ⟨t, kept, same⟩
    rw [← beq_iff_eq.mp same]
    exact (List.mem_filter.mp kept).2
  · intro holds
    obtain ⟨t, present, rfl⟩ := List.mem_map.mp member
    exact ⟨t, List.mem_filter.mpr ⟨present, holds⟩, beq_self_eq_true t.raw⟩

/-- The terms reported to match a document decide whether the query holds of it. -/
theorem eval_reported (config : Config) (text : QueryText) {c : Context}
    (mode : c.mode = config.mode) :
    ((expressionOf config text).any fun e =>
        e.eval (reported ((Prepared.ofQuery config text).matchedTerms c))) =
      queryHolds (expressionOf config text) c := by
  -- Only texts of the query's own terms are asked for, and these are all found among its terms.
  have decided : ∀ raw ∈ treeTexts (expressionOf config text),
      reported ((Prepared.ofQuery config text).matchedTerms c) raw = termMatches raw c := by
    intro raw member
    rw [ofQuery_matchedTerms mode]
    exact reported_filter (termMatches · c) (by rwa [ofQuery_raws])
  rw [queryHolds]
  cases same : expressionOf config text with
  | none => rfl
  | some e =>
    rw [same] at decided
    exact e.eval_congr decided

/-- The documents that a query holds of, in their order and with their places. Every term is
compiled anew for every document. With a hit come the terms of the query that match it. -/
def scanHits (e : Option Expression) (mode : Mode) (documents : List Document) : List Hit :=
  (documents.zipIdx.filter fun d => queryHolds e (.ofDocument mode d.1)).map fun d =>
    ⟨d.2, d.1, (e.elim [] Expression.terms).filter fun t =>
      termMatches t.raw (.ofDocument mode d.1)⟩

theorem run_hits (config : Config) (text : QueryText) (documents : List Document) :
    ((Prepared.ofQuery config text).run documents).hits =
      scanHits (expressionOf config text) config.mode documents := by
  rw [scanHits, ← List.filterMap_eq_map, List.filterMap_filter]
  refine congrArg (List.filterMap · documents.zipIdx) (funext fun (d, place) => ?_)
  have mode : ((Prepared.ofQuery config text).contextOf d).mode = config.mode := rfl
  change (Prepared.ofQuery config text).hit? d place = _
  rw [Prepared.hit?, ofQuery_holds mode, ofQuery_matchedTerms mode]
  rfl

theorem search_accepted {query : String} {text : QueryText}
    (accepted : QueryText.ofString query = .ok text) (config : Config)
    (documents : List Document) :
    search config query documents = .ok ((Prepared.ofQuery config text).run documents) := by
  rw [search, isAllBlank_of_accepted accepted, accepted]
  rfl

/-- A document without a hit is one the query does not hold of. -/
theorem queryHolds_of_no_hit {e : Option Expression} {mode : Mode} {documents : List Document}
    {place : Nat} {d : Document} (there : documents[place]? = some d)
    (missed : ∀ h ∈ scanHits e mode documents, h.place ≠ place) :
    queryHolds e (.ofDocument mode d) = false := by
  rw [← Bool.not_eq_true]
  intro holds
  have member : (d, place) ∈ documents.zipIdx := List.mk_mem_zipIdx_iff_getElem?.mpr there
  have found : (d, place) ∈
      documents.zipIdx.filter fun d => queryHolds e (.ofDocument mode d.1) :=
    List.mem_filter.mpr ⟨member, holds⟩
  exact missed _ (List.mem_map_of_mem found) rfl

/-- What a scan for `e` comes to. The hits are the documents that `e` holds of, and a term is marked
as matched in a hit if it matches there. The terms that match a document are enough to show that `e`
holds of a hit, and that it does not hold of any other document. -/
structure IsScan (e : Option Expression) (mode : Mode) (matchedTerms : Context → List QueryTerm)
    (documents : List Document) (o : Outcome) : Prop where
  terms : o.terms = e.elim [] Expression.terms
  scanned : o.scanned = documents.length
  hits : o.hits = scanHits e mode documents
  marked : ∀ h ∈ o.hits, ∀ t ∈ o.terms,
    h.isMatched t = termMatches t.raw (.ofDocument mode h.document)
  hit_shown : ∀ h ∈ o.hits, (e.any fun e => e.eval (reported h.matched)) = true
  miss_shown : ∀ place d, documents[place]? = some d → (∀ h ∈ o.hits, h.place ≠ place) →
    (e.any fun e => e.eval (reported (matchedTerms (.ofDocument mode d)))) = false

/-- A query that is accepted is answered by the scan for what its first tokens are read as. -/
theorem search_is_scan {query : String} {text : QueryText}
    (accepted : QueryText.ofString query = .ok text) (config : Config)
    (documents : List Document) :
    ∃ o, search config query documents = .ok o ∧
      IsScan (parse ((tokenize text.text).take config.maxTokens) config.maxDepth) config.mode
        (Prepared.ofQuery config text).matchedTerms documents o := by
  have hits := run_hits config text documents
  refine ⟨_, search_accepted accepted config documents, rfl, rfl, hits, ?_, ?_, ?_⟩
  · intro h member t present
    rw [hits] at member
    obtain ⟨⟨d, place⟩, -, rfl⟩ := List.mem_map.mp member
    rw [isMatched_eq_reported]
    exact reported_filter (termMatches · _) (List.mem_map_of_mem present)
  · intro h member
    rw [hits] at member
    obtain ⟨⟨d, place⟩, found, rfl⟩ := List.mem_map.mp member
    have holds := (List.mem_filter.mp found).2
    have mode : (Context.ofDocument config.mode d).mode = config.mode := rfl
    have decided := eval_reported config text mode
    rw [ofQuery_matchedTerms mode] at decided
    exact decided.trans holds
  · intro place d there missed
    rw [hits] at missed
    have mode : (Context.ofDocument config.mode d).mode = config.mode := rfl
    exact (eval_reported config text mode).trans (queryHolds_of_no_hit there missed)

/-- A query between blanks, in which a term that cannot be compiled and one that stands under both
polarities occur twice. -/
theorem search_is_scan_malformed :
    let text : QueryText := ⟨"re:( go OR NOT go re:(", by decide, by decide, by decide⟩
    let documents : List Document := [⟨"Go", "https://go.dev", ""⟩, ⟨"Rust", "", "tag:rust"⟩]
    QueryText.ofString " re:( go OR NOT go re:( " = .ok text ∧
      ∃ o, search .default " re:( go OR NOT go re:( " documents = .ok o ∧ o.scanned = 2 ∧
        IsScan (parse ((tokenize text.text).take 256)) ⟨false, false⟩
          (Prepared.ofQuery .default text).matchedTerms documents o := by
  intro text documents
  have accepted : QueryText.ofString " re:( go OR NOT go re:( " = .ok text := by decide
  obtain ⟨o, answer, scan⟩ := search_is_scan accepted .default documents
  exact ⟨accepted, o, answer, scan.scanned, scan⟩

end BookmarkSearch.Search
