import BookmarkSearch.Query.QueryText
import BookmarkSearch.Search.Matcher
import BookmarkSearch.Text.Quoted

/-!
A query prepared once and run over many documents. Each distinct term is compiled once; whatever is
wrong with a query becomes a warning and never an error.
-/

namespace BookmarkSearch.Search

open Query

def defaultMaxTokens : Nat := 256

structure Config where
  mode : Mode
  maxDepth : Nat
  maxTokens : Nat
deriving DecidableEq, Repr

namespace Config

def default : Config := ⟨⟨false, false⟩, defaultLimit, defaultMaxTokens⟩

end Config

inductive Warning where
  | invalidRegex (term : String) (cause : Regex.RegexError)
  | truncated (kept dropped : Nat)
deriving DecidableEq, Repr

namespace Warning

/-- The text of a warning. The one about an expression ends before the wording of the cause. -/
def message : Warning → String
  | .invalidRegex term _ => "invalid regular expression in " ++ Text.quoted term ++ ": "
  | .truncated kept dropped =>
    "query too long: kept " ++ toString kept ++ " tokens, dropped " ++ toString dropped

end Warning

structure Prepared where
  expression : Option Expression
  terms : List QueryTerm
  matchers : List (String × Matcher)
  warnings : List Warning
  mode : Mode

/-- Matchers for the terms, each distinct one once in the order of first use, and a warning for each
that cannot be compiled. -/
def compileTerms (allRegex : Bool) (done : List (String × Matcher)) :
    List String → List (String × Matcher) × List Warning
  | [] => (done, [])
  | raw :: rest =>
    if (done.lookup raw).isSome then compileTerms allRegex done rest
    else match Matcher.compile raw allRegex with
      | .ok m => compileTerms allRegex (done ++ [(raw, m)]) rest
      | .error cause =>
        let (matchers, warnings) := compileTerms allRegex (done ++ [(raw, .never)]) rest
        (matchers, .invalidRegex raw cause :: warnings)

def truncationWarnings (kept total : Nat) : List Warning :=
  if kept < total then [.truncated kept (total - kept)] else []

namespace Prepared

def ofQuery (config : Config) (query : QueryText) : Prepared :=
  let tokens := tokenize query.text
  let expression := parse (tokens.take config.maxTokens) config.maxDepth
  let terms := expression.elim [] Expression.terms
  let (matchers, warnings) := compileTerms config.mode.allRegex [] (terms.map (·.raw))
  { expression, terms, matchers
    warnings := truncationWarnings config.maxTokens tokens.length ++ warnings
    mode := config.mode }

def contextOf (p : Prepared) (d : Document) : Context := Context.ofDocument p.mode d

def accepts (p : Prepared) (c : Context) (raw : String) : Bool :=
  (p.matchers.lookup raw).any (·.accepts c)

def holds (p : Prepared) (c : Context) : Bool := p.expression.any (·.eval (p.accepts c))

def matchedTerms (p : Prepared) (c : Context) : List QueryTerm :=
  p.terms.filter fun t => p.accepts c t.raw

end Prepared

end BookmarkSearch.Search
