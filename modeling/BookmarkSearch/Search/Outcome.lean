import BookmarkSearch.Search.Prepared

/-!
Searching a list of documents, and what comes out of it, as data and as lines of text.
-/

namespace BookmarkSearch.Search

open Query

structure Hit where
  place : Nat
  document : Document
  matched : List QueryTerm
deriving DecidableEq, Repr

namespace Hit

/-- Terms with the same text match alike, whatever stands above them. -/
def isMatched (h : Hit) (t : QueryTerm) : Bool := h.matched.any (·.raw == t.raw)

end Hit

structure Outcome where
  hits : List Hit
  terms : List QueryTerm
  warnings : List Warning
  scanned : Nat
deriving DecidableEq, Repr

namespace Outcome

def size (o : Outcome) : Nat := o.hits.length

def isEmpty (o : Outcome) : Bool := o.hits.isEmpty

end Outcome

namespace Prepared

def hit? (p : Prepared) (d : Document) (place : Nat) : Option Hit :=
  let c := p.contextOf d
  if p.holds c then some ⟨place, d, p.matchedTerms c⟩ else none

def run (p : Prepared) (documents : List Document) : Outcome where
  hits := documents.zipIdx.filterMap fun (d, place) => p.hit? d place
  terms := p.terms
  warnings := p.warnings
  scanned := documents.length

end Prepared

inductive SearchError where
  | emptyQuery
  | invalidQuery (cause : QueryTextError)
deriving DecidableEq, Repr

namespace SearchError

def message : SearchError → String
  | .emptyQuery => "no search query supplied"
  | .invalidQuery cause => "invalid query: " ++ cause.message

end SearchError

def search (config : Config) (query : String) (documents : List Document) :
    Except SearchError Outcome :=
  if Unicode.isAllBlank query then .error .emptyQuery
  else match QueryText.ofString query with
    | .error cause => .error (.invalidQuery cause)
    | .ok text => .ok ((Prepared.ofQuery config text).run documents)

def reportTerm (t : QueryTerm) (matched : Bool) : String :=
  (if t.negated then "-" else "") ++ (if matched then t.raw else "~" ++ t.raw ++ "~")

def reportHit (terms : List QueryTerm) (h : Hit) : String :=
  h.document.title ++ "  " ++ h.document.url ++ "  terms: " ++
    " ".intercalate (terms.map fun t => reportTerm t (h.isMatched t))

namespace Outcome

/-- The number of hits and a line for each. Warnings are not part of it. -/
def report (o : Outcome) : String :=
  if o.isEmpty then "No matches found."
  else "\n".intercalate ((toString o.size ++ " matches:") :: o.hits.map (reportHit o.terms))

end Outcome

end BookmarkSearch.Search
