import BookmarkSearch.Query.Expression

/-!
What a term asks for. A term that begins with `re:`, or stands between slashes, is a regular
expression; any other is literal text, unless the search takes every term for an expression.
-/

namespace BookmarkSearch.Query

inductive TermSense where
  | regex (pattern : String)
  | literal (text : String)
deriving DecidableEq, Repr

namespace TermSense

def betweenSlashes? : List Char → Option (List Char)
  | '/' :: rest => if rest.getLast? = some '/' then some rest.dropLast else none
  | _ => none

def ofTerm (raw : String) : TermSense :=
  let cs := raw.toList
  if beginsWith ['r', 'e', ':'] cs then .regex (String.ofList (cs.drop 3))
  else match betweenSlashes? cs with
    | some inner => .regex (String.ofList inner)
    | none => .literal raw

def resolve (raw : String) (allRegex : Bool) : TermSense :=
  match ofTerm raw with
  | .literal text => if allRegex then .regex text else .literal text
  | sense => sense

def isRegex : TermSense → Bool
  | .regex _ => true
  | .literal _ => false

end TermSense

/-- A term of a query as a result shows it. `isRegex` goes by the term's own marks; `negated` says
that an odd number of NOTs stand above it. -/
structure QueryTerm where
  raw : String
  isRegex : Bool
  negated : Bool
deriving DecidableEq, Repr

namespace Expression

def termsUnder (negated : Bool) : Expression → List QueryTerm
  | .term text => [⟨text, (TermSense.ofTerm text).isRegex, negated⟩]
  | .not e => e.termsUnder (!negated)
  | .and l r | .or l r => l.termsUnder negated ++ r.termsUnder negated

def terms (e : Expression) : List QueryTerm := e.termsUnder false

end Expression

end BookmarkSearch.Query
