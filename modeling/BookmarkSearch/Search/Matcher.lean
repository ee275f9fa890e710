import BookmarkSearch.Query.Parser
import BookmarkSearch.Query.Term
import BookmarkSearch.Regex.Reader
import BookmarkSearch.Search.Context

/-!
Matching one term against one document.
-/

namespace BookmarkSearch.Search

open Query Text

/-- A term made ready for matching. A literal is looked for in the whole text as `text`, and among
the tags as `tag`, which is without the marker of a tag. -/
inductive Matcher where
  | never
  | regex (source : String) (pattern : Regex.Pattern)
  | literal (text tag : String)
deriving DecidableEq, Repr

def occursIn (needle : List Char) : List Char → Bool
  | [] => needle.isEmpty
  | c :: rest => needle.isPrefixOf (c :: rest) || occursIn needle rest

namespace Matcher

def ofLiteral (raw : String) : Matcher :=
  let text := normalizeTerm raw
  let tag := normalizeTerm (String.ofList ((afterTagMarker? raw.toList).getD raw.toList))
  if text = "" ∧ tag = "" then .never else .literal text tag

def compile (raw : String) (allRegex : Bool) : Except Regex.RegexError Matcher :=
  match TermSense.resolve raw allRegex with
  | .regex source =>
    if source = "" then .ok .never else (Regex.compile source).map (Matcher.regex source)
  | .literal text => .ok (ofLiteral text)

def accepts (m : Matcher) (c : Context) : Bool :=
  match m with
  | .never => false
  | .regex _ pattern => pattern.matchesText (if c.mode.tagsOnly then c.tagsText else c.fieldText)
  | .literal text tag =>
    if c.mode.tagsOnly then tag != "" && c.hasTag tag
    else text != "" && occursIn text.toList c.combinedText.toList

end Matcher

def termMatches (raw : String) (c : Context) : Bool :=
  match Matcher.compile raw c.mode.allRegex with
  | .ok m => m.accepts c
  | .error _ => false

/-- Whether a query holds of a document. One without terms holds of none. -/
def queryHolds (e : Option Expression) (c : Context) : Bool :=
  e.any fun e => e.eval fun raw => termMatches raw c

end BookmarkSearch.Search
