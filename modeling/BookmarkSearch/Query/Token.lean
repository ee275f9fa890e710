/-!
The lexical units of a query.
-/

namespace BookmarkSearch.Query

inductive Token where
  | openParen
  | closeParen
  | and
  | or
  | not
  | term (text : String)
deriving DecidableEq, Repr, Inhabited

namespace Token

/-- Whether a factor can begin here. Right after another factor such a token stands for AND. -/
def startsFactor : Token → Bool
  | .term _ | .not | .openParen => true
  | .closeParen | .and | .or => false

def text? : Token → Option String
  | .term text => some text
  | _ => none

end Token

def termTexts (tokens : List Token) : List String := tokens.filterMap Token.text?

end BookmarkSearch.Query
