import BookmarkSearch.Query.Lexer
import BookmarkSearch.Search.Basic
import BookmarkSearch.Text.Normal

/-!
A document prepared for matching: its fields in normal form, and the tags its description names.
-/

namespace BookmarkSearch.Search

open Unicode Text Query

def splitAtAll (sep : Char → Bool) : List Char → List (List Char)
  | [] => [[]]
  | c :: rest =>
    if sep c then [] :: splitAtAll sep rest
    else match splitAtAll sep rest with
      | first :: more => (c :: first) :: more
      | [] => [[c]]

def separatesPieces (c : Char) : Bool := isBlank c || c == ',' || c == ';'

def piecesOf (description : String) : List (List Char) :=
  splitAtAll separatesPieces description.toList

def tagMarker : List Char := ['t', 'a', 'g', ':']

def afterTagMarker? (cs : List Char) : Option (List Char) :=
  if beginsWith tagMarker cs then some (cs.drop tagMarker.length) else none

def tagsOf (description : String) : List String :=
  (((piecesOf description).filterMap afterTagMarker?).map fun tag =>
    String.ofList (normalizeChars tag)).filter (· != "")

structure Context where
  combinedText : String
  fieldText : String
  tagsText : String
  tagNames : List String
  mode : Mode
deriving DecidableEq, Repr

namespace Context

/-- `fieldText` keeps the fields on lines of their own, so that a regular expression can tell where
one starts; `tagNames` holds each tag once, without punctuation around it. -/
def ofDocument (mode : Mode) (d : Document) : Context where
  combinedText := normalize (d.title ++ " " ++ d.url ++ " " ++ d.description)
  fieldText := normalize (d.title ++ "\n" ++ d.url ++ "\n" ++ d.description)
  tagsText := " ".intercalate (tagsOf d.description)
  tagNames := (((tagsOf d.description).map normalizeTerm).filter (· != "")).eraseDups
  mode := mode

def hasTag (c : Context) (tag : String) : Bool := c.tagNames.contains tag

def tagCount (c : Context) : Nat := c.tagNames.length

end Context

end BookmarkSearch.Search
