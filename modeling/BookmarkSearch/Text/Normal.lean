import BookmarkSearch.Unicode.Alphanumeric
import BookmarkSearch.Unicode.Blank
import BookmarkSearch.Unicode.Decomposition
import BookmarkSearch.Unicode.LetterCase
import BookmarkSearch.Unicode.Mark
import BookmarkSearch.Unicode.PlainLetter

/-!
The form in which texts are compared: without accents and in lower case. The order of the steps
matters, since the plain letters are looked up before the lower case is taken.
-/

namespace BookmarkSearch.Text

open Unicode

def foldChar (c : Char) : List Char := if isMark c then [] else lowerCase (plainLetter c)

def normalizeChars (cs : List Char) : List Char := (decompose cs).flatMap foldChar

def normalize (s : String) : String := String.ofList (normalizeChars s.toList)

def normalizeTerm (s : String) : String :=
  String.ofList (trimBy (fun c => !isWordChar c) (normalizeChars s.toList))

end BookmarkSearch.Text
