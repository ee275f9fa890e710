/-!
What is searched, the title, the address and the description of a bookmark, and how: only the tags
or all of the text, and with every term taken for a regular expression or only those marked as one.
-/

namespace BookmarkSearch.Search

structure Document where
  title : String
  url : String
  description : String
deriving DecidableEq, Repr, Inhabited

structure Mode where
  tagsOnly : Bool
  allRegex : Bool
deriving DecidableEq, Repr, Inhabited

def Mode.union (a b : Mode) : Mode := ⟨a.tagsOnly || b.tagsOnly, a.allRegex || b.allRegex⟩

end BookmarkSearch.Search
