import BookmarkSearch.Unicode.Blank

/-!
The text of a query, fit to be searched for and to be saved: without blanks at its ends, not empty
and not too long.
-/

namespace BookmarkSearch.Query

open Unicode

def maxQueryLength : Nat := 4096

structure QueryText where
  text : String
  trimmed : trim text = text
  nonempty : text ≠ ""
  length_le : text.length ≤ maxQueryLength
deriving DecidableEq

inductive QueryTextError where
  | empty
  | tooLong
deriving DecidableEq, Repr

namespace QueryTextError

def message : QueryTextError → String
  | .empty => "QueryText is empty."
  | .tooLong => "QueryText is too long: the maximum valid length is 4096 characters."

end QueryTextError

namespace QueryText

def ofString (s : String) : Except QueryTextError QueryText :=
  if nonempty : trim s = "" then .error .empty
  else if length_le : (trim s).length ≤ maxQueryLength then
    .ok ⟨trim s, trim_idem s, nonempty, length_le⟩
  else .error .tooLong

end QueryText

end BookmarkSearch.Query
