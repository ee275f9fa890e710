/-!
Texts as bytes in UTF-8, the numbers that rows of digits in them stand for, and the bound of those
that a double can hold.
-/

namespace BookmarkSearch.Text

abbrev Bytes := List UInt8

def bytesOf (s : String) : Bytes := s.toUTF8.data.toList

def ofBytes? (bytes : Bytes) : Option String := String.fromUTF8? ⟨bytes.toArray⟩

def isHexDigit (c : Char) : Bool :=
  c.isDigit || ('a' ≤ c && c ≤ 'f') || ('A' ≤ c && c ≤ 'F')

def digitValue (c : Char) : Nat :=
  if c.isDigit then c.toNat - '0'.toNat else c.toLower.toNat - 'a'.toNat + 10

def naturalOf (base : Nat) (ds : List Char) : Nat :=
  ds.foldl (fun n d => base * n + digitValue d) 0

/-- The first number that is too large to round to a double. -/
def doubleBound : Nat := Nat.pow 2 1024 - Nat.pow 2 970

end BookmarkSearch.Text
