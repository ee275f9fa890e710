import BookmarkSearch.Unicode.CodeSet

/-!
Sets of characters that go by several names. A name is compared in reduced form: in lower case,
without spaces, hyphens and underscores, and without a leading `is`.
-/

namespace BookmarkSearch.Unicode

structure NamedSet where
  names : List String
  text : String

namespace NamedSet

def set (s : NamedSet) : CodeSet := CodeSet.ofText s.text

def find? (table : List NamedSet) (name : String) : Option CodeSet :=
  (table.find? (·.names.contains name)).map set

end NamedSet

def isNameGap (c : Char) : Bool := c == ' ' || c == '_' || c == '-'

/-- The reduced form of a name. Characters outside ASCII are dropped, and the abbreviation `isc` is
kept from losing its first two letters. -/
def reduceName (name : List Char) : String :=
  let keep (cs : List Char) := (cs.filter fun c => c.toNat < 128 && !isNameGap c).map Char.toLower
  match name with
  | i :: s :: rest =>
    if (i == 'i' || i == 'I') && (s == 's' || s == 'S') then
      let kept := keep rest
      if kept = ['c'] then "isc" else String.ofList kept
    else String.ofList (keep name)
  | _ => String.ofList (keep name)

end BookmarkSearch.Unicode
