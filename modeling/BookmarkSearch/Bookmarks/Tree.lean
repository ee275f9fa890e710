import BookmarkSearch.Json.Value
import BookmarkSearch.Search.Basic

/-!
Bookmark trees. A node is a bookmark, a folder or both; it is written as an object, or as an array
of its fields in order. Fields may be missing, and fields of other names are passed over.
-/

namespace BookmarkSearch.Bookmarks

open Json Search

inductive Node where
  | mk (title : String) (url description : Option String) (children : List Node)
deriving Repr

namespace Node

mutual

def documents : Node → List Document
  | .mk title url description children =>
    let own := match url with
      | some u => if u = "" then [] else [⟨title, u, description.getD ""⟩]
      | none => []
    own ++ documentsOf children

def documentsOf : List Node → List Document
  | [] => []
  | n :: rest => n.documents ++ documentsOf rest

end

end Node

structure Draft where
  title : Option String
  url : Option (Option String)
  description : Option (Option String)
  children : Option (List Node)

namespace Draft

def empty : Draft := ⟨none, none, none, none⟩

def node (d : Draft) : Node :=
  .mk (d.title.getD "") (d.url.getD none) (d.description.getD none) (d.children.getD [])

end Draft

def text? : Value → Option String
  | .string s => some s
  | _ => none

def optionalText? : Value → Option (Option String)
  | .null => some none
  | .string s => some (some s)
  | _ => none

mutual

def node? : Value → Option Node
  | .object fields => (fillDraft Draft.empty fields).map Draft.node
  | .array [] => some Draft.empty.node
  | .array [t] => do return .mk (← text? t) none none []
  | .array [t, u] => do return .mk (← text? t) (← optionalText? u) none []
  | .array [t, u, d] => do return .mk (← text? t) (← optionalText? u) (← optionalText? d) []
  | .array [t, u, d, c] => do
    return .mk (← text? t) (← optionalText? u) (← optionalText? d) (← children? c)
  | _ => none

def children? : Value → Option (List Node)
  | .array items => nodes? items
  | _ => none

def nodes? : List Value → Option (List Node)
  | [] => some []
  | v :: rest => do return (← node? v) :: (← nodes? rest)

/-- Takes up the fields one by one. No field may come twice, under either of its names. -/
def fillDraft (draft : Draft) : List (String × Value) → Option Draft
  | [] => some draft
  | (name, v) :: rest =>
    if name = "title" ∨ name = "name" then do
      guard draft.title.isNone
      let title ← text? v
      fillDraft { draft with title := some title } rest
    else if name = "url" then do
      guard draft.url.isNone
      let url ← optionalText? v
      fillDraft { draft with url := some url } rest
    else if name = "description" then do
      guard draft.description.isNone
      let description ← optionalText? v
      fillDraft { draft with description := some description } rest
    else if name = "children" then do
      guard draft.children.isNone
      let children ← children? v
      fillDraft { draft with children := some children } rest
    else fillDraft draft rest

end

end BookmarkSearch.Bookmarks
