import BookmarkSearch.Bookmarks.Tree
import BookmarkSearch.Json.Reader
import BookmarkSearch.Text.Basic

/-!
Bookmark files. A file holds a list of nodes, or an export with named roots, or a single node; it is
taken for the first of these that it fits.
-/

namespace BookmarkSearch.Bookmarks

open Json Search

/-- The nodes of an export: those of its roots that are nodes, each name once. There must be one
field `roots`, and it must be an object. -/
def exportNodes? : Value → Option (List Node)
  | .object fields =>
    match fields.filter (·.1 = "roots") with
    | [(_, .object roots)] =>
      some ((collapseFields (Value.collapseValues roots)).filterMap fun root => node? root.2)
    | _ => none
  | _ => none

def fileNodes? (v : Value) : Option (List Node) :=
  children? v <|> exportNodes? v <|> (node? v).map fun n => [n]

inductive BookmarkError where
  | malformed
  | incomplete
  | shape
deriving DecidableEq, Repr

/-- The bookmarks of a file, in order. The text is read as JSON up to the end of its value before
any shape is tried, and it may go on behind the value only if none fits. -/
def parse (text : String) : Except BookmarkError (List Document) :=
  match Json.read text with
  | .error .malformed => .error .malformed
  | .error .incomplete => .error .incomplete
  | .ok (v, rest) =>
    match fileNodes? v with
    | none => .error .shape
    | some nodes =>
      -- What follows the value matters only now that the value has been accepted.
      if (skipSpace rest).isEmpty then .ok (Node.documentsOf nodes) else .error .malformed

inductive LoadError where
  | missing
  | notText
  | invalid (cause : BookmarkError)
deriving DecidableEq, Repr

def load : Option Text.Bytes → Except LoadError (List Document)
  | none => .error .missing
  | some bytes =>
    match Text.ofBytes? bytes with
    | none => .error .notText
    | some text => (parse text).mapError .invalid

end BookmarkSearch.Bookmarks
