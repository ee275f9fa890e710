/-!
JSON values. An object keeps its fields in the order of the text, repeated names included, since it
depends on the reader of the value what a repetition means. Of a number only the text is kept.
-/

namespace BookmarkSearch.Json

inductive Value where
  | null
  | bool (b : Bool)
  | number (text : String)
  | string (s : String)
  | array (items : List Value)
  | object (fields : List (String × Value))
deriving Repr, Inhabited

def setField {α : Type} (name : String) (v : α) : List (String × α) → List (String × α)
  | [] => [(name, v)]
  | (n, w) :: rest => if n = name then (n, v) :: rest else (n, w) :: setField name v rest

/-- Every name once, in the place of its first field and with the value of its last. -/
def collapseFields {α : Type} (fields : List (String × α)) : List (String × α) :=
  fields.foldl (fun done (name, v) => setField name v done) []

namespace Value

mutual

def collapse : Value → Value
  | .array items => .array (collapseItems items)
  | .object fields => .object (collapseFields (collapseValues fields))
  | v => v

def collapseItems : List Value → List Value
  | [] => []
  | v :: rest => v.collapse :: collapseItems rest

def collapseValues : List (String × Value) → List (String × Value)
  | [] => []
  | (name, v) :: rest => (name, v.collapse) :: collapseValues rest

end

end Value

end BookmarkSearch.Json
