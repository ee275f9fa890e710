import BookmarkSearch.Settings.Basic
import BookmarkSearch.Text.Basic
import BookmarkSearch.Toml.Reader

/-!
The settings file: a document with the tables `general` and `search`. Everything in it may be
missing, and names that are not known are passed over. A table may also be written as an array of
its fields in order.
-/

namespace BookmarkSearch.Settings

open Search Toml

def generalFields : List String := ["bookmarks_path", "log_level"]

def searchFields : List String := ["tags_only", "use_regex", "max_depth", "max_tokens"]

def othersInRange (known : List String) (entries : Entries) : Bool :=
  Item.entriesInRange (entries.filter fun entry => !known.contains entry.1)

/-- The fields of a table by name; those that are missing are `none`. A date counts as a table
without any of them. -/
def fieldsOf? (names : List String) : Option Item → Option (String → Option Item)
  | none | some (.scalar .datetime) => some fun _ => none
  | some (.table _ entries) =>
    if othersInRange names entries then some fun name => entries.lookup name else none
  -- By position: items beyond the last name are not even looked at.
  | some (.array items) | some (.tables items) => some fun name => (names.zip items).lookup name
  | some (.scalar _) => none

def text? : Item → Option String
  | .scalar (.string s) => some s
  | _ => none

def flag? : Item → Option Bool
  | .scalar (.boolean b) => some b
  | _ => none

def limit? : Item → Option UInt64
  | .scalar (.integer n) => if 0 ≤ n ∧ n < UInt64.size then some (.ofNat n.toNat) else none
  | _ => none

/-- A field that is missing has its default; one that is there must be readable. -/
def readField {α : Type} (readItem : Item → Option α) (fallback : α) : Option Item → Option α
  | none => some fallback
  | some item => readItem item

def ofEntries? (entries : Entries) : Option Settings := do
  guard (othersInRange ["general", "search"] entries)
  let general ← fieldsOf? generalFields (entries.lookup "general")
  let search ← fieldsOf? searchFields (entries.lookup "search")
  return {
    bookmarksPath :=
      ← readField (fun item => (text? item).map some) default.bookmarksPath
        (general "bookmarks_path")
    logLevel := ← readField text? default.logLevel (general "log_level")
    mode := {
      tagsOnly := ← readField flag? default.mode.tagsOnly (search "tags_only")
      allRegex := ← readField flag? default.mode.allRegex (search "use_regex") }
    maxDepth := ← readField limit? default.maxDepth (search "max_depth")
    maxTokens := ← readField limit? default.maxTokens (search "max_tokens") }

def ofText? (text : String) : Option Settings := (Toml.read text).bind ofEntries?

def line (key value : String) : String := key ++ " = " ++ value ++ "\n"

def quote (s : String) : String := String.ofList (writeQuoted s.toList)

def toText (s : Settings) : String :=
  "[general]\n" ++ s.bookmarksPath.elim "" (fun path => line "bookmarks_path" (quote path)) ++
    line "log_level" (quote s.logLevel) ++ "\n[search]\n" ++
    line "tags_only" (toString s.mode.tagsOnly) ++ line "use_regex" (toString s.mode.allRegex) ++
    line "max_depth" (toString s.maxDepth.toNat) ++ line "max_tokens" (toString s.maxTokens.toNat)

inductive LoadError where
  | notText
  | malformed
deriving DecidableEq, Repr

def load : Option Text.Bytes → Except LoadError Settings
  | none => .ok default
  | some bytes =>
    match Text.ofBytes? bytes with
    | none => .error .notText
    | some text => (ofText? text).elim (.error .malformed) .ok

end BookmarkSearch.Settings
