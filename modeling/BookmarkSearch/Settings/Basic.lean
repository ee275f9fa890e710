import BookmarkSearch.Search.Prepared
import BookmarkSearch.Unicode.Blank

/-!
Settings: where the bookmarks are and how to search them. A setting may be unfit for use without
being unreadable; the unfit ones are named and can be replaced by their defaults.
-/

namespace BookmarkSearch

open Search Unicode

/-- The limits are words of 64 bits, so that every one can be written to a file and read again. -/
structure Settings where
  bookmarksPath : Option String
  logLevel : String
  mode : Mode
  maxDepth : UInt64
  maxTokens : UInt64
deriving DecidableEq, Repr

namespace Settings

def default : Settings where
  bookmarksPath := none
  logLevel := "warn"
  mode := ⟨false, false⟩
  maxDepth := .ofNat Query.defaultLimit
  maxTokens := .ofNat defaultMaxTokens

inductive Problem where
  | noDepth
  | noTokens
  | blankLogLevel
deriving DecidableEq, Repr

namespace Problem

def message : Problem → String
  | .noDepth => "max_depth must be at least 1"
  | .noTokens => "max_tokens must be at least 1"
  | .blankLogLevel => "log_level must not be empty"

end Problem

def problems (s : Settings) : List Problem :=
  (if s.maxDepth = 0 then [.noDepth] else []) ++
    (if s.maxTokens = 0 then [.noTokens] else []) ++
    (if isAllBlank s.logLevel then [.blankLogLevel] else [])

def repaired (s : Settings) : Settings :=
  { s with
    logLevel := if isAllBlank s.logLevel then default.logLevel else s.logLevel
    maxDepth := if s.maxDepth = 0 then default.maxDepth else s.maxDepth
    maxTokens := if s.maxTokens = 0 then default.maxTokens else s.maxTokens }

def searchConfig (s : Settings) (mode : Mode) : Config :=
  ⟨mode, s.maxDepth.toNat, s.maxTokens.toNat⟩

end Settings

end BookmarkSearch
