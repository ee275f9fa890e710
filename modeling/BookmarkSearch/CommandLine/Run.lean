import BookmarkSearch.Bookmarks.File
import BookmarkSearch.CommandLine.Invocation
import BookmarkSearch.Saved.Store
import BookmarkSearch.Search.Outcome
import BookmarkSearch.Settings.File

/-!
Running a command. The files it may need are given to it as they were found; what it prints, whether
it fails and how it leaves the saved queries is its answer.
-/

namespace BookmarkSearch.CommandLine

open Query Saved Search Text

inductive FileContent where
  | missing
  | unreadable
  | bytes (content : Bytes)
deriving DecidableEq, Repr

namespace FileContent

def bytes? : FileContent → Option Bytes
  | .bytes content => some content
  | _ => none

end FileContent

/-- What a command finds. There is no store if the data directory cannot be used, and an empty one
if nothing has been saved yet. -/
structure Scene where
  settings : FileContent
  bookmarks : String → FileContent
  store : Option Store

inductive Failure where
  | emptyQuery
  | settings (path : String)
  | noBookmarks
  | bookmarks (path : String)
  | invalidQuery (cause : QueryTextError)
  | dataDir (path : String)
  | saved (cause : StoreError)
deriving DecidableEq, Repr

namespace Failure

/-- What is told about a failure as an error. A missing query is no error; it is asked for. -/
def message : Failure → Option String
  | .emptyQuery => none
  | .settings path => some ("failed to load " ++ path)
  | .noBookmarks =>
    some "no bookmark file: pass --bookmarks or set general.bookmarks_path in config.toml"
  | .bookmarks path => some ("failed to load bookmarks from " ++ path)
  | .invalidQuery cause => some (SearchError.invalidQuery cause).message
  | .dataDir path => some ("failed to open data directory " ++ path)
  | .saved cause => some (cause.message.getD "Database error: Decode error")

def output : Failure → List String
  | .emptyQuery => ["Please enter a search query."]
  | _ => []

end Failure

structure Report where
  output : List String
  warnings : List Warning
deriving DecidableEq, Repr

namespace Report

def ofLines (lines : List String) : Report := ⟨lines, []⟩

def ofOutcome (o : Outcome) : Report := ⟨[o.report], o.warnings⟩

def append (first second : Report) : Report :=
  ⟨first.output ++ second.output, first.warnings ++ second.warnings⟩

end Report

/-- The store is there if the command has opened it. -/
structure Answer where
  report : Report
  failure : Option Failure
  store : Option Store

namespace Answer

def failing (cause : Failure) : Answer := ⟨.ofLines cause.output, some cause, none⟩

def code (a : Answer) : Nat := if a.failure.isSome then 1 else 0

def storeAfter (a : Answer) (scene : Scene) : Option Store := a.store <|> scene.store

end Answer

def pathIn (dir name : String) : String :=
  if dir.toList.getLast? = some '/' then dir ++ name else dir ++ "/" ++ name

namespace Invocation

def settingsPath (i : Invocation) : String := pathIn i.dataDir "config.toml"

def databasePath (i : Invocation) : String := pathIn i.dataDir "marksift.redb"

end Invocation

namespace Scene

def settings? (scene : Scene) : Option Settings :=
  match scene.settings with
  | .unreadable => none
  | content => (Settings.load content.bytes?).toOption.map Settings.repaired

def find (scene : Scene) (settings : Settings) (query : String) (path : Option String)
    (mode : Mode) : Except Failure Outcome :=
  if Unicode.isAllBlank query then .error .emptyQuery
  else match path <|> settings.bookmarksPath with
    | none => .error .noBookmarks
    | some path =>
      match Bookmarks.load (scene.bookmarks path).bytes? with
      | .error _ => .error (.bookmarks path)
      | .ok documents =>
        (search (settings.searchConfig mode) query documents).mapError fun
          | .emptyQuery => .emptyQuery
          | .invalidQuery cause => .invalidQuery cause

def onStore (scene : Scene) (dataDir : String)
    (act : Store → Except Failure Report × Store) : Answer :=
  match scene.store with
  | none => .failing (.dataDir dataDir)
  | some store =>
    match act store with
    | (.error cause, left) => { Answer.failing cause with store := some left }
    | (.ok report, left) => ⟨report, none, some left⟩

def runSaved (scene : Scene) (settings : Settings) (id : Nat) (path : Option String)
    (store : Store) : Except Failure Report × Store :=
  let outcome := do
    let saved ← (store.get id).mapError Failure.saved
    scene.find settings saved.query.text path saved.mode
  (outcome.map .ofOutcome, store)

end Scene

def savedLine : Option Nat → String
  | some id => "Saved as " ++ toString id ++ "."
  | none => "Query already saved."

def saveQuery (query : String) (mode : Mode) (store : Store) : Except Failure Report × Store :=
  match QueryText.ofString query with
  | .error cause => (.error (.invalidQuery cause), store)
  | .ok text =>
    let (given, left) := store.save ⟨text, mode⟩
    ((given.mapError Failure.saved).map fun id => .ofLines [savedLine id], left)

def listLines (saved : List (Nat × SavedQuery)) : List String :=
  if saved.isEmpty then ["No saved queries."] else saved.map fun (id, s) => reportSaved id s

def listSaved (store : Store) : Except Failure Report × Store :=
  ((store.list.mapError Failure.saved).map fun saved => .ofLines (listLines saved), store)

def removeSaved (id : Nat) (store : Store) : Except Failure Report × Store :=
  let (removed, left) := store.remove id
  ((removed.mapError Failure.saved).map fun _ =>
    .ofLines ["Removed saved query " ++ toString id ++ "."], left)

def clearSaved (store : Store) : Except Failure Report × Store :=
  let (removed, left) := store.clear
  (.ok (.ofLines ["Removed " ++ toString removed ++ " saved queries."]), left)

/-- Runs a command with given settings. A search by the command line is done in a mode if that or
the settings ask for it. -/
def runWith (settings : Settings) (dataDir : String) (scene : Scene) : Command → Answer
  | .search query path mode save =>
    let mode := mode.union settings.mode
    match scene.find settings query path mode with
    | .error cause => .failing cause
    | .ok outcome =>
      let report := Report.ofOutcome outcome
      -- The results are shown whether or not saving the query succeeds.
      if save then
        let saving := scene.onStore dataDir (saveQuery query mode)
        { saving with report := report.append saving.report }
      else ⟨report, none, none⟩
  | .listSaved => scene.onStore dataDir listSaved
  | .removeSaved id => scene.onStore dataDir (removeSaved id)
  | .runSaved id path => scene.onStore dataDir (scene.runSaved settings id path)
  | .clearSaved => scene.onStore dataDir clearSaved

def run (i : Invocation) (scene : Scene) : Answer :=
  match scene.settings? with
  | none => .failing (.settings i.settingsPath)
  | some settings => runWith settings i.dataDir scene i.command

end BookmarkSearch.CommandLine
