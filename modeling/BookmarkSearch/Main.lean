import BookmarkSearch.CommandLine.Files

/-!
The program: it reads the files a command may need, runs the command, prints its answer and writes
the saved queries back.
-/

namespace BookmarkSearch

open CommandLine Saved

def usage : String :=
  "Usage: marksift [--data-dir DIR] [--log-level LEVEL] COMMAND\n\n" ++
    "  search QUERY [--bookmarks FILE] [--tags-only] [--regex] [--save]\n" ++
    "  saved list\n" ++
    "  saved remove ID\n" ++
    "  saved run ID [--bookmarks FILE]\n" ++
    "  saved clear"

/-- The system's code for reading a folder as a file, told with either sign. -/
def isFolderCode (code : UInt32) : Bool := code == 21 || code == 0 - 21

def readContent (path : String) : IO FileContent := do
  try
    return .bytes (← IO.FS.readBinFile path).data.toList
  catch
    | .noFileOrDirectory .. => return .missing
    | .inappropriateType _ code _ => return if isFolderCode code then .unreadable else .missing
    | _ => return .unreadable

def findStore (i : Invocation) : IO (Option Store) := do
  return storeIn (← readContent i.databasePath)

def findScene (i : Invocation) : IO Scene := do
  let settings ← readContent i.settingsPath
  let scene : Scene := ⟨settings, fun _ => .missing, ← findStore i⟩
  let path := i.command.bookmarks? <|> scene.settings?.bind (·.bookmarksPath)
  let bookmarks ← path.elim (pure .missing) readContent
  return { scene with bookmarks := fun _ => bookmarks }

/-- Writes the store of an answer back. If that cannot be done, the answer is the one for a data
directory that cannot be used. -/
def keepStore (i : Invocation) (scene : Scene) : IO Answer := do
  let answer := run i scene
  match answer.store with
  | none => return answer
  | some store =>
    try
      IO.FS.createDirAll i.dataDir
      IO.FS.writeBinFile i.databasePath ⟨store.encode.toArray⟩
      return answer
    catch _ => return run i { scene with store := none }

def printAnswer (a : Answer) : IO Unit := do
  for warning in a.report.warnings do
    IO.eprintln ("warning: " ++ warning.message)
  for line in a.report.output do
    IO.println line
  if let some message := a.failure.bind (·.message) then
    IO.eprintln ("Error: " ++ message)

def runInvocation (i : Invocation) : IO UInt32 := do
  let answer ← keepStore i (← findScene i)
  printAnswer answer
  return answer.code.toUInt32

end BookmarkSearch

open BookmarkSearch CommandLine in
def main (args : List String) : IO UInt32 := do
  match Invocation.ofArguments args with
  | .ok i => runInvocation i
  | .error stop =>
    match stop with
    | .help => IO.println usage
    | .version => IO.println "marksift 0.1.0"
    | .refused => IO.eprintln usage
    return stop.code.toUInt32
