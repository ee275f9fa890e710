import BookmarkSearch.CommandLine.Run
import BookmarkSearch.Saved.Database

/-!
A whole run of the program with the files it finds. Its arguments decide what is done; the saved
queries are read from the database file and are written back to it if a command has opened them.
-/

namespace BookmarkSearch.CommandLine

open Saved

/-- The saved queries in a database file. Nothing has been saved yet if there is no file, and there
is no store in a file that is no database. -/
def storeIn : FileContent → Option Store
  | .missing => some Store.empty
  | .unreadable => none
  | .bytes content => Store.decode? content

structure Files where
  settings : FileContent
  bookmarks : String → FileContent
  database : FileContent

namespace Files

def scene (files : Files) : Scene :=
  ⟨files.settings, files.bookmarks, storeIn files.database⟩

end Files

namespace Answer

def databaseAfter (a : Answer) (database : FileContent) : FileContent :=
  match a.store with
  | none => database
  | some store => .bytes store.encode

end Answer

structure Ending where
  code : Nat
  database : FileContent
deriving DecidableEq, Repr

def execute (args : List String) (files : Files) : Ending :=
  match Invocation.ofArguments args with
  | .error stop => ⟨stop.code, files.database⟩
  | .ok i =>
    let answer := run i files.scene
    ⟨answer.code, answer.databaseAfter files.database⟩

end BookmarkSearch.CommandLine
