import BookmarkSearch.CommandLine.Arguments
import BookmarkSearch.Search.Basic

/-!
The commands of the program and how they are given on the command line.
-/

namespace BookmarkSearch.CommandLine

open Search

inductive Command where
  | search (query : String) (bookmarks : Option String) (mode : Mode) (save : Bool)
  | listSaved
  | removeSaved (id : Nat)
  | runSaved (id : Nat) (bookmarks : Option String)
  | clearSaved
deriving DecidableEq, Repr

namespace Command

def bookmarks? : Command → Option String
  | .search _ path _ _ | .runSaved _ path => path
  | _ => none

end Command

structure Invocation where
  dataDir : String
  command : Command
deriving DecidableEq, Repr

def defaultDataDir : String := ".marksift"

/-- Options that every command takes. The log level changes no answer. -/
def commonOptions : List (String × ValueKind) := [("data-dir", .path), ("log-level", .text)]

def savedCommands : List String := ["list", "remove", "run", "clear", "help"]

def programShape : Shape := ⟨commonOptions, [], [], ["search", "saved", "help"], true⟩

def searchShape : Shape :=
  ⟨("bookmarks", .path) :: commonOptions, ["tags-only", "regex", "save"], [.text], [], false⟩

def savedShape : Shape := ⟨commonOptions, [], [], savedCommands, false⟩

def bareShape : Shape := ⟨commonOptions, [], [], [], false⟩

def removeShape : Shape := ⟨commonOptions, [], [.number], [], false⟩

def runShape : Shape := ⟨("bookmarks", .path) :: commonOptions, [], [.number], [], false⟩

def topics : List (List String) :=
  [[], ["search"], ["saved"], ["help"]] ++ savedCommands.map fun name => ["saved", name]

def helpOn (topic : List String) : Stop := if topics.contains topic then .help else .refused

def readId (g : Given) : Except Stop Nat := do
  (Saved.readNumber (← g.only)).mapError fun _ => .refused

def readSaved (name : String) (args : List String) : Except Stop (Given × Command) :=
  match name with
  | "list" => do
    let (g, _) ← bareShape.read args
    return (g, .listSaved)
  | "remove" => do
    let (g, _) ← removeShape.read args
    return (g, .removeSaved (← readId g))
  | "run" => do
    let (g, _) ← runShape.read args
    return (g, .runSaved (← readId g) (g.option? "bookmarks"))
  | "clear" => do
    let (g, _) ← bareShape.read args
    return (g, .clearSaved)
  | _ => .error (helpOn ("saved" :: args))

/-- The command asked for, and what was given at each step on the way to it, the last step first. -/
def readCommand (args : List String) : Except Stop (List Given × Command) := do
  let (top, next) ← programShape.read args
  match next with
  | some ("search", rest) => do
    let (g, _) ← searchShape.read rest
    let mode := ⟨g.hasFlag "tags-only", g.hasFlag "regex"⟩
    return ([g, top], .search (← g.only) (g.option? "bookmarks") mode (g.hasFlag "save"))
  | some ("saved", rest) => do
    let (middle, next) ← savedShape.read rest
    match next with
    | some (name, rest) => do
      let (g, command) ← readSaved name rest
      return ([g, middle, top], command)
    | none => .error .refused
  | some (_, rest) => .error (helpOn rest)
  | none => .error .refused

namespace Invocation

/-- A common option may be given once at each step; the last step counts. -/
def ofArguments (args : List String) : Except Stop Invocation := do
  let (given, command) ← readCommand args
  return ⟨(given.findSome? (·.option? "data-dir")).getD defaultDataDir, command⟩

end Invocation

end BookmarkSearch.CommandLine
