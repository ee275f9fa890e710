import BookmarkSearch.Unicode.Blank
import BookmarkSearch.Unicode.CaseClosure
import BookmarkSearch.Regex.Pattern

/-!
What every part of a pattern's reader needs: the flags in force, and how to go on to the next
character. With the flag for spaced patterns, blanks and comments between the parts of a pattern
are skipped.
-/

namespace BookmarkSearch.Regex

open Unicode

structure Flags where
  ignoreCase : Bool
  multiLine : Bool
  dotAll : Bool
  unicode : Bool
  crlf : Bool
  spaced : Bool
deriving DecidableEq, Repr

namespace Flags

def initial : Flags := ⟨true, true, false, true, false, false⟩

/-- Sets one flag by its letter; `none` if no flag has the letter. Greed changes no answer. -/
def set? (flags : Flags) (letter : Char) (on : Bool) : Option Flags :=
  match letter with
  | 'i' => some { flags with ignoreCase := on }
  | 'm' => some { flags with multiLine := on }
  | 's' => some { flags with dotAll := on }
  | 'U' => some flags
  | 'u' => some { flags with unicode := on }
  | 'R' => some { flags with crlf := on }
  | 'x' => some { flags with spaced := on }
  | _ => none

def foldSet (flags : Flags) (s : CodeSet) : CodeSet :=
  if !flags.ignoreCase then s
  else if flags.unicode then s.caseClosure
  else s.asciiCaseClosure

/-- Without Unicode a set may hold ASCII characters only: any other would match part of one. -/
def admit? (flags : Flags) (s : CodeSet) : Option CodeSet :=
  if flags.unicode || s.isAscii then some s else none

def finishSet? (flags : Flags) (negated : Bool) (s : CodeSet) : Option CodeSet :=
  let folded := flags.foldSet s
  flags.admit? (if negated then folded.complement else folded)

end Flags

def afterLine (cs : List Char) : List Char := (cs.dropWhile (· != '\n')).tail

def skipSpaceWithin : Nat → List Char → List Char
  | 0, cs => cs
  | fuel + 1, cs =>
    match cs with
    | '#' :: rest => skipSpaceWithin fuel (afterLine rest)
    | c :: rest => if isBlank c then skipSpaceWithin fuel rest else cs
    | [] => []

def skipSpace (flags : Flags) (cs : List Char) : List Char :=
  if flags.spaced then skipSpaceWithin cs.length cs else cs

def peekPast (flags : Flags) (cs : List Char) : Option Char :=
  if !flags.spaced then cs.head?
  else
    let visible := cs.dropWhile isBlank
    match visible with
    | '#' :: rest => (rest.dropWhile isBlank).head?
    | _ => visible.head? <|> cs.head?

def dropWord? : List Char → List Char → Option (List Char)
  | [], cs => some cs
  | w :: word, c :: cs => if w == c then dropWord? word cs else none
  | _ :: _, [] => none

end BookmarkSearch.Regex
