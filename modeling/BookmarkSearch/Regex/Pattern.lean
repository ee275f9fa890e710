import BookmarkSearch.Unicode.CodeSet
import BookmarkSearch.Unicode.Property

/-!
Patterns and where they match. A set of positions in a text is a list of Booleans, one for each
gap between characters, the ends included. `Pattern.reach` takes the positions where a match may
begin to those where it may end; a pattern matches somewhere if any position can be reached when
all may begin. Only whether there is a match is asked, so greed has no part in it.
-/

namespace BookmarkSearch.Regex

open Unicode

inductive WordEdge where
  | boundary
  | noBoundary
  | start
  | stop
  | startHalf
  | stopHalf
deriving DecidableEq, Repr

/-- A condition on a position. Lines end before a line feed, or with `crlf` before a carriage
return, a line feed, or both together. -/
inductive Place where
  | textStart
  | textEnd
  | lineStart (crlf : Bool)
  | lineEnd (crlf : Bool)
  | word (edge : WordEdge) (unicode : Bool)
deriving DecidableEq, Repr

inductive Pattern where
  | empty
  | oneOf (set : CodeSet)
  | place (p : Place)
  | seq (first second : Pattern)
  | alt (left right : Pattern)
  | repeated (least : Nat) (most : Option Nat) (body : Pattern)
  | capture (body : Pattern)
deriving DecidableEq, Repr

def isAsciiWord (c : Char) : Bool := c.isAlphanum || c == '_'

def inWord (unicode : Bool) (c : Option Char) : Bool :=
  c.any fun c => isAsciiWord c || (unicode && 128 ≤ c.toNat && wordChars.has c)

namespace WordEdge

def holds (edge : WordEdge) (before after : Bool) : Bool :=
  match edge with
  | .boundary => before != after
  | .noBoundary => before == after
  | .start => !before && after
  | .stop => before && !after
  | .startHalf => !before
  | .stopHalf => !after

end WordEdge

namespace Place

def holds (p : Place) (before after : Option Char) : Bool :=
  match p with
  | .textStart => before.isNone
  | .textEnd => after.isNone
  | .lineStart false => before.isNone || before == some '\n'
  | .lineEnd false => after.isNone || after == some '\n'
  | .lineStart true =>
    before.isNone || before == some '\n' || (before == some '\r' && after != some '\n')
  | .lineEnd true =>
    after.isNone || after == some '\r' || (after == some '\n' && before != some '\r')
  | .word edge unicode => edge.holds (inWord unicode before) (inWord unicode after)

end Place

abbrev Positions := List Bool

namespace Positions

def all (text : List Char) : Positions := List.replicate (text.length + 1) true

def any (s : Positions) : Bool := s.contains true

def union (s t : Positions) : Positions := List.zipWith (· || ·) s t

def without (s t : Positions) : Positions := List.zipWith (fun new old => new && !old) s t

def advance (set : CodeSet) (text : List Char) (s : Positions) : Positions :=
  false :: List.zipWith (fun c here => here && set.has c) text s

def neighbours (before : Option Char) : List Char → List (Option Char × Option Char)
  | [] => [(before, none)]
  | c :: rest => (before, some c) :: neighbours (some c) rest

def keep (p : Place) (text : List Char) (s : Positions) : Positions :=
  List.zipWith (fun sides here => here && p.holds sides.1 sides.2) (neighbours none text) s

def iterate (step : Positions → Positions) : Nat → Positions → Positions
  | 0, s => s
  | n + 1, s => if step s = s then s else iterate step n (step s)

def spread (step : Positions → Positions) : Nat → Positions → Positions → Positions
  | 0, reached, _ => reached
  | n + 1, reached, front =>
    let fresh := (step front).without reached
    if fresh.any then spread step n (reached.union fresh) fresh else reached

end Positions

namespace Pattern

open Positions

/-- The positions where a match may end that begins at one of the given positions. No step beyond
as many as there are positions reaches a new one. -/
def reach (text : List Char) : Pattern → Positions → Positions
  | .empty, s => s
  | .oneOf set, s => advance set text s
  | .place p, s => keep p text s
  | .seq first second, s => second.reach text (first.reach text s)
  | .alt left right, s => (left.reach text s).union (right.reach text s)
  | .repeated least most body, s =>
    -- First the repetitions that must be, then those that may be.
    let least' := iterate (body.reach text) least s
    spread (body.reach text) (most.elim s.length fun most => min (most - least) s.length)
      least' least'
  | .capture body, s => body.reach text s

def matchesText (p : Pattern) (text : String) : Bool :=
  let cs := text.toList
  (p.reach cs (Positions.all cs)).any

def onlyEmpty : Pattern → Bool
  | .empty | .place _ => true
  | .oneOf _ => false
  | .seq l r | .alt l r => l.onlyEmpty && r.onlyEmpty
  | .repeated _ _ body | .capture body => body.onlyEmpty

/-- Between `least` and `most` times the pattern, or any number of times from `least` on. What can
only match the empty text need not be matched twice. -/
def times (least : Nat) (most : Option Nat) (body : Pattern) : Pattern :=
  let least' := if body.onlyEmpty then min least 1 else least
  let most' := if body.onlyEmpty then some (min (most.getD 1) 1) else most
  if least' = 0 ∧ most' = some 0 then .empty
  else if least' = 1 ∧ most' = some 1 then body
  else .repeated least' most' body

def seqAll : List Pattern → Pattern
  | [] => .empty
  | [p] => p
  | p :: rest => .seq p (seqAll rest)

def altAll : List Pattern → Pattern
  | [] => .empty
  | [p] => p
  | p :: rest => .alt p (altAll rest)

end Pattern

end BookmarkSearch.Regex
