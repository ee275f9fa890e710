/-!
Sets of code points as lists of closed spans. `CodeSet.ofSpans` brings any list of spans into
ascending order and joins what touches, so that complement and intersection can walk the list
once. A set can be written down as text: `CodeSet.ofText` reads the written form.
-/

namespace BookmarkSearch.Unicode

def lastCodePoint : Nat := 0x10FFFF

structure CodeSet where
  spans : List (Nat × Nat)
deriving DecidableEq, Repr

namespace CodeSet

def holds (s : CodeSet) (n : Nat) : Bool := s.spans.any fun span => span.1 ≤ n && n ≤ span.2

def has (s : CodeSet) (c : Char) : Bool := s.holds c.toNat

def empty : CodeSet := ⟨[]⟩

def all : CodeSet := ⟨[(0, lastCodePoint)]⟩

def singleton (c : Char) : CodeSet := ⟨[(c.toNat, c.toNat)]⟩

def isEmpty (s : CodeSet) : Bool := s.spans.isEmpty

def single? : CodeSet → Option Char
  | ⟨[(lo, hi)]⟩ => if lo = hi then some (Char.ofNat lo) else none
  | _ => none

/-- Joins a span to the ones after it as long as they touch it. -/
def join (lo hi : Nat) : List (Nat × Nat) → List (Nat × Nat)
  | [] => [(lo, hi)]
  | (a, b) :: rest => if a ≤ hi + 1 then join lo (max hi b) rest else (lo, hi) :: join a b rest

def ofSpans (spans : List (Nat × Nat)) : CodeSet :=
  match (spans.filter fun span => span.1 ≤ span.2).mergeSort fun a b => a.1 ≤ b.1 with
  | [] => empty
  | (a, b) :: rest => ⟨join a b rest⟩

def union (s t : CodeSet) : CodeSet := ofSpans (s.spans ++ t.spans)

def unionAll (sets : List CodeSet) : CodeSet := ofSpans (sets.flatMap (·.spans))

def gaps (start : Nat) : List (Nat × Nat) → List (Nat × Nat)
  | [] => if start ≤ lastCodePoint then [(start, lastCodePoint)] else []
  | (a, b) :: rest => if start < a then (start, a - 1) :: gaps (b + 1) rest else gaps (b + 1) rest

def complement (s : CodeSet) : CodeSet := ⟨gaps 0 s.spans⟩

def inter (s t : CodeSet) : CodeSet := (s.complement.union t.complement).complement

def diff (s t : CodeSet) : CodeSet := s.inter t.complement

def symmDiff (s t : CodeSet) : CodeSet := (s.diff t).union (t.diff s)

def isAscii (s : CodeSet) : Bool := s.spans.all fun span => span.2 < 128

/-! The written form of a set: for each span in turn, the distance of its first point from the
point after the span before, then one less than its length. A number is written in base 31,
lowest digit first; a digit is one of the first 31 of the 62 digits and letters when it is the
last of its number, and one of the other 31 when more follow. -/

def digitValue (c : Char) : Nat :=
  if c.isDigit then c.toNat - '0'.toNat
  else if c.isUpper then c.toNat - 'A'.toNat + 10
  else c.toNat - 'a'.toNat + 36

/-- The numbers written in `digits`; `weight` and `value` belong to the number being read. -/
def readNumbers (weight value : Nat) : List Char → List Nat
  | [] => []
  | c :: rest =>
    if c.isAlphanum then
      let d := digitValue c
      if d < 31 then (value + weight * d) :: readNumbers 1 0 rest
      else readNumbers (weight * 31) (value + weight * (d - 31)) rest
    else readNumbers weight value rest

def readSpans (start : Nat) : List Nat → List (Nat × Nat)
  | gap :: length :: rest =>
    (start + gap, start + gap + length) :: readSpans (start + gap + length + 1) rest
  | _ => []

def ofText (text : String) : CodeSet := ⟨readSpans 0 (readNumbers 1 0 text.toList)⟩

end CodeSet

end BookmarkSearch.Unicode
