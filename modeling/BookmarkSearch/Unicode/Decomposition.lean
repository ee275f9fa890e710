import BookmarkSearch.Unicode.Decomposition.Table

/-!
Canonical decomposition. Every character is replaced by its parts, and the parts that combine with
the character before them are put in the order of their combining classes. Order within one class
is kept, and nothing moves past a character of class zero.
-/

namespace BookmarkSearch.Unicode

/-- The parts of the Hangul syllable number `s`: leading consonant, vowel and, if there is one,
trailing consonant. -/
def syllableParts (s : Nat) : List Nat :=
  let pair := [0x1100 + s / 588, 0x1161 + s % 588 / 28]
  if s % 28 = 0 then pair else pair ++ [0x11A7 + s % 28]

def tableParts? (n : Nat) : Option (List Nat) :=
  decompositionRuns.findSome? fun run => if run.1 ≤ n then run.2[n - run.1]? else none

/-- The canonical decomposition of one character. The least code point that has one is U+00C0. -/
def parts (c : Char) : List Char :=
  let n := c.toNat
  if n < 0xC0 then [c]
  else if 0xAC00 ≤ n ∧ n ≤ 0xD7A3 then (syllableParts (n - 0xAC00)).map Char.ofNat
  else match tableParts? n with
    | some ns => ns.map Char.ofNat
    | none => [c]

/-- No character below U+0300 combines with the one before it. -/
def combiningClass (c : Char) : Nat :=
  let n := c.toNat
  if n < 0x300 then 0
  else ((combiningClassRuns.find? fun run => run.1 ≤ n && n ≤ run.2.1).map (·.2.2)).getD 0

/-- Puts `c` in front of a text that is in order, behind the combining characters of lower class. -/
def placeMark (c : Char) : List Char → List Char
  | [] => [c]
  | d :: rest =>
    if 0 < combiningClass d ∧ combiningClass d < combiningClass c then d :: placeMark c rest
    else c :: d :: rest

def orderMarks : List Char → List Char
  | [] => []
  | c :: rest => placeMark c (orderMarks rest)

def decompose (cs : List Char) : List Char := orderMarks (cs.flatMap parts)

end BookmarkSearch.Unicode
