import BookmarkSearch.Regex.Pattern

/-!
How large an automaton for a pattern would be. Counted repetition makes a copy for every count, so
a short pattern can stand for a huge one; those are refused by this estimate. A state costs a fixed
number of bytes, and a state with several ways on costs some more for each. A single character takes
a state for each byte. A set of several is taken apart into sequences of byte ranges of its UTF-8
forms, which share their beginnings.
-/

namespace BookmarkSearch.Regex

open Unicode

def stateCost : Nat := 32

def costLimit : Nat := Nat.pow 2 20

def utf8Digits (n : Nat) : Nat → List Nat
  | 0 => [n]
  | extra + 1 => utf8Digits (n / 64) extra ++ [n % 64]

/-- Byte ranges for the numbers from `lo` to `hi`, both given as digits in base 64. -/
def rangeSequences (lo hi : List Nat) : List (List (Nat × Nat)) :=
  match lo, hi with
  | l :: low, h :: high =>
    if l = h then (rangeSequences low high).map ((l, h) :: ·)
    else
      let fromZero := low.all (· == 0)
      let toTop := high.all (· == 63)
      let below :=
        if fromZero then []
        else (rangeSequences low (List.replicate high.length 63)).map ((l, l) :: ·)
      let above :=
        if toTop then []
        else (rangeSequences (List.replicate low.length 0) high).map ((h, h) :: ·)
      let first := if fromZero then l else l + 1
      let last := if toTop then h else h - 1
      let between := if first ≤ last then [(first, last) :: low.map fun _ => (0, 63)] else []
      below ++ between ++ above
  | _, _ => [[]]
termination_by lo.length + hi.length
decreasing_by all_goals simp only [List.length_cons, List.length_replicate]; omega

/-- The lengths of UTF-8 forms: bytes after the first, first and last code point. -/
def utf8Lengths : List (Nat × Nat × Nat) :=
  [(0, 0, 0x7F), (1, 0x80, 0x7FF), (2, 0x800, 0xFFFF), (3, 0x10000, lastCodePoint)]

def spanSequences (span : Nat × Nat) : List (List (Nat × Nat)) :=
  utf8Lengths.flatMap fun (extra, lo, hi) =>
    let a := max span.1 lo
    let b := min span.2 hi
    if a ≤ b then
      (rangeSequences (utf8Digits a extra) (utf8Digits b extra)).map ((extra, extra) :: ·)
    else []

def unshared : List (Nat × Nat) → List (Nat × Nat) → Nat
  | a :: before, b :: s => if a = b then unshared before s else (b :: s).length
  | _, s => s.length

def newStates : List (Nat × Nat) → List (List (Nat × Nat)) → Nat
  | _, [] => 0
  | before, s :: rest => unshared before s + newStates s rest

def setCost (set : CodeSet) : Nat :=
  match set.single? with
  | some c => stateCost * c.utf8Size
  | none =>
    if set.isAscii then 2 * stateCost + 8 * set.spans.length
    else
      let sequences := set.spans.flatMap spanSequences
      stateCost * (2 + newStates [] sequences) + 4 * sequences.length

namespace Pattern

def cost : Pattern → Nat
  | .empty | .place _ => stateCost
  | .oneOf set => setCost set
  | .seq l r => l.cost + r.cost
  | .alt l r => l.cost + r.cost + 2 * stateCost
  | .repeated least none body => max least 1 * body.cost + 3 * stateCost
  | .repeated least (some most) body =>
    least * body.cost + (most - least) * (body.cost + stateCost + 8) + stateCost
  | .capture body => body.cost + 2 * stateCost

end Pattern

end BookmarkSearch.Regex
