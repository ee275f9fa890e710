import BookmarkSearch.Unicode.CodeSet
import BookmarkSearch.Unicode.LetterCase

/-!
Sets closed under case: with a character they hold all that differ from it in case only.
-/

namespace BookmarkSearch.Unicode

def foldPairs : List (Nat × Nat) := foldRuns.flatMap CaseRun.pairs

namespace CodeSet

def variantsOf (c : Char) : CodeSet := ofSpans ((caseVariants c.toNat).map fun n => (n, n))

/-- What the set's members fold to, and all that folds to the same. -/
def caseClosure (s : CodeSet) : CodeSet :=
  let images := foldPairs.filterMap fun (n, image) =>
    if s.holds n || s.holds image then some (image, image) else none
  let folded := ofSpans images
  let sources := foldPairs.filterMap fun (n, image) =>
    if folded.holds image then some (n, n) else none
  ofSpans (s.spans ++ folded.spans ++ sources)

def asciiCaseClosure (s : CodeSet) : CodeSet :=
  let swapped := (List.range 26).flatMap fun k =>
    let upper := 0x41 + k
    let lower := 0x61 + k
    if s.holds upper || s.holds lower then [(upper, upper), (lower, lower)] else []
  ofSpans (s.spans ++ swapped)

end CodeSet

end BookmarkSearch.Unicode
