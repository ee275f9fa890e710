import BookmarkSearch.Query.Token
import BookmarkSearch.Unicode.Blank

/-!
Splitting a query into tokens. Parentheses stand for themselves, a closed pair of quotes with
something in between is one term, and everything else is a word. Any text can be split: a quote
without a partner is part of a word.
-/

namespace BookmarkSearch.Query

open Unicode

def isParen (c : Char) : Bool := c == '(' || c == ')'

/-- Whether `cs` begins with `word`, a word in lower case, in any case of the ASCII letters. -/
def beginsWith (word : List Char) (cs : List Char) : Bool :=
  (cs.take word.length).map Char.toLower == word

def isWord (word : List Char) (cs : List Char) : Bool := cs.map Char.toLower == word

def quotedPhrase? : List Char → Option (List Char × List Char)
  | '"' :: body =>
    match body.dropWhile (· != '"') with
    | _ :: rest =>
      -- Two quotes side by side enclose nothing, and are part of a word.
      if body.head? = some '"' then none else some (body.takeWhile (· != '"'), rest)
    | [] => none
  | _ => none

def startsRegex : List Char → Bool
  | '/' :: _ => true
  | cs => beginsWith ['r', 'e', ':'] cs

def endsWord (cs : List Char) (c : Char) : Bool :=
  if startsRegex cs then isBlank c else isBlank c || isParen c

def wordToken (word : List Char) : Token :=
  if isWord ['a', 'n', 'd'] word then .and
  else if isWord ['o', 'r'] word then .or
  else if isWord ['n', 'o', 't'] word then .not
  else .term (String.ofList word)

def nextToken (c : Char) (cs : List Char) : Token × List Char :=
  if c == '(' then (.openParen, cs)
  else if c == ')' then (.closeParen, cs)
  else match quotedPhrase? (c :: cs) with
    | some (phrase, rest) => (.term (String.ofList phrase), rest)
    | none =>
      let stop := endsWord (c :: cs)
      (wordToken (c :: cs.takeWhile (!stop ·)), cs.dropWhile (!stop ·))

theorem quotedPhrase_rest_length {c : Char} {cs phrase rest : List Char}
    (found : quotedPhrase? (c :: cs) = some (phrase, rest)) : rest.length < cs.length := by
  unfold quotedPhrase? at found
  split at found
  · rename_i body same
    obtain ⟨-, rfl⟩ := List.cons.inj same
    have shorter : (cs.dropWhile (· != '"')).length ≤ cs.length :=
      (List.dropWhile_sublist _).length_le
    split at found
    · rename_i quote after dropped
      rw [dropped, List.length_cons] at shorter
      split at found <;> cases found
      omega
    · cases found
  · cases found

theorem nextToken_rest_length (c : Char) (cs : List Char) :
    (nextToken c cs).2.length ≤ cs.length := by
  unfold nextToken
  split
  · exact Nat.le_refl _
  split
  · exact Nat.le_refl _
  split
  · rename_i found
    exact Nat.le_of_lt (quotedPhrase_rest_length found)
  · exact (List.dropWhile_sublist _).length_le

def scan (cs : List Char) : List Token :=
  match _h : cs.dropWhile isBlank with
  | [] => []
  | c :: rest => (nextToken c rest).1 :: scan (nextToken c rest).2
termination_by cs.length
decreasing_by
  have left : (cs.dropWhile isBlank).length ≤ cs.length := (List.dropWhile_sublist _).length_le
  have right := nextToken_rest_length c rest
  simp only [_h, List.length_cons] at left
  omega

def tokenize (query : String) : List Token := scan query.toList

end BookmarkSearch.Query
