import BookmarkSearch.Text.Basic
import BookmarkSearch.Unicode.Blank

/-!
Numbers below 2^64 as a person writes them: decimal digits, with a plus sign in front if one likes
and blanks around.
-/

namespace BookmarkSearch.Saved

def numberBound : Nat := UInt64.size

inductive NumberError where
  | empty
  | invalidDigit
  | overflow
deriving DecidableEq, Repr

namespace NumberError

def message : NumberError → String
  | .empty => "cannot parse integer from empty string"
  | .invalidDigit => "invalid digit found in string"
  | .overflow => "number too large to fit in target type"

end NumberError

def readDigits (n : Nat) : List Char → Except NumberError Nat
  | [] => .ok n
  | c :: rest =>
    if !c.isDigit then .error .invalidDigit
    else
      let next := 10 * n + Text.digitValue c
      if next < numberBound then readDigits next rest else .error .overflow

def readNumber (text : String) : Except NumberError Nat :=
  match Unicode.trimBy Unicode.isBlank text.toList with
  | [] => .error .empty
  | ['+'] => .error .invalidDigit
  | '+' :: digits => readDigits 0 digits
  | digits => readDigits 0 digits

end BookmarkSearch.Saved
