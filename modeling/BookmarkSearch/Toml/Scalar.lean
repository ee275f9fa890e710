import BookmarkSearch.Text.Basic
import BookmarkSearch.Toml.Document

/-!
The values of a document that are written without quotes: truth values, integers, floats and dates.
-/

namespace BookmarkSearch.Toml

open Text

/-- Runs of digits with single underscores between them, the underscores left out. -/
def digitRun? (isDigit : Char → Bool) : List Char → Option (List Char)
  | [] => none
  | [c] => if isDigit c then some [c] else none
  | c :: '_' :: rest => if isDigit c then (digitRun? isDigit rest).map (c :: ·) else none
  | c :: rest => if isDigit c then (digitRun? isDigit rest).map (c :: ·) else none

def isOctalDigit (c : Char) : Bool := '0' ≤ c && c ≤ '7'

def isBinaryDigit (c : Char) : Bool := c == '0' || c == '1'

def decimalRun? (cs : List Char) : Option (List Char) :=
  (digitRun? Char.isDigit cs).bind fun ds =>
    if ds.head? = some '0' ∧ 1 < ds.length then none else some ds

/-- A sign in front, and what follows: whether it is a minus sign, and whether there is one. -/
def splitSign : List Char → Bool × Bool × List Char
  | '+' :: rest => (false, true, rest)
  | '-' :: rest => (true, true, rest)
  | cs => (false, false, cs)

def integer? (cs : List Char) : Option Int :=
  match splitSign cs with
  | (_, false, '0' :: 'x' :: ds) => (digitRun? isHexDigit ds).map fun ds => naturalOf 16 ds
  | (_, false, '0' :: 'o' :: ds) => (digitRun? isOctalDigit ds).map fun ds => naturalOf 8 ds
  | (_, false, '0' :: 'b' :: ds) => (digitRun? isBinaryDigit ds).map fun ds => naturalOf 2 ds
  | (negative, _, ds) =>
    (decimalRun? ds).map fun ds =>
      if negative then -(naturalOf 10 ds : Int) else (naturalOf 10 ds : Int)

def roundsToFinite (ds : List Char) (exponent : Int) : Bool :=
  let n := naturalOf 10 ds
  let size : Int := (ds.dropWhile (· == '0')).length + exponent
  if n = 0 ∨ size < 300 then true
  else if 310 < size then false
  else if 0 ≤ exponent then n * Nat.pow 10 exponent.toNat < doubleBound
  else n < doubleBound * Nat.pow 10 (-exponent).toNat

def isExponentMark (c : Char) : Bool := c == 'e' || c == 'E'

/-- A float with a fraction, an exponent or both, or one of the special values. The result says
whether it is in range. -/
def float? (cs : List Char) : Option Bool := do
  let (_, _, body) := splitSign cs
  if body = ['i', 'n', 'f'] ∨ body = ['n', 'a', 'n'] then return true
  let mantissa := body.takeWhile (!isExponentMark ·)
  let power := body.dropWhile (!isExponentMark ·)
  let whole := mantissa.takeWhile (· != '.')
  let fraction := mantissa.dropWhile (· != '.')
  guard (!(power.isEmpty && fraction.isEmpty))
  let whole ← decimalRun? whole
  let fraction ← match fraction with
    | [] => some []
    | _ :: ds => digitRun? Char.isDigit ds
  let exponent ← match power with
    | [] => some 0
    | _ :: rest =>
      let (negative, _, ds) := splitSign rest
      (digitRun? Char.isDigit ds).map fun ds =>
        if negative then -(naturalOf 10 ds : Int) else (naturalOf 10 ds : Int)
  return roundsToFinite (whole ++ fraction) (exponent - fraction.length)

def fixedDigits? (count : Nat) (cs : List Char) : Option (Nat × List Char) :=
  let ds := cs.take count
  if ds.length = count ∧ ds.all Char.isDigit then some (naturalOf 10 ds, cs.drop count) else none

def expect? (c : Char) : List Char → Option (List Char)
  | d :: rest => if d == c then some rest else none
  | [] => none

def isLeapYear (y : Nat) : Bool := y % 4 == 0 && (y % 100 != 0 || y % 400 == 0)

def daysInMonth (y m : Nat) : Nat :=
  if m = 2 then (if isLeapYear y then 29 else 28)
  else if [4, 6, 9, 11].contains m then 30 else 31

def date? (cs : List Char) : Option (List Char) := do
  let (y, cs) ← fixedDigits? 4 cs
  let (m, cs) ← fixedDigits? 2 (← expect? '-' cs)
  let (d, cs) ← fixedDigits? 2 (← expect? '-' cs)
  guard (1 ≤ m && m ≤ 12 && 1 ≤ d && d ≤ daysInMonth y m)
  return cs

/-- A time of day. Seconds may be left out, and a minute may have a leap second. -/
def time? (cs : List Char) : Option (List Char) := do
  let (hour, cs) ← fixedDigits? 2 cs
  let (minute, cs) ← fixedDigits? 2 (← expect? ':' cs)
  guard (hour ≤ 23 && minute ≤ 59)
  match cs with
  | ':' :: rest => do
    let (second, cs) ← fixedDigits? 2 rest
    guard (second ≤ 60)
    match cs with
    | '.' :: ds =>
      guard (ds.head?.any Char.isDigit)
      return ds.dropWhile Char.isDigit
    | cs => return cs
  | cs => return cs

def offset? (cs : List Char) : Option Unit :=
  match cs with
  | [] | ['Z'] | ['z'] => some ()
  | c :: rest => do
    guard (c == '+' || c == '-')
    let (hour, cs) ← fixedDigits? 2 rest
    let (minute, cs) ← fixedDigits? 2 (← expect? ':' cs)
    guard (cs.isEmpty && hour ≤ 23 && minute ≤ 59)

def datetime? (cs : List Char) : Option Unit :=
  match date? cs with
  | some [] => some ()
  | some (c :: rest) => do
    guard (c == 'T' || c == 't' || c == ' ')
    offset? (← time? rest)
  | none => (time? cs).bind fun rest => if rest.isEmpty then some () else none

def scalar? (cs : List Char) : Option Scalar :=
  if cs = ['t', 'r', 'u', 'e'] then some (.boolean true)
  else if cs = ['f', 'a', 'l', 's', 'e'] then some (.boolean false)
  else (integer? cs).map .integer <|> (float? cs).map .float <|>
    (datetime? cs).map fun _ => .datetime

end BookmarkSearch.Toml
