import BookmarkSearch.Text.Basic

/-!
The numbers of JSON texts. A number is accepted if a double can hold it, and the check rounds twice:
the leading digits that fit into a word are rounded to a double, and so is the power of ten.
-/

namespace BookmarkSearch.Json

open Text

inductive ReadError where
  | malformed
  | incomplete
deriving DecidableEq, Repr

/-- The nearest number with at most 53 binary digits before its zeros; a tie goes to the even. -/
def roundTo53 (n : Nat) : Nat :=
  let excess := n.log2 + 1 - 53
  let unit := Nat.pow 2 excess
  let kept := n / unit
  let rest := n % unit
  if unit < 2 * rest ∨ (unit = 2 * rest ∧ kept % 2 = 1) then (kept + 1) * unit else kept * unit

def fitsDouble (significand : Nat) (exponent : Int) : Bool :=
  if significand = 0 ∨ exponent < 0 then true
  else if 308 < exponent then false
  else roundTo53 significand * roundTo53 (Nat.pow 10 exponent.toNat) < doubleBound

def wordBound : Nat := UInt64.size

/-- Digits before the point: those that no longer fit into a word each count as a power of ten. -/
def gatherWhole (significand : Nat) (exponent : Int) (ds : List Char) : Nat × Int :=
  match ds with
  | [] => (significand, exponent)
  | d :: rest =>
    let next := 10 * significand + digitValue d
    if exponent = 0 ∧ next < wordBound then gatherWhole next 0 rest
    else (significand, exponent + ds.length)

def gatherFraction (significand : Nat) (exponent : Int) : List Char → Nat × Int
  | [] => (significand, exponent)
  | d :: rest =>
    let next := 10 * significand + digitValue d
    if next < wordBound then gatherFraction next (exponent - 1) rest else (significand, exponent)

def readDigits (cs : List Char) : Except ReadError (List Char × List Char) :=
  match cs with
  | [] => .error .incomplete
  | c :: _ =>
    if c.isDigit then .ok (cs.takeWhile Char.isDigit, cs.dropWhile Char.isDigit)
    else .error .malformed

def readWhole (cs : List Char) : Except ReadError (List Char × List Char) :=
  match cs with
  | '0' :: rest => if rest.head?.any Char.isDigit then .error .malformed else .ok (['0'], rest)
  | _ => readDigits cs

def readFraction (cs : List Char) : Except ReadError (List Char × List Char) :=
  match cs with
  | '.' :: rest => readDigits rest
  | _ => .ok ([], cs)

def readExponent (cs : List Char) : Except ReadError (Bool × List Char × List Char) :=
  match cs with
  | c :: rest =>
    if c == 'e' || c == 'E' then
      match rest with
      | '+' :: rest => (readDigits rest).map fun (ds, after) => (false, ds, after)
      | '-' :: rest => (readDigits rest).map fun (ds, after) => (true, ds, after)
      | _ => (readDigits rest).map fun (ds, after) => (false, ds, after)
    else .ok (false, [], cs)
  | [] => .ok (false, [], cs)

def readUnsigned (cs : List Char) : Except ReadError (List Char) := do
  let (whole, rest) ← readWhole cs
  let (fraction, rest) ← readFraction rest
  let (negative, power, rest) ← readExponent rest
  let (significand, exponent) := gatherWhole 0 0 whole
  let (significand, exponent) := gatherFraction significand exponent fraction
  let power : Int := naturalOf 10 power
  if fitsDouble significand (if negative then exponent - power else exponent + power) then
    return rest
  else throw .malformed

end BookmarkSearch.Json
