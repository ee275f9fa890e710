import BookmarkSearch.Query.QueryText
import BookmarkSearch.Search.Basic
import BookmarkSearch.Text.Basic

/-!
A saved query and its record: a version byte, the length of the text in bytes, the text in UTF-8
and a byte for each flag. The length has seven bits to a byte, lowest first, with the high bit set
on every byte but the last. A record may be followed by anything.
-/

namespace BookmarkSearch.Saved

open Query Search Text

structure SavedQuery where
  query : QueryText
  mode : Mode
deriving DecidableEq

inductive RecordError where
  | empty
  | unsupportedVersion (version : UInt8)
  | unexpectedEnd
  | badLength
  | badText
  | badQuery (cause : QueryTextError)
  | badFlag
deriving DecidableEq, Repr

namespace RecordError

/-- What is wrong with a record. Damage behind the version byte has no wording of its own. -/
def message : RecordError → Option String
  | .empty => some "empty saved query record"
  | .unsupportedVersion v => some ("unsupported saved query version: " ++ toString v.toNat)
  | _ => none

end RecordError

def recordVersion : UInt8 := 1

def maxLengthBytes : Nat := 10

def writeLength (n : Nat) : Bytes :=
  if n < 128 then [n.toUInt8] else (n % 128 + 128).toUInt8 :: writeLength (n / 128)
termination_by n
decreasing_by omega

/-- Reads a length of at most `room` bytes. The last of ten bytes has one bit left to fill. -/
def readLength : Nat → Bytes → Except RecordError (Nat × Bytes)
  | 0, _ => .error .badLength
  | _ + 1, [] => .error .unexpectedEnd
  | room + 1, b :: rest =>
    if b.toNat < 128 then
      if room = 0 ∧ 1 < b.toNat then .error .badLength else .ok (b.toNat, rest)
    else
      (readLength room rest).map fun (n, after) => (b.toNat - 128 + 128 * n, after)

def writeFlag (flag : Bool) : UInt8 := if flag then 1 else 0

def readFlag : Bytes → Except RecordError (Bool × Bytes)
  | [] => .error .unexpectedEnd
  | b :: rest =>
    if b = 0 then .ok (false, rest) else if b = 1 then .ok (true, rest) else .error .badFlag

def readText (n : Nat) (bytes : Bytes) : Except RecordError (String × Bytes) :=
  if bytes.length < n then .error .unexpectedEnd
  else match ofBytes? (bytes.take n) with
    | some text => .ok (text, bytes.drop n)
    | none => .error .badText

namespace SavedQuery

def encode (s : SavedQuery) : Bytes :=
  let text := bytesOf s.query.text
  recordVersion :: writeLength text.length ++ text ++
    [writeFlag s.mode.tagsOnly, writeFlag s.mode.allRegex]

def decode : Bytes → Except RecordError SavedQuery
  | [] => .error .empty
  | version :: payload =>
    if version ≠ recordVersion then .error (.unsupportedVersion version)
    else do
      let (length, rest) ← readLength maxLengthBytes payload
      let (text, rest) ← readText length rest
      -- The text is checked as a query before the flags are looked at.
      let query ← (QueryText.ofString text).mapError RecordError.badQuery
      let (tagsOnly, rest) ← readFlag rest
      let (allRegex, _) ← readFlag rest
      return ⟨query, ⟨tagsOnly, allRegex⟩⟩

end SavedQuery

end BookmarkSearch.Saved
