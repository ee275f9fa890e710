import BookmarkSearch.Saved.Store

/-!
The store as the bytes of a file: a heading, and for each record its number, its length and its
bytes. Numbers and lengths are written like the lengths in records. A file without any bytes is an
empty store.
-/

namespace BookmarkSearch.Saved.Store

open Text

def heading : Bytes := bytesOf "saved queries\n"

def encodeRecord (r : Record) : Bytes := writeLength r.1 ++ writeLength r.2.length ++ r.2

def encode (store : Store) : Bytes := heading ++ store.records.flatMap encodeRecord

def readRecord? (bytes : Bytes) : Option (Record × Bytes) := do
  let (id, bytes) ← (readLength maxLengthBytes bytes).toOption
  let (size, bytes) ← (readLength maxLengthBytes bytes).toOption
  guard (size ≤ bytes.length)
  return ((id, bytes.take size), bytes.drop size)

/-- Puts the records one after the other into a store. There are not more of them than bytes. -/
def addRecords? : Nat → Store → Bytes → Option Store
  | 0, store, bytes => if bytes.isEmpty then some store else none
  | fuel + 1, store, bytes =>
    if bytes.isEmpty then some store
    else (readRecord? bytes).bind fun (r, rest) => addRecords? fuel (store.put r.1 r.2) rest

def decode? (bytes : Bytes) : Option Store :=
  if bytes.isEmpty then some empty
  else if heading.isPrefixOf bytes then
    addRecords? bytes.length empty (bytes.drop heading.length)
  else none

end BookmarkSearch.Saved.Store
