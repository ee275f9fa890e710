import BookmarkSearch.Saved.Record

/-!
The store of saved queries: records under ascending numbers. A saved query gets the number after
the largest one in use, so the list from the newest on is the list by descending number. The store
does not look at a record until it needs to, and a record that cannot be read stays where it is.
-/

namespace BookmarkSearch.Saved

open Text

inductive StoreError where
  | notFound (id : Nat)
  | unreadable (cause : RecordError)
deriving DecidableEq, Repr

namespace StoreError

def message : StoreError → Option String
  | .notFound id => some ("Saved query " ++ toString id ++ " not found")
  | .unreadable cause => cause.message.map fun m => "Database error: Decode error: " ++ m

end StoreError

abbrev Record := Nat × Bytes

structure Store where
  records : List Record
  ascending : records.Pairwise fun a b => a.1 < b.1

def insertRecord (r : Record) : List Record → List Record
  | [] => [r]
  | s :: rest =>
    if r.1 < s.1 then r :: s :: rest
    else if r.1 = s.1 then r :: rest
    else s :: insertRecord r rest

theorem mem_insertRecord {r t : Record} {records : List Record}
    (h : t ∈ insertRecord r records) : t = r ∨ t ∈ records := by
  induction records with
  | nil => simpa [insertRecord] using h
  | cons s rest ih =>
    unfold insertRecord at h
    split at h
    · simpa using h
    split at h
    · rcases List.mem_cons.mp h with rfl | member
      · exact .inl rfl
      · exact .inr (List.mem_cons_of_mem _ member)
    · rcases List.mem_cons.mp h with rfl | member
      · exact .inr List.mem_cons_self
      · exact (ih member).imp_right (List.mem_cons_of_mem _)

theorem insertRecord_ascending (r : Record) {records : List Record}
    (h : records.Pairwise fun a b => a.1 < b.1) :
    (insertRecord r records).Pairwise fun a b => a.1 < b.1 := by
  induction records with
  | nil => simp [insertRecord]
  | cons s rest ih =>
    obtain ⟨first, others⟩ := List.pairwise_cons.mp h
    unfold insertRecord
    split
    · rename_i less
      refine List.pairwise_cons.mpr ⟨fun t member => ?_, h⟩
      rcases List.mem_cons.mp member with rfl | later
      · exact less
      · exact Nat.lt_trans less (first t later)
    split
    · rename_i same
      exact List.pairwise_cons.mpr ⟨fun t member => same ▸ first t member, others⟩
    · refine List.pairwise_cons.mpr ⟨fun t member => ?_, ih others⟩
      rcases mem_insertRecord member with rfl | later
      · omega
      · exact first t later

/-- Whether a query is among the records. They are read in turn until it is found, and one that
cannot be read before that is an error. -/
def isSaved (s : SavedQuery) : List Record → Except RecordError Bool
  | [] => .ok false
  | r :: rest => do
    let saved ← SavedQuery.decode r.2
    if saved = s then return true else isSaved s rest

def readRecords : List Record → Except RecordError (List (Nat × SavedQuery))
  | [] => .ok []
  | r :: rest => do
    let saved ← SavedQuery.decode r.2
    return (r.1, saved) :: (← readRecords rest)

namespace Store

def empty : Store := ⟨[], List.Pairwise.nil⟩

def put (store : Store) (id : Nat) (bytes : Bytes) : Store :=
  ⟨insertRecord (id, bytes) store.records, insertRecord_ascending _ store.ascending⟩

def find? (store : Store) (id : Nat) : Option Bytes := store.records.lookup id

def nextId (store : Store) : Nat := (store.records.getLast?.elim 0 (·.1)) + 1

def save (store : Store) (s : SavedQuery) : Except StoreError (Option Nat) × Store :=
  match isSaved s store.records with
  | .error cause => (.error (.unreadable cause), store)
  | .ok true => (.ok none, store)
  | .ok false => (.ok (some store.nextId), store.put store.nextId s.encode)

def get (store : Store) (id : Nat) : Except StoreError SavedQuery :=
  match store.find? id with
  | none => .error (.notFound id)
  | some bytes => (SavedQuery.decode bytes).mapError .unreadable

def remove (store : Store) (id : Nat) : Except StoreError Unit × Store :=
  match store.find? id with
  | none => (.error (.notFound id), store)
  | some _ => (.ok (), ⟨store.records.filter (·.1 != id), store.ascending.filter _⟩)

def list (store : Store) : Except StoreError (List (Nat × SavedQuery)) :=
  (readRecords store.records.reverse).mapError .unreadable

def clear (store : Store) : Nat × Store := (store.records.length, empty)

end Store

def reportSaved (id : Nat) (s : SavedQuery) : String :=
  toString id ++ "\t" ++ s.query.text ++ (if s.mode.tagsOnly then "\t[tags]" else "") ++
    (if s.mode.allRegex then "\t[regex]" else "")

end BookmarkSearch.Saved
