import BookmarkSearch.Proofs.Saved.Codec
import BookmarkSearch.Saved.Database

/-!
The file of a store holds the whole of it, as long as its numbers and the lengths of its records
are small enough to be read again.
-/

namespace BookmarkSearch.Saved

/-- A record after all others goes to the end. -/
theorem insertRecord_newest {r : Record} {records : List Record}
    (newest : ∀ s ∈ records, s.1 < r.1) : insertRecord r records = records ++ [r] := by
  induction records with
  | nil => rfl
  | cons s rest ih =>
    have less := newest s List.mem_cons_self
    rw [insertRecord, if_neg (by omega), if_neg (by omega),
      ih fun t member => newest t (List.mem_cons_of_mem _ member), List.cons_append]

namespace Store

def Readable (records : List Record) : Prop :=
  ∀ r ∈ records, r.1 < numberBound ∧ r.2.length < numberBound

theorem encodeRecord_ne_nil (r : Record) : encodeRecord r ≠ [] := by
  rw [encodeRecord, writeLength]
  split <;> simp

theorem readRecord?_encodeRecord (r : Record) (rest : Text.Bytes) (number : r.1 < numberBound)
    (size : r.2.length < numberBound) : readRecord? (encodeRecord r ++ rest) = some (r, rest) := by
  have first := readLength_written (writeLength r.2.length ++ (r.2 ++ rest)) number
  have second := readLength_written (r.2 ++ rest) size
  have fits : (guard (r.2.length ≤ (r.2 ++ rest).length) : Option Unit) = some () :=
    if_pos (by simp)
  rw [encodeRecord, List.append_assoc, List.append_assoc]
  refine Option.bind_eq_some_iff.mpr ⟨(r.1, _), by rw [first]; rfl, ?_⟩
  refine Option.bind_eq_some_iff.mpr ⟨(r.2.length, _), by rw [second]; rfl, ?_⟩
  refine Option.bind_eq_some_iff.mpr ⟨(), fits, ?_⟩
  rw [List.take_left, List.drop_left]
  rfl

/-- There are enough bytes to count the records by. -/
theorem length_le_flatMap_encodeRecord (records : List Record) :
    records.length ≤ (records.flatMap encodeRecord).length := by
  induction records with
  | nil => exact Nat.le_refl _
  | cons r rest ih =>
    have here := List.length_pos_iff.mpr (encodeRecord_ne_nil r)
    simp only [List.flatMap_cons, List.length_cons, List.length_append]
    omega

/-- Records in ascending order, read behind smaller ones, stay in their order. -/
theorem addRecords?_flatMap (records : List Record) (store : Store) (fuel : Nat)
    (enough : records.length ≤ fuel) (readable : Readable records)
    (ascending : (store.records ++ records).Pairwise fun a b => a.1 < b.1) :
    addRecords? fuel store (records.flatMap encodeRecord) =
      some ⟨store.records ++ records, ascending⟩ := by
  induction records generalizing store fuel with
  | nil => cases fuel <;> simp [addRecords?]
  | cons r rest ih =>
    obtain _ | fuel := fuel
    · simp at enough
    obtain ⟨number, size⟩ := readable r List.mem_cons_self
    have others : Readable rest := fun s member => readable s (List.mem_cons_of_mem _ member)
    -- The record comes behind all that are in the store, and in front of the others.
    have newest : ∀ s ∈ store.records, s.1 < r.1 := fun s member =>
      (List.pairwise_append.mp ascending).2.2 s member r List.mem_cons_self
    have here : (store.put r.1 r.2).records = store.records ++ [r] := insertRecord_newest newest
    have later : ((store.put r.1 r.2).records ++ rest).Pairwise fun a b => a.1 < b.1 := by
      simpa [here] using ascending
    rw [List.flatMap_cons, addRecords?, if_neg (by simp [encodeRecord_ne_nil r]),
      readRecord?_encodeRecord r _ number size, Option.bind_some]
    change addRecords? fuel (store.put r.1 r.2) (rest.flatMap encodeRecord) = _
    rw [ih (store.put r.1 r.2) fuel (by simpa using enough) others later]
    simp [here]

/-- Closing a store and opening it again gives the same store. -/
theorem decode?_encode (store : Store) (readable : Readable store.records) :
    decode? store.encode = some store := by
  have body : store.encode.drop heading.length = store.records.flatMap encodeRecord :=
    List.drop_left
  have front : heading.isPrefixOf store.encode = true :=
    List.isPrefixOf_iff_prefix.mpr (List.prefix_append _ _)
  have enough : store.records.length ≤ store.encode.length := by
    have counted := length_le_flatMap_encodeRecord store.records
    rw [encode, List.length_append]
    omega
  have full : store.encode.isEmpty = false := rfl
  rw [decode?, full, if_neg Bool.false_ne_true, if_pos front, body,
    addRecords?_flatMap store.records empty _ enough readable store.ascending]
  rfl

theorem eq_ok_of_toOption {ε α : Type} {x : Except ε α} {a : α} (done : x.toOption = some a) :
    x = .ok a := by
  cases x with
  | error cause => cases done
  | ok b =>
    cases done
    rfl

theorem readable_of_readRecord? {bytes rest : Text.Bytes} {r : Record}
    (read : readRecord? bytes = some (r, rest)) :
    r.1 < numberBound ∧ r.2.length < numberBound := by
  obtain ⟨⟨id, behind⟩, number, read⟩ := Option.bind_eq_some_iff.mp read
  obtain ⟨⟨size, behind⟩, length, read⟩ := Option.bind_eq_some_iff.mp read
  obtain ⟨_, _, read⟩ := Option.bind_eq_some_iff.mp read
  cases read
  have small : size < numberBound := readLength_lt (eq_ok_of_toOption length)
  refine ⟨readLength_lt (eq_ok_of_toOption number), ?_⟩
  exact Nat.lt_of_le_of_lt (List.length_take_le _ _) small

theorem readable_of_addRecords? {fuel : Nat} {store next : Store} {bytes : Text.Bytes}
    (readable : Readable store.records) (added : addRecords? fuel store bytes = some next) :
    Readable next.records := by
  induction fuel generalizing store bytes with
  | zero =>
    rw [addRecords?] at added
    split at added
    · cases added
      exact readable
    · cases added
  | succ fuel ih =>
    rw [addRecords?] at added
    split at added
    · cases added
      exact readable
    · obtain ⟨⟨r, rest⟩, read, others⟩ := Option.bind_eq_some_iff.mp added
      refine ih ?_ others
      intro s member
      rcases mem_insertRecord member with rfl | old
      · exact readable_of_readRecord? read
      · exact readable s old

/-- What has been read from a file can be written and read again. -/
theorem readable_of_decode? {bytes : Text.Bytes} {store : Store}
    (read : decode? bytes = some store) : Readable store.records := by
  have nothing : Readable empty.records := by
    intro r member
    cases member
  rw [decode?] at read
  split at read
  · cases read
    exact nothing
  split at read
  · exact readable_of_addRecords? nothing read
  · cases read

end Store

end BookmarkSearch.Saved
