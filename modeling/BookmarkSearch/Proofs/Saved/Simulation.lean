import BookmarkSearch.Proofs.Saved.Persistence
import BookmarkSearch.Proofs.Saved.Shelf

/-!
A store and a shelf answer alike: the records of the store are the entries of the shelf, oldest
first, each with its query as bytes.
-/

namespace BookmarkSearch.Saved

def stored (entry : Nat × SavedQuery) : Record := (entry.1, entry.2.encode)

theorem decode_stored (entry : Nat × SavedQuery) :
    SavedQuery.decode (stored entry).2 = .ok entry.2 := by
  have whole := entry.2.decode_encode []
  rwa [List.append_nil] at whole

theorem isSaved_stored (s : SavedQuery) (entries : List (Nat × SavedQuery)) :
    isSaved s (entries.map stored) = .ok (decide (s ∈ entries.map (·.2))) := by
  induction entries with
  | nil => rfl
  | cons entry rest ih =>
    simp only [List.map_cons, isSaved, decode_stored, bind, Except.bind]
    by_cases same : entry.2 = s
    · simp [same, pure, Except.pure]
    · have other : s ≠ entry.2 := fun equal => same equal.symm
      rw [if_neg same, ih]
      simp [other]

theorem readRecords_stored (entries : List (Nat × SavedQuery)) :
    readRecords (entries.map stored) = .ok entries := by
  induction entries with
  | nil => rfl
  | cons entry rest ih =>
    simp only [List.map_cons, readRecords, decode_stored, ih, bind, Except.bind]
    rfl

namespace Shelf

def records (shelf : Shelf) : List Record := (shelf.map stored).reverse

theorem records_eq_map (shelf : Shelf) : shelf.records = shelf.reverse.map stored :=
  List.map_reverse.symm

theorem lookup_records {shelf : Shelf} (descending : shelf.Descending) (id : Nat) :
    shelf.records.lookup id = (shelf.lookup id).map SavedQuery.encode := by
  induction shelf with
  | nil => rfl
  | cons entry rest ih =>
    obtain ⟨number, s⟩ := entry
    obtain ⟨top, others⟩ := List.pairwise_cons.mp descending
    have split : records ((number, s) :: rest) = records rest ++ [(number, s.encode)] := by
      simp [records, stored]
    rw [split, List.lookup_append, ih others]
    by_cases here : id = number
    · subst here
      -- Numbers descend, so none of the older entries has this one.
      have absent : rest.lookup id = none := by
        refine List.lookup_eq_none_iff.mpr fun other member => ?_
        exact bne_iff_ne.mpr (Nat.ne_of_gt (top other member))
      simp [absent]
    · have different : (id == number) = false := by simpa using here
      simp [List.lookup_cons, different]

theorem filter_records (shelf : Shelf) (id : Nat) :
    shelf.records.filter (·.1 != id) = records (shelf.filter (·.1 != id)) := by
  rw [records, records, List.filter_reverse, List.filter_map]
  rfl

/-- The last record of a store has its largest number. -/
theorem getLast?_records {shelf : Shelf} (descending : shelf.Descending) :
    shelf.records.getLast?.elim 0 (·.1) = shelf.largest := by
  cases shelf with
  | nil => rfl
  | cons entry rest =>
    have top := (List.pairwise_cons.mp descending).1
    have below : largest rest ≤ entry.1 :=
      largest_le fun other member => Nat.le_of_lt (top other member)
    have whole : largest (entry :: rest) = max entry.1 (largest rest) := rfl
    rw [whole, Nat.max_eq_left below]
    simp [records, stored]

theorem readable_records {shelf : Shelf} {bound : Nat} (tidy : shelf.Tidy bound)
    (small : bound < numberBound) : Store.Readable shelf.records := by
  intro r member
  simp only [records, List.mem_reverse, List.mem_map] at member
  obtain ⟨entry, present, rfl⟩ := member
  exact ⟨Nat.lt_of_le_of_lt (tidy.within entry present).2 small, entry.2.encode_length_lt⟩

end Shelf

namespace Store

variable {store : Store} {shelf : Shelf}

def Follows (store : Store) (shelf : Shelf) (op : Operation) : Prop :=
  (store.perform op).1 = (shelf.perform op).1 ∧
    (store.perform op).2.records = Shelf.records (shelf.perform op).2

theorem find?_shelf (here : store.records = shelf.records)
    (descending : shelf.Descending) (id : Nat) :
    store.find? id = (shelf.lookup id).map SavedQuery.encode := by
  rw [find?, here, Shelf.lookup_records descending]

theorem save_follows (here : store.records = shelf.records)
    (descending : shelf.Descending) (s : SavedQuery) :
    store.Follows shelf (.save s) := by
  have known : isSaved s store.records = .ok (decide (s ∈ shelf.map (·.2))) := by
    rw [here, Shelf.records_eq_map, isSaved_stored]
    simp
  have next : store.nextId = shelf.largest + 1 := by
    rw [nextId, here, Shelf.getLast?_records descending]
  by_cases present : s ∈ shelf.map (·.2)
  · rw [Follows, perform, save, known, decide_eq_true present, Shelf.perform, if_pos present]
    exact ⟨rfl, here⟩
  · rw [Follows, perform, save, known, decide_eq_false present, Shelf.perform, if_neg present,
      next]
    refine ⟨rfl, ?_⟩
    have newest : ∀ r ∈ store.records, r.1 < shelf.largest + 1 := by
      intro r member
      rw [here, Shelf.records] at member
      obtain ⟨entry, old, rfl⟩ := List.mem_map.mp (List.mem_reverse.mp member)
      exact Nat.lt_succ_of_le (Shelf.le_largest old)
    change insertRecord (shelf.largest + 1, s.encode) store.records = _
    rw [insertRecord_newest newest, here]
    simp [Shelf.records, stored]

theorem get_follows (here : store.records = shelf.records)
    (descending : shelf.Descending) (id : Nat) :
    store.Follows shelf (.get id) := by
  have found := find?_shelf here descending id
  cases present : shelf.lookup id with
  | none =>
    rw [present] at found
    simp only [Follows, perform, Reply.ofResult, get, found, Option.map_none, Shelf.perform,
      present, true_and]
    exact here
  | some s =>
    have got : store.get id = .ok s := by
      rw [present] at found
      rw [get, found]
      change (SavedQuery.decode (stored (id, s)).2).mapError _ = _
      rw [decode_stored]
      rfl
    simp only [Follows, perform, Reply.ofResult, got, Shelf.perform, present, true_and]
    exact here

theorem remove_follows (here : store.records = shelf.records)
    (descending : shelf.Descending) (id : Nat) :
    store.Follows shelf (.remove id) := by
  have found := find?_shelf here descending id
  cases present : shelf.lookup id with
  | none =>
    rw [present] at found
    simp only [Follows, perform, Reply.ofResult, remove, found, Option.map_none, Shelf.perform,
      present, true_and]
    exact here
  | some s =>
    rw [present] at found
    simp only [Follows, perform, Reply.ofResult, remove, found, Option.map_some, Shelf.perform,
      present, true_and]
    rw [here, Shelf.filter_records]

theorem list_shelf (here : store.records = shelf.records) : store.list = .ok shelf := by
  have newestFirst : store.records.reverse = shelf.map stored := by
    rw [here, Shelf.records, List.reverse_reverse]
  rw [list, newestFirst, readRecords_stored]
  rfl

theorem perform_follows {bound : Nat} (here : store.records = shelf.records)
    (tidy : shelf.Tidy bound) (small : bound < numberBound) (op : Operation) :
    store.Follows shelf op := by
  cases op with
  | save s => exact save_follows here tidy.descending s
  | get id => exact get_follows here tidy.descending id
  | remove id => exact remove_follows here tidy.descending id
  | list =>
    simp only [Follows, perform, list_shelf here]
    exact ⟨rfl, here⟩
  | clear =>
    have count : store.records.length = shelf.length := by simp [here, Shelf.records]
    simp only [Follows, perform, clear, count]
    exact ⟨rfl, rfl⟩
  | reopen =>
    have readable : Readable store.records := here ▸ Shelf.readable_records tidy small
    simp only [Follows, perform, decode?_encode store readable]
    exact ⟨rfl, here⟩

/-- From a store that stands for a shelf, operations give what they give on the shelf. The numbers
stay small enough for the file as long as there are not too many savings. -/
theorem performAll_follows {bound : Nat} (here : store.records = shelf.records)
    (tidy : shelf.Tidy bound) (ops : List Operation)
    (few : bound + ops.countP Operation.isSave < numberBound) :
    (performAll perform store ops).1 = (performAll Shelf.perform shelf ops).1 ∧
      (performAll perform store ops).2.records =
        Shelf.records (performAll Shelf.perform shelf ops).2 := by
  induction ops generalizing store shelf bound with
  | nil => exact ⟨rfl, here⟩
  | cons op ops ih =>
    rw [Operation.countP_isSave_cons, ← Nat.add_assoc] at few
    have small : bound < numberBound := by omega
    obtain ⟨reply, next⟩ := perform_follows here tidy small op
    obtain ⟨replies, last⟩ := ih next (Shelf.perform_tidy tidy op) few
    simp only [performAll, reply, replies, true_and]
    exact last

/-- From a fresh store, operations give what they give on an empty shelf, on which some of what has
been saved comes to stand. -/
theorem performAll_fresh (ops : List Operation)
    (few : ops.countP Operation.isSave < numberBound - 1) :
    (performAll perform empty ops).1 = (performAll Shelf.perform [] ops).1 ∧
      (performAll perform empty ops).2.records =
        Shelf.records (performAll Shelf.perform [] ops).2 ∧
      Shelf.Tidy (ops.countP Operation.isSave) (performAll Shelf.perform [] ops).2 ∧
      (performAll Shelf.perform [] ops).2.Sublist
        (savings ops (performAll Shelf.perform [] ops).1).reverse := by
  have enough : 0 + ops.countP Operation.isSave < numberBound := by omega
  have fresh : empty.records = Shelf.records [] := rfl
  obtain ⟨replies, last⟩ := performAll_follows fresh Shelf.Tidy.empty ops enough
  have tidy := Shelf.performAll_tidy Shelf.Tidy.empty ops
  have order := Shelf.performAll_sublist [] ops
  rw [Nat.zero_add] at tidy
  rw [List.append_nil] at order
  exact ⟨replies, last, tidy, order⟩

/-- Whatever is done with a fresh store, it answers like a shelf, and lists what stands on it: by
descending number, each query once, in the reverse order of saving. -/
theorem performAll_like_shelf (ops : List Operation)
    (few : ops.countP Operation.isSave < numberBound - 1) :
    ∃ replies store shelf,
      performAll perform empty ops = (replies, store) ∧
      performAll Shelf.perform [] ops = (replies, shelf) ∧
      store.list = .ok shelf ∧
      shelf.Descending ∧
      shelf.Sublist (savings ops replies).reverse ∧
      (shelf.map (·.2)).Nodup ∧
      (∀ entry ∈ shelf, 0 < entry.1 ∧ entry.1 < numberBound) ∧
      ∀ r ∈ store.records, ∃ s, SavedQuery.decode r.2 = .ok s ∧ (r.1, s) ∈ shelf := by
  obtain ⟨replies, last, tidy, order⟩ := performAll_fresh ops few
  refine ⟨_, _, _, Prod.ext replies rfl, rfl, list_shelf last, tidy.descending, order,
    tidy.distinct, ?_, ?_⟩
  · intro entry member
    obtain ⟨pos, within⟩ := tidy.within entry member
    exact ⟨pos, by omega⟩
  · intro r member
    rw [last, Shelf.records] at member
    obtain ⟨entry, present, rfl⟩ := List.mem_map.mp (List.mem_reverse.mp member)
    exact ⟨entry.2, decode_stored entry, present⟩

def plainQuery : SavedQuery := ⟨⟨"rust", by decide, by decide, by decide⟩, ⟨false, false⟩⟩

def tagQuery : SavedQuery := ⟨plainQuery.query, ⟨true, false⟩⟩

/-- The same text in another mode is another query, and the number of the newest entry is free
again once that entry is removed. -/
theorem performAll_gives_number_again :
    ∃ store,
      performAll perform empty [.save plainQuery, .save tagQuery, .save plainQuery, .remove 2,
        .get 2, .reopen, .save tagQuery] =
        ([.saved (some 1), .saved (some 2), .saved none, .removed, .failed (.notFound 2),
          .reopened, .saved (some 2)], store) ∧
      store.list = .ok [(2, tagQuery), (1, plainQuery)] := by
  obtain ⟨replies, store, shelf, real, ideal, listed, -⟩ :=
    performAll_like_shelf [.save plainQuery, .save tagQuery, .save plainQuery, .remove 2,
      .get 2, .reopen, .save tagQuery] (by decide)
  have known : performAll Shelf.perform [] [.save plainQuery, .save tagQuery, .save plainQuery,
      .remove 2, .get 2, .reopen, .save tagQuery] =
      ([.saved (some 1), .saved (some 2), .saved none, .removed, .failed (.notFound 2),
        .reopened, .saved (some 2)], [(2, tagQuery), (1, plainQuery)]) := by decide
  obtain ⟨rfl, rfl⟩ := Prod.mk.inj (known.symm.trans ideal)
  exact ⟨store, real, listed⟩

end Store

end BookmarkSearch.Saved
