import BookmarkSearch.Proofs.Saved.Persistence

/-!
All that saving and removing can do to a store. What fails leaves it as it is, and what has been
saved can be got again, under the number it was given or under one it had before.
-/

namespace BookmarkSearch.Saved

theorem lookup_ascending {records : List Record}
    (ascending : records.Pairwise fun a b => a.1 < b.1) {r : Record} (member : r ∈ records) :
    records.lookup r.1 = some r.2 := by
  induction records with
  | nil => cases member
  | cons s rest ih =>
    obtain ⟨first, others⟩ := List.pairwise_cons.mp ascending
    rcases List.mem_cons.mp member with rfl | later
    · exact List.lookup_cons_self
    · have other : (r.1 == s.1) = false := by
        have less := first r later
        simp only [beq_eq_false_iff_ne, ne_eq]
        omega
      rw [List.lookup_cons, other]
      exact ih others later

/-- Ascending numbers stand once, so that removing one takes away one record. -/
theorem filter_number {records : List Record} {id : Nat} {bytes : Text.Bytes}
    (ascending : records.Pairwise fun a b => a.1 < b.1) (found : records.lookup id = some bytes) :
    ∃ front back, records = front ++ (id, bytes) :: back ∧
      records.filter (·.1 != id) = front ++ back := by
  obtain ⟨front, back, rfl, -⟩ := List.lookup_eq_some_iff.mp found
  obtain ⟨-, behind, before⟩ := List.pairwise_append.mp ascending
  have smaller : ∀ r ∈ front, (r.1 != id) = true := by
    intro r member
    have less := before r member (id, bytes) List.mem_cons_self
    exact bne_iff_ne.mpr (Nat.ne_of_lt less)
  have larger : ∀ r ∈ back, (r.1 != id) = true := by
    intro r member
    have less := (List.pairwise_cons.mp behind).1 r member
    exact bne_iff_ne.mpr (Nat.ne_of_gt less)
  refine ⟨front, back, rfl, ?_⟩
  rw [List.filter_append, List.filter_cons_of_neg (by simp),
    List.filter_eq_self.mpr smaller, List.filter_eq_self.mpr larger]

/-- A query that is found to be saved stands in a record. -/
theorem exists_of_isSaved {s : SavedQuery} {records : List Record}
    (found : isSaved s records = .ok true) : ∃ r ∈ records, SavedQuery.decode r.2 = .ok s := by
  induction records with
  | nil => cases found
  | cons r rest ih =>
    rw [isSaved] at found
    cases read : SavedQuery.decode r.2 with
    | error cause =>
      rw [read] at found
      cases found
    | ok saved =>
      rw [read] at found
      change (if saved = s then Except.ok true else isSaved s rest) = .ok true at found
      split at found
      · rename_i same
        exact ⟨r, List.mem_cons_self, by rw [read, same]⟩
      · obtain ⟨t, member, here⟩ := ih found
        exact ⟨t, List.mem_cons_of_mem r member, here⟩

theorem ok_of_mapError {ε δ α : Type} {x : Except ε α} {f : ε → δ} {a : α}
    (done : x.mapError f = .ok a) : x = .ok a := by
  cases x with
  | error cause => cases done
  | ok b =>
    cases done
    rfl

namespace Store

theorem lt_nextId {store : Store} {r : Record} (member : r ∈ store.records) :
    r.1 < store.nextId := by
  rw [nextId, Nat.lt_succ_iff]
  rcases List.eq_nil_or_concat store.records with none | ⟨older, newest, whole⟩
  · rw [none] at member
    cases member
  · have ascending := store.ascending
    rw [whole, List.concat_eq_append] at member ascending
    rw [whole, List.concat_eq_append]
    rw [List.getLast?_concat, Option.elim_some]
    rcases List.mem_append.mp member with old | last
    · have less := (List.pairwise_append.mp ascending).2.2 r old newest (List.mem_singleton_self _)
      exact Nat.le_of_lt less
    · have same : r = newest := List.mem_singleton.mp last
      exact Nat.le_of_eq (congrArg Prod.fst same)

/-- The number of a new record can be read again as long as the numbers before it are not at the
end of their range. -/
theorem nextId_lt {store : Store} (small : ∀ r ∈ store.records, r.1 < numberBound - 1) :
    store.nextId < numberBound := by
  rw [nextId]
  cases newest : store.records.getLast? with
  | none => decide
  | some r =>
    have below := small r (List.mem_of_getLast? newest)
    simp only [Option.elim_some]
    omega

theorem get_of_mem {store : Store} {r : Record} (member : r ∈ store.records) {s : SavedQuery}
    (read : SavedQuery.decode r.2 = .ok s) : store.get r.1 = .ok s := by
  rw [get, find?, lookup_ascending store.ascending member]
  change (SavedQuery.decode r.2).mapError _ = _
  rw [read]
  rfl

/-- A new record comes behind all others. -/
theorem put_nextId (store : Store) (bytes : Text.Bytes) :
    (store.put store.nextId bytes).records = store.records ++ [(store.nextId, bytes)] :=
  insertRecord_newest fun _ member => lt_nextId member

theorem save_known {store : Store} {s : SavedQuery} (known : isSaved s store.records = .ok true) :
    store.save s = (.ok none, store) := by
  rw [save, known]

theorem save_new {store : Store} {s : SavedQuery} (new : isSaved s store.records = .ok false) :
    store.save s = (.ok (some store.nextId), store.put store.nextId s.encode) := by
  rw [save, new]

theorem save_unreadable {store : Store} {s : SavedQuery} {cause : RecordError}
    (stopped : isSaved s store.records = .error cause) :
    store.save s = (.error (.unreadable cause), store) := by
  rw [save, stopped]

/-- All that saving can do. -/
theorem save_cases {store next : Store} {s : SavedQuery}
    {answer : Except StoreError (Option Nat)} (saved : store.save s = (answer, next)) :
    (∃ cause, isSaved s store.records = .error cause ∧ answer = .error (.unreadable cause) ∧
      next = store) ∨
    isSaved s store.records = .ok true ∧ answer = .ok none ∧ next = store ∨
    isSaved s store.records = .ok false ∧ answer = .ok (some store.nextId) ∧
      next.records = store.records ++ [(store.nextId, s.encode)] := by
  cases known : isSaved s store.records with
  | error cause =>
    rw [save_unreadable known] at saved
    obtain ⟨rfl, rfl⟩ := Prod.mk.inj saved
    exact .inl ⟨cause, rfl, rfl, rfl⟩
  | ok there =>
    cases there with
    | true =>
      rw [save_known known] at saved
      obtain ⟨rfl, rfl⟩ := Prod.mk.inj saved
      exact .inr (.inl ⟨rfl, rfl, rfl⟩)
    | false =>
      rw [save_new known] at saved
      obtain ⟨rfl, rfl⟩ := Prod.mk.inj saved
      exact .inr (.inr ⟨rfl, rfl, put_nextId store s.encode⟩)

/-- A query that cannot be saved leaves the store as it is. -/
theorem save_reverts {store next : Store} {s : SavedQuery} {cause : StoreError}
    (failed : store.save s = (.error cause, next)) : next = store := by
  rcases save_cases failed with ⟨_, -, -, same⟩ | ⟨-, answer, -⟩ | ⟨-, answer, -⟩
  · exact same
  · cases answer
  · cases answer

/-- All that removing can do. -/
theorem remove_cases {store next : Store} {id : Nat} {answer : Except StoreError Unit}
    (removed : store.remove id = (answer, next)) :
    answer = .error (.notFound id) ∧ next = store ∨
      ∃ front bytes back, answer = .ok () ∧ store.records = front ++ (id, bytes) :: back ∧
        next.records = front ++ back := by
  cases found : store.find? id with
  | none =>
    rw [remove, found] at removed
    obtain ⟨rfl, rfl⟩ := Prod.mk.inj removed
    exact .inl ⟨rfl, rfl⟩
  | some bytes =>
    rw [remove, found] at removed
    obtain ⟨rfl, rfl⟩ := Prod.mk.inj removed
    obtain ⟨front, back, whole, rest⟩ := filter_number store.ascending found
    exact .inr ⟨front, bytes, back, rfl, whole, rest⟩

theorem remove_reverts {store next : Store} {id : Nat} {cause : StoreError}
    (failed : store.remove id = (.error cause, next)) : next = store := by
  rcases remove_cases failed with ⟨-, same⟩ | ⟨_, _, _, answer, -⟩
  · exact same
  · cases answer

/-- A query that has been saved is there, as the newest one if it was not there before. -/
theorem get_of_save {store next : Store} {s : SavedQuery} {given : Option Nat}
    (saved : store.save s = (.ok given, next)) :
    ∃ id, next.get id = .ok s ∧ (given = some id ∨ given = none ∧ next = store) := by
  rcases save_cases saved with ⟨_, -, answer, -⟩ | ⟨known, answer, rfl⟩ | ⟨-, answer, more⟩
  · cases answer
  · obtain rfl := Except.ok.inj answer
    obtain ⟨r, member, read⟩ := exists_of_isSaved known
    exact ⟨r.1, get_of_mem member read, .inr ⟨rfl, rfl⟩⟩
  · obtain rfl := Except.ok.inj answer
    have whole := s.decode_encode []
    rw [List.append_nil] at whole
    have member : (store.nextId, s.encode) ∈ next.records := by
      rw [more]
      exact List.mem_append_right _ (List.mem_singleton_self _)
    exact ⟨store.nextId, get_of_mem member whole, .inl rfl⟩

end Store

end BookmarkSearch.Saved
