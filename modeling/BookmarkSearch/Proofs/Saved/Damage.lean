import BookmarkSearch.Proofs.Saved.Operations
import BookmarkSearch.Proofs.Saved.Retrieval
import BookmarkSearch.Proofs.Saved.Scans

/-!
What damaged records do to a store. The order of a scan, and whether it may end early, decide which
operations fail and for what record. An operation that fails has changed nothing, and once the
damaged records are removed none fails for what a record holds.
-/

namespace BookmarkSearch.Saved

theorem mapError_eq_error_iff {ε δ α : Type} {x : Except ε α} {f : ε → δ} {d : δ} :
    x.mapError f = .error d ↔ ∃ e, d = f e ∧ x = .error e := by
  cases x with
  | ok a => exact iff_of_false nofun fun ⟨_, _, failed⟩ => nomatch failed
  | error e =>
    constructor
    · rintro ⟨⟩
      exact ⟨e, rfl, rfl⟩
    · rintro ⟨_, rfl, ⟨⟩⟩
      rfl

def Reply.isRefusal : Reply → Bool
  | .saved none | .failed _ | .lost => true
  | _ => false

def accepted (ops : List Operation) (replies : List Reply) : List Operation :=
  ((ops.zip replies).filter fun done => !done.2.isRefusal).map (·.1)

namespace Store

variable {store : Store} {s : SavedQuery}

theorem eq_of_number {r t : Record} (member : r ∈ store.records) (also : t ∈ store.records)
    (same : r.1 = t.1) : r = t := by
  have first := lookup_ascending store.ascending member
  rw [same, lookup_ascending store.ascending also] at first
  exact Prod.ext same (Option.some.inj first).symm

theorem perform_refusal {op : Operation} (refused : (store.perform op).1.isRefusal = true) :
    (store.perform op).2 = store := by
  cases op with
  | save s =>
    rcases save_cases (store.save s).eta.symm with ⟨_, -, -, same⟩ | ⟨-, -, same⟩ | ⟨-, answer, -⟩
    · exact same
    · exact same
    · simp only [perform, answer] at refused
      cases refused
  | get id => rfl
  | remove id =>
    cases answer : (store.remove id).1 with
    | error cause => exact remove_reverts (Prod.ext answer rfl)
    | ok done =>
      simp only [perform, answer] at refused
      cases refused
  | list => rfl
  | clear => cases refused
  | reopen =>
    cases read : decode? store.encode with
    | none => simp only [perform, read]
    | some again =>
      simp only [perform, read] at refused
      cases refused

/-- A run ends as it would without the operations that are refused in it. -/
theorem performAll_accepted (store : Store) (ops : List Operation) :
    (performAll perform store (accepted ops (performAll perform store ops).1)).2 =
      (performAll perform store ops).2 := by
  induction ops generalizing store with
  | nil => rfl
  | cons op rest ih =>
    have later := ih (store.perform op).2
    cases refused : (store.perform op).1.isRefusal with
    | true =>
      have same := perform_refusal refused
      rw [same] at later
      simpa [performAll, accepted, refused, same] using later
    | false => simpa [performAll, accepted, refused] using later

def FirstDamaged (store : Store) (cause : RecordError) (r : Record) : Prop :=
  r ∈ store.records ∧ Damaged cause r ∧ ∀ t ∈ store.records, t.1 < r.1 → Intact t

def LastDamaged (store : Store) (cause : RecordError) (r : Record) : Prop :=
  r ∈ store.records ∧ Damaged cause r ∧ ∀ t ∈ store.records, r.1 < t.1 → Intact t

/-- The list is read from the newest record on. -/
theorem list_eq_error_iff {cause : StoreError} :
    store.list = .error cause ↔ ∃ e, cause = .unreadable e ∧ ∃ r, store.LastDamaged e r := by
  have descending : store.records.reverse.Pairwise fun a b => b.1 < a.1 :=
    List.pairwise_reverse.mpr store.ascending
  rw [list, mapError_eq_error_iff]
  simp only [readRecords_eq_error_iff, stopsAt_iff (fun _ _ => Nat.lt_asymm) descending,
    List.mem_reverse]
  rfl

theorem list_fails_iff : (∃ cause, store.list = .error cause) ↔ ∃ r ∈ store.records, ¬Intact r := by
  constructor
  · rintro ⟨cause, failed⟩
    obtain ⟨e, -, r, member, damaged, -⟩ := list_eq_error_iff.mp failed
    exact ⟨r, member, damaged.not_intact⟩
  · rintro ⟨r, member, broken⟩
    obtain ⟨e, stops⟩ := exists_stopsAt ⟨r, List.mem_reverse.mpr member, broken⟩
    exact ⟨.unreadable e, mapError_eq_error_iff.mpr ⟨e, rfl, readRecords_eq_error_iff.mpr stops⟩⟩

theorem save_eq_error_iff {cause : StoreError} :
    (store.save s).1 = .error cause ↔
      ∃ e, cause = .unreadable e ∧ isSaved s store.records = .error e := by
  rw [save]
  cases isSaved s store.records with
  | error e =>
    constructor
    · rintro ⟨⟩
      exact ⟨e, rfl, rfl⟩
    · rintro ⟨_, rfl, ⟨⟩⟩
      rfl
  | ok known =>
    constructor
    · intro failed
      cases known <;> cases failed
    · rintro ⟨_, _, ⟨⟩⟩

/-- A query is looked for from the oldest record on, up to the first that holds it. -/
theorem isSaved_stops_iff {e : RecordError} :
    isSaved s store.records = .error e ↔
      ∃ r, store.FirstDamaged e r ∧ ∀ t ∈ store.records, Holds s t → r.1 < t.1 := by
  rw [isSaved_eq_error_iff, stopsAt_iff (fun _ _ => Nat.lt_asymm) store.ascending]
  constructor
  · rintro ⟨r, member, damaged, passed⟩
    refine ⟨r, ⟨member, damaged, fun t inside less => (passed t inside less).1⟩, ?_⟩
    intro t inside holds
    rcases Nat.lt_trichotomy t.1 r.1 with less | same | more
    · exact absurd holds (passed t inside less).2
    · have one := eq_of_number inside member same
      exact absurd (one ▸ holds) damaged.not_holds
    · exact more
  · rintro ⟨r, ⟨member, damaged, intact⟩, behind⟩
    refine ⟨r, member, damaged, fun t inside less => ⟨intact t inside less, fun holds => ?_⟩⟩
    exact Nat.lt_asymm less (behind t inside holds)

theorem save_fails_iff : (∃ cause, (store.save s).1 = .error cause) ↔
    ∃ r ∈ store.records, ¬Intact r ∧ ∀ t ∈ store.records, Holds s t → r.1 < t.1 := by
  constructor
  · rintro ⟨cause, failed⟩
    obtain ⟨e, -, stops⟩ := save_eq_error_iff.mp failed
    obtain ⟨r, ⟨member, damaged, -⟩, behind⟩ := isSaved_stops_iff.mp stops
    exact ⟨r, member, damaged.not_intact, behind⟩
  · rintro ⟨r, member, broken, behind⟩
    -- The first damaged record is not behind this one.
    obtain ⟨e, stops⟩ := exists_stopsAt ⟨r, member, broken⟩
    obtain ⟨first, present, damaged, intact⟩ :=
      (stopsAt_iff (fun _ _ => Nat.lt_asymm) store.ascending).mp stops
    have least : first.1 ≤ r.1 := Nat.not_lt.mp fun less => broken (intact r member less)
    refine ⟨.unreadable e, save_eq_error_iff.mpr ⟨e, rfl, isSaved_stops_iff.mpr ?_⟩⟩
    exact ⟨first, ⟨present, damaged, intact⟩, fun t inside holds =>
      Nat.lt_of_le_of_lt least (behind t inside holds)⟩

/-- A query that can be saved is given no number exactly if it is there already. -/
theorem save_eq_none_iff {given : Option Nat} (saved : (store.save s).1 = .ok given) :
    given = none ↔ ∃ r ∈ store.records, Holds s r := by
  rcases save_cases (store.save s).eta.symm with
    ⟨_, -, answer, -⟩ | ⟨known, answer, -⟩ | ⟨unknown, answer, -⟩
  · rw [answer] at saved
    cases saved
  · rw [answer] at saved
    cases saved
    exact iff_of_true rfl (exists_of_isSaved known)
  · rw [answer] at saved
    cases saved
    exact iff_of_false nofun fun ⟨r, member, holds⟩ => not_holds_of_isSaved unknown member holds

theorem find?_eq_none_iff {id : Nat} :
    store.find? id = none ↔ ∀ r ∈ store.records, r.1 ≠ id := by
  simp only [find?, List.lookup_eq_none_iff, bne_iff_ne, ne_comm]

theorem remove_eq_error_iff {id : Nat} {cause : StoreError} :
    (store.remove id).1 = .error cause ↔
      cause = .notFound id ∧ ∀ r ∈ store.records, r.1 ≠ id := by
  rw [← find?_eq_none_iff, remove]
  cases store.find? id with
  | none =>
    refine ⟨fun failed => ⟨(Except.error.inj failed).symm, rfl⟩, ?_⟩
    rintro ⟨rfl, -⟩
    rfl
  | some bytes => exact iff_of_false (by simp) (by simp)

theorem remove_of_mem {r : Record} (member : r ∈ store.records) :
    ∃ next, store.remove r.1 = (.ok (), next) ∧
      next.records = store.records.filter fun t => decide (t.1 ≠ r.1) := by
  rw [remove, find?, lookup_ascending store.ascending member]
  refine ⟨_, rfl, List.filter_congr fun t _ => ?_⟩
  exact Bool.eq_iff_iff.mpr (by simp)

/-- Records are removed one after the other, in whatever order. -/
theorem performAll_removals {ids : List Nat} (distinct : ids.Nodup)
    (present : ∀ id ∈ ids, ∃ r ∈ store.records, r.1 = id) :
    ∃ next, performAll perform store (ids.map .remove) = (ids.map fun _ => .removed, next) ∧
      next.records = store.records.filter fun r => decide (r.1 ∉ ids) := by
  induction ids generalizing store with
  | nil => exact ⟨store, rfl, (List.filter_eq_self.mpr (by simp)).symm⟩
  | cons id rest ih =>
    obtain ⟨absent, apart⟩ := List.nodup_cons.mp distinct
    obtain ⟨r, member, rfl⟩ := present id List.mem_cons_self
    obtain ⟨fewer, removed, left⟩ := remove_of_mem member
    have others : ∀ id ∈ rest, ∃ t ∈ fewer.records, t.1 = id := by
      intro id later
      obtain ⟨t, inside, rfl⟩ := present id (List.mem_cons_of_mem _ later)
      have other : t.1 ≠ r.1 := fun same => absent (same ▸ later)
      exact ⟨t, left ▸ List.mem_filter.mpr ⟨inside, decide_eq_true other⟩, rfl⟩
    obtain ⟨next, replies, last⟩ := ih apart others
    refine ⟨next, ?_, ?_⟩
    · simp only [List.map_cons, performAll, perform, removed, replies]
      rfl
    · rw [last, left, List.filter_filter]
      refine List.filter_congr fun t _ => ?_
      simp [Bool.and_comm]

/-- A store without damaged records can be listed, and any query can be saved in it. -/
theorem works_of_intact (intact : ∀ r ∈ store.records, Intact r) :
    (∃ entries, store.list = .ok entries ∧
      List.Forall₂ (fun r entry => entry.1 = r.1 ∧ Holds entry.2 r) store.records.reverse
        entries) ∧
    ∀ s, ∃ given next, store.save s = (.ok given, next) ∧ store.records <+: next.records := by
  refine ⟨?_, fun s => ?_⟩
  · cases listed : store.list with
    | error cause =>
      obtain ⟨r, member, broken⟩ := list_fails_iff.mp ⟨cause, listed⟩
      exact absurd (intact r member) broken
    | ok entries =>
      exact ⟨entries, rfl, readRecords_eq_ok_iff.mp (ok_of_mapError listed)⟩
  · rcases saved : store.save s with ⟨answer, next⟩
    rcases save_cases saved with ⟨_, -, rfl, -⟩ | ⟨-, rfl, rfl⟩ | ⟨-, rfl, more⟩
    · obtain ⟨r, member, broken, -⟩ := save_fails_iff.mp ⟨_, congrArg Prod.fst saved⟩
      exact absurd (intact r member) broken
    · exact ⟨none, _, rfl, List.prefix_refl _⟩
    · exact ⟨_, next, rfl, more ▸ List.prefix_append _ _⟩

/-- Once the damaged records are removed, the others are as they were. -/
theorem exists_mended {ids : List Nat} (distinct : ids.Nodup)
    (damaged : ∀ id, id ∈ ids ↔ ∃ r ∈ store.records, r.1 = id ∧ ¬Intact r) :
    ∃ mended, performAll perform store (ids.map .remove) = (ids.map fun _ => .removed, mended) ∧
      mended.records = store.records.filter (Intact ·) := by
  have present : ∀ id ∈ ids, ∃ r ∈ store.records, r.1 = id := by
    intro id member
    obtain ⟨r, inside, same, -⟩ := (damaged id).mp member
    exact ⟨r, inside, same⟩
  obtain ⟨mended, replies, left⟩ := performAll_removals distinct present
  refine ⟨mended, replies, left.trans (List.filter_congr fun r member => ?_)⟩
  rw [decide_eq_decide, damaged]
  constructor
  · intro kept
    by_contra broken
    exact kept ⟨r, member, rfl, broken⟩
  · rintro intact ⟨t, inside, same, broken⟩
    exact broken (eq_of_number inside member same ▸ intact)

/-- An operation that fails, or finds what it is to save, leaves all records as they are. The list
fails for a damaged record, the one with the largest number. Saving fails for one in front of all
that hold the query, the one with the smallest number, and where it does not fail, it gives no
number exactly if one holds the query. Getting looks at one record only, and removing and clearing
at none. Without the damaged records the list and saving succeed. -/
theorem damage_contained (store : Store) (small : ∀ r ∈ store.records, r.1 < numberBound - 1) :
    ((∀ op, (store.perform op).1.isRefusal = true → (store.perform op).2 = store) ∧
      ∀ ops, (performAll perform store (accepted ops (performAll perform store ops).1)).2 =
        (performAll perform store ops).2) ∧
    (((∃ cause, store.list = .error cause) ↔ ∃ r ∈ store.records, ¬Intact r) ∧
      ∀ cause, store.list = .error cause ↔
        ∃ e, cause = .unreadable e ∧ ∃ r, store.LastDamaged e r) ∧
    (∀ s, ((∃ cause, (store.save s).1 = .error cause) ↔
        ∃ r ∈ store.records, ¬Intact r ∧ ∀ t ∈ store.records, Holds s t → r.1 < t.1) ∧
      (∀ cause, (store.save s).1 = .error cause →
        ∃ e, cause = .unreadable e ∧ ∃ r, store.FirstDamaged e r) ∧
      (∀ given, (store.save s).1 = .ok given → (given = none ↔ ∃ r ∈ store.records, Holds s r)) ∧
      ∀ id next, store.save s = (.ok (some id), next) →
        id < numberBound ∧ next.records = store.records ++ [(id, s.encode)]) ∧
    (∀ other id, find? other id = store.find? id → other.get id = store.get id) ∧
    (∀ id cause, (store.remove id).1 = .error cause ↔
      cause = .notFound id ∧ ∀ r ∈ store.records, r.1 ≠ id) ∧
    store.perform .clear = (.cleared store.records.length, empty) ∧
    ∀ ids : List Nat, ids.Nodup → (∀ id, id ∈ ids ↔ ∃ r ∈ store.records, r.1 = id ∧ ¬Intact r) →
      ∃ mended, performAll perform store (ids.map .remove) = (ids.map fun _ => .removed, mended) ∧
        mended.records = store.records.filter (Intact ·) ∧
        (∃ entries, mended.list = .ok entries ∧
          List.Forall₂ (fun r entry => entry.1 = r.1 ∧ Holds entry.2 r) mended.records.reverse
            entries) ∧
        ∀ s, ∃ given next, mended.save s = (.ok given, next) ∧
          mended.records <+: next.records := by
  refine ⟨⟨fun _ => perform_refusal, performAll_accepted store⟩,
    ⟨list_fails_iff, fun _ => list_eq_error_iff⟩,
    fun s => ⟨save_fails_iff, fun cause failed => ?_, fun _ => save_eq_none_iff,
      fun id next saved => ?_⟩,
    fun other id same => ?_, fun _ _ => remove_eq_error_iff, rfl,
    fun ids distinct damaged => ?_⟩
  · obtain ⟨e, here, stops⟩ := save_eq_error_iff.mp failed
    obtain ⟨r, first, -⟩ := isSaved_stops_iff.mp stops
    exact ⟨e, here, r, first⟩
  · rcases save_cases saved with ⟨_, -, answer, -⟩ | ⟨-, answer, -⟩ | ⟨-, answer, more⟩
    · cases answer
    · cases answer
    · cases answer
      exact ⟨nextId_lt small, more⟩
  · rw [get, get, same]
  · obtain ⟨mended, replies, left⟩ := exists_mended distinct damaged
    have intact : ∀ r ∈ mended.records, Intact r := by
      intro r member
      rw [left] at member
      exact of_decide_eq_true (List.mem_filter.mp member).2
    exact ⟨mended, replies, left, works_of_intact intact⟩

def goQuery (tagsOnly : Bool) : SavedQuery :=
  ⟨⟨"go", by decide, by decide, by decide⟩, ⟨tagsOnly, false⟩⟩

def damagedBetween : Store :=
  ⟨[(1, (goQuery false).encode), (2, []), (4, (goQuery true).encode), (7, [9])], by decide⟩

/-- The list fails for the last record and not for the second, which is in the way of saving only
what is behind it. -/
theorem damage_contained_between :
    (∀ r ∈ damagedBetween.records, r.1 < numberBound - 1) ∧
      damagedBetween.list = .error (.unreadable (.unsupportedVersion 9)) ∧
      damagedBetween.save (goQuery false) = (.ok none, damagedBetween) ∧
      (∃ cause, (damagedBetween.save (goQuery true)).1 = .error cause) ∧
      ∃ mended, performAll perform damagedBetween [.remove 2, .remove 7] =
          ([.removed, .removed], mended) ∧
        mended.records = [(1, (goQuery false).encode), (4, (goQuery true).encode)] ∧
        (∃ entries, mended.list = .ok entries) ∧
        ∀ s, ∃ given next, mended.save s = (.ok given, next) := by
  have small : ∀ r ∈ damagedBetween.records, r.1 < numberBound - 1 := by decide
  have intact : damagedBetween.records.filter (Intact ·) =
      [(1, (goQuery false).encode), (4, (goQuery true).encode)] := by decide +kernel
  have broken : (damagedBetween.records.filter (¬Intact ·)).map (·.1) = [2, 7] := by
    decide +kernel
  obtain ⟨-, ⟨-, listed⟩, saving, -, -, -, mending⟩ := damage_contained damagedBetween small
  refine ⟨small, (listed _).mpr ⟨_, rfl, (7, [9]), ?_⟩, ?_, (saving (goQuery true)).1.mpr ?_, ?_⟩
  · unfold LastDamaged Damaged
    decide +kernel
  · exact save_known (by decide +kernel)
  · refine ⟨(2, []), by decide, by decide, ?_⟩
    unfold Holds
    decide +kernel
  · have all (id : Nat) :
        id ∈ [2, 7] ↔ ∃ r ∈ damagedBetween.records, r.1 = id ∧ ¬Intact r := by
      rw [← broken, List.mem_map]
      refine exists_congr fun r => ?_
      rw [List.mem_filter, decide_eq_true_eq, and_assoc, and_congr_right_iff]
      exact fun _ => and_comm
    obtain ⟨mended, replies, left, ⟨entries, whole, -⟩, saves⟩ := mending [2, 7] (by decide) all
    refine ⟨mended, replies, left.trans intact, ⟨entries, whole⟩, fun s => ?_⟩
    obtain ⟨given, next, saved, -⟩ := saves s
    exact ⟨given, next, saved⟩

end Store

end BookmarkSearch.Saved
