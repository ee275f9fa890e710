import Mathlib.Data.List.Infix
import Mathlib.Data.List.Nodup
import BookmarkSearch.Proofs.Saved.Retrieval
import BookmarkSearch.Proofs.Saved.Simulation

/-!
The numbers of saved queries in the order of saving. A new number is one more than the largest in
use, so it is larger than every number given before exactly if the newest entry has not been taken
away in the meantime.
-/

namespace BookmarkSearch.Saved

theorem Operation.added_eq_some {op : Operation} {reply : Reply} {entry : Nat × SavedQuery} :
    op.added reply = some entry ↔ op = .save entry.2 ∧ reply = .saved (some entry.1) := by
  constructor
  · intro here
    unfold added at here
    split at here
    · cases here
      exact ⟨rfl, rfl⟩
    · cases here
  · rintro ⟨rfl, rfl⟩
    rfl

section Runs

variable {State : Type} (perform : State → Operation → Reply × State) (state : State)

theorem performAll_append (before after : List Operation) :
    performAll perform state (before ++ after) =
      ((performAll perform state before).1 ++
        (performAll perform (performAll perform state before).2 after).1,
        (performAll perform (performAll perform state before).2 after).2) := by
  induction before generalizing state with
  | nil => rfl
  | cons op rest ih => simp only [List.cons_append, performAll, ih]

theorem length_performAll (ops : List Operation) :
    (performAll perform state ops).1.length = ops.length := by
  induction ops generalizing state with
  | nil => rfl
  | cons op rest ih => simp only [performAll, List.length_cons, ih]

/-- The last operation adds its entry behind those of the others. -/
theorem savings_performAll_append (before : List Operation) (op : Operation) :
    savings (before ++ [op]) (performAll perform state (before ++ [op])).1 =
      savings before (performAll perform state before).1 ++
        (op.added (perform (performAll perform state before).2 op).1).toList := by
  have together := (length_performAll perform state before).symm
  rw [performAll_append, savings, List.zip_append together, List.filterMap_append]
  cases added : op.added (perform (performAll perform state before).2 op).1 <;>
    simp [savings, performAll, added]

end Runs

def Increasing (entries : List (Nat × SavedQuery)) : Prop :=
  entries.Pairwise fun older newer => older.1 < newer.1

instance (entries : List (Nat × SavedQuery)) : Decidable (Increasing entries) :=
  inferInstanceAs (Decidable (List.Pairwise _ _))

namespace Increasing

variable {entries : List (Nat × SavedQuery)} {entry other last : Nat × SavedQuery}

theorem concat_iff :
    Increasing (entries ++ [last]) ↔
      Increasing entries ∧ ∀ entry ∈ entries, entry.1 < last.1 := by
  simp [Increasing, List.pairwise_append]

/-- The last number is the largest, and no other entry has it. -/
theorem below_last (increasing : Increasing entries) (newest : entries.getLast? = some last)
    (member : entry ∈ entries) : entry.1 < last.1 ∨ entry = last := by
  obtain ⟨front, rfl⟩ := List.getLast?_eq_some_iff.mp newest
  rcases List.mem_append.mp member with old | here
  · exact .inl ((concat_iff.mp increasing).2 entry old)
  · exact .inr (List.mem_singleton.mp here)

theorem eq_of_number (increasing : Increasing entries) (member : entry ∈ entries)
    (also : other ∈ entries) (same : entry.1 = other.1) : entry = other := by
  have apart : (entries.map (·.1)).Nodup :=
    List.Pairwise.map _ (fun _ _ less => Nat.ne_of_lt less) increasing
  exact List.inj_on_of_nodup_map apart member also same

end Increasing

namespace Shelf

variable {shelf : Shelf} {entry : Nat × SavedQuery}

/-- An entry is added by saving a query that is not on the shelf, under the next number. -/
theorem added_perform {op : Operation} :
    op.added (shelf.perform op).1 = some entry ↔
      op = .save entry.2 ∧ entry.2 ∉ shelf.map (·.2) ∧ entry.1 = shelf.largest + 1 := by
  obtain ⟨number, s⟩ := entry
  cases op with
  | save t =>
    by_cases known : t ∈ shelf.map (·.2)
    · rw [perform, if_pos known]
      constructor
      · intro added
        cases added
      · rintro ⟨same, fresh, -⟩
        cases same
        exact absurd known fresh
    · rw [perform, if_neg known]
      constructor
      · intro added
        cases added
        exact ⟨rfl, known, rfl⟩
      · rintro ⟨same, -, rfl⟩
        cases same
        rfl
  | get id | remove id => simp [Operation.added]
  | list | clear | reopen => simp [Operation.added]

theorem exists_of_le_largest {n : Nat} (pos : 0 < n) (le : n ≤ shelf.largest) :
    ∃ entry ∈ shelf, n ≤ entry.1 := by
  by_contra none
  push Not at none
  have below : shelf.largest ≤ n - 1 := largest_le fun entry member => by
    have less := none entry member
    omega
  omega

/-- What is on a shelf has been saved, and the numbers in use count from one. -/
theorem savings_positive (shelf : Shelf) (ops : List Operation) :
    ∀ entry ∈ savings ops (performAll perform shelf ops).1, 0 < entry.1 := by
  induction ops generalizing shelf with
  | nil => simp [savings]
  | cons op rest ih =>
    intro entry member
    simp only [performAll, savings_cons] at member
    rcases List.mem_append.mp member with here | later
    · rw [Option.mem_toList] at here
      obtain ⟨-, -, next⟩ := added_perform.mp here
      omega
    · exact ih _ entry later

/-- The next number is larger than all that have been given if and only if the newest entry is
still there. -/
theorem exceeds_iff {past : List (Nat × SavedQuery)} (increasing : Increasing past)
    (positive : ∀ entry ∈ past, 0 < entry.1) (part : ∀ entry ∈ shelf, entry ∈ past) :
    (∀ entry ∈ past, entry.1 < shelf.largest + 1) ↔ ∀ last ∈ past.getLast?, last ∈ shelf := by
  constructor
  · intro exceeds last newest
    have member := List.mem_of_getLast? newest
    have within := Nat.le_of_lt_succ (exceeds last member)
    obtain ⟨entry, present, above⟩ := exists_of_le_largest (positive last member) within
    -- Nothing that has been saved has a larger number than the last, so this is the last itself.
    rcases increasing.below_last newest (part entry present) with less | rfl
    · omega
    · exact present
  · intro kept entry member
    have newest := List.getLast?_eq_some_getLast (List.ne_nil_of_mem member)
    have top := le_largest (kept _ newest)
    rcases increasing.below_last newest member with less | same
    · omega
    · rw [same]
      omega

end Shelf

namespace Store

/-- Each time a query is saved as a new one, the new one before it is still there. -/
def SparesNewest (ops : List Operation) : Prop :=
  ∀ before s, before ++ [.save s] <+: ops →
    let done := performAll perform empty before
    ∀ id, (done.2.perform (.save s)).1 = .saved (some id) →
      ∀ last ∈ (savings before done.1).getLast?, done.2.get last.1 = .ok last.2

/-- What is on the shelf can be got from the store, and nothing else. -/
theorem get_iff_mem {store : Store} {shelf : Shelf} (here : store.records = shelf.records)
    (descending : shelf.Descending) (entry : Nat × SavedQuery) :
    store.get entry.1 = .ok entry.2 ↔ entry ∈ shelf := by
  obtain ⟨id, s⟩ := entry
  constructor
  · intro got
    have found := find?_shelf here descending id
    cases present : shelf.lookup id with
    | none =>
      rw [present] at found
      rw [get, found] at got
      cases got
    | some t =>
      rw [present] at found
      rw [get, found] at got
      change (SavedQuery.decode (stored (id, t)).2).mapError _ = _ at got
      rw [decode_stored] at got
      cases got
      obtain ⟨front, back, rfl, -⟩ := List.lookup_eq_some_iff.mp present
      simp
  · intro member
    have recorded : stored (id, s) ∈ store.records := by
      rw [here, Shelf.records, List.mem_reverse]
      exact List.mem_map_of_mem member
    exact get_of_mem recorded (decode_stored (id, s))

/-- The shelf that a fresh store stands for after operations. -/
theorem exists_shelf (ops : List Operation)
    (few : ops.countP Operation.isSave < numberBound - 1) :
    ∃ shelf : Shelf, (performAll perform empty ops).2.records = shelf.records ∧
      shelf.Tidy (ops.countP Operation.isSave) ∧
      (∀ entry ∈ shelf, entry ∈ savings ops (performAll perform empty ops).1) ∧
      ∀ entry ∈ savings ops (performAll perform empty ops).1, 0 < entry.1 := by
  obtain ⟨replies, last, tidy, order⟩ := performAll_fresh ops few
  rw [replies]
  refine ⟨_, last, tidy, ?_, Shelf.savings_positive [] ops⟩
  intro entry member
  exact List.mem_reverse.mp (order.subset member)

/-- After operations whose numbers increase, a new number is larger than all of them if and only
if the newest entry is still there. -/
theorem exceeds_iff (before : List Operation) (s : SavedQuery)
    (few : before.countP Operation.isSave < numberBound - 1) {id : Nat}
    (increasing : Increasing (savings before (performAll perform empty before).1))
    (new : ((performAll perform empty before).2.perform (.save s)).1 = .saved (some id)) :
    (∀ entry ∈ savings before (performAll perform empty before).1, entry.1 < id) ↔
      ∀ last ∈ (savings before (performAll perform empty before).1).getLast?,
        (performAll perform empty before).2.get last.1 = .ok last.2 := by
  obtain ⟨shelf, here, tidy, part, positive⟩ := exists_shelf before few
  obtain ⟨reply, -⟩ := save_follows here tidy.descending s
  rw [reply] at new
  have added : (Operation.save s).added (shelf.perform (.save s)).1 = some (id, s) := by
    rw [new]
    rfl
  obtain ⟨-, -, next⟩ := Shelf.added_perform.mp added
  obtain rfl : id = shelf.largest + 1 := next
  simp only [get_iff_mem here tidy.descending]
  exact Shelf.exceeds_iff increasing positive part

theorem sparesNewest_concat (before : List Operation) (op : Operation) :
    SparesNewest (before ++ [op]) ↔ SparesNewest before ∧
      ∀ entry ∈ op.added ((performAll perform empty before).2.perform op).1,
        ∀ last ∈ (savings before (performAll perform empty before).1).getLast?,
          (performAll perform empty before).2.get last.1 = .ok last.2 := by
  constructor
  · intro spares
    refine ⟨fun front s inside => spares front s (inside.trans (List.prefix_append _ _)), ?_⟩
    intro entry added
    obtain ⟨rfl, saved⟩ := Operation.added_eq_some.mp added
    exact spares before entry.2 (List.prefix_refl _) entry.1 saved
  · rintro ⟨spares, spared⟩ front s inside done id saved
    rcases List.prefix_concat_iff.mp inside with whole | inside
    · obtain ⟨rfl, same⟩ := List.append_inj' whole rfl
      obtain rfl : Operation.save s = op := List.singleton_inj.mp same
      exact spared (id, s) (Operation.added_eq_some.mpr ⟨rfl, saved⟩)
    · exact spares front s inside id saved

theorem increasing_iff (ops : List Operation)
    (few : ops.countP Operation.isSave < numberBound - 1) :
    Increasing (savings ops (performAll perform empty ops).1) ↔ SparesNewest ops := by
  induction ops using List.reverseRecOn with
  | nil =>
    constructor
    · intro _ front s inside
      simp at inside
    · intro _
      exact List.Pairwise.nil
  | append_singleton before op ih =>
    rw [List.countP_append] at few
    have fewBefore : before.countP Operation.isSave < numberBound - 1 := by omega
    rw [savings_performAll_append, sparesNewest_concat, ← ih fewBefore]
    cases added : op.added ((performAll perform empty before).2.perform op).1 with
    | none => simp
    | some entry =>
      obtain ⟨rfl, saved⟩ := Operation.added_eq_some.mp added
      rw [Option.toList_some, Increasing.concat_iff]
      refine and_congr_right fun increasing => ?_
      rw [exceeds_iff before entry.2 fewBefore increasing saved]
      simp

/-- The numbers given to saved queries increase along a run if and only if each new query is saved
while the new one before it is still there. Then no number stands for two of them. -/
theorem numbers_increase_iff (ops : List Operation)
    (few : ops.countP Operation.isSave < numberBound - 1) :
    (Increasing (savings ops (performAll perform empty ops).1) ↔ SparesNewest ops) ∧
      (SparesNewest ops → ∀ entry ∈ savings ops (performAll perform empty ops).1,
        ∀ other ∈ savings ops (performAll perform empty ops).1,
          entry.1 = other.1 → entry = other) := by
  have exactCondition := increasing_iff ops few
  refine ⟨exactCondition, fun spares entry member other also same => ?_⟩
  exact (exactCondition.mpr spares).eq_of_number member also same

/-- Removing an older entry and opening the store again does not matter. -/
theorem numbers_increase_past_removal :
    let ops : List Operation := [.save plainQuery, .save tagQuery, .remove 1, .reopen,
      .save plainQuery]
    ops.countP Operation.isSave < numberBound - 1 ∧
      savings ops (performAll perform empty ops).1 =
        [(1, plainQuery), (2, tagQuery), (3, plainQuery)] ∧
      SparesNewest ops := by
  intro ops
  have few : ops.countP Operation.isSave < numberBound - 1 := by decide
  have given : savings ops (performAll perform empty ops).1 =
      [(1, plainQuery), (2, tagQuery), (3, plainQuery)] := by decide +kernel
  have increasing : Increasing (savings ops (performAll perform empty ops).1) := by
    rw [given]
    decide
  exact ⟨few, given, (numbers_increase_iff ops few).1.mp increasing⟩

/-- After the newest entry has been removed, its number is given to another query. -/
theorem number_given_again :
    let ops : List Operation := [.save plainQuery, .remove 1, .save tagQuery]
    ops.countP Operation.isSave < numberBound - 1 ∧
      savings ops (performAll perform empty ops).1 = [(1, plainQuery), (1, tagQuery)] ∧
      ¬ Increasing (savings ops (performAll perform empty ops).1) := by
  intro ops
  have given : savings ops (performAll perform empty ops).1 = [(1, plainQuery), (1, tagQuery)] := by
    decide +kernel
  refine ⟨by decide, given, ?_⟩
  rw [given]
  decide

end Store

end BookmarkSearch.Saved
