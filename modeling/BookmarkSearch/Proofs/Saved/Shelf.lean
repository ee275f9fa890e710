import BookmarkSearch.Proofs.Saved.Operations

/-!
A store without bytes: a shelf of numbered queries, newest first. Its numbers descend, no query
stands on it twice, and its entries stand in the reverse order of saving.
-/

namespace BookmarkSearch.Saved

abbrev Shelf := List (Nat × SavedQuery)

namespace Shelf

def largest (shelf : Shelf) : Nat := shelf.foldr (fun entry top => max entry.1 top) 0

def perform (shelf : Shelf) : Operation → Reply × Shelf
  | .save s =>
    if s ∈ shelf.map (·.2) then (.saved none, shelf)
    else (.saved (some (shelf.largest + 1)), (shelf.largest + 1, s) :: shelf)
  | .get id =>
    match shelf.lookup id with
    | some s => (.found s, shelf)
    | none => (.failed (.notFound id), shelf)
  | .remove id =>
    match shelf.lookup id with
    | some _ => (.removed, shelf.filter (·.1 != id))
    | none => (.failed (.notFound id), shelf)
  | .list => (.listed shelf, shelf)
  | .clear => (.cleared shelf.length, [])
  | .reopen => (.reopened, shelf)

theorem le_largest {shelf : Shelf} {entry : Nat × SavedQuery} (member : entry ∈ shelf) :
    entry.1 ≤ shelf.largest := by
  induction shelf with
  | nil => cases member
  | cons first rest ih =>
    simp only [largest, List.foldr_cons]
    rcases List.mem_cons.mp member with rfl | later
    · exact Nat.le_max_left _ _
    · exact Nat.le_trans (ih later) (Nat.le_max_right _ _)

theorem largest_le {shelf : Shelf} {bound : Nat} (within : ∀ entry ∈ shelf, entry.1 ≤ bound) :
    shelf.largest ≤ bound := by
  induction shelf with
  | nil => exact Nat.zero_le _
  | cons first rest ih =>
    simp only [largest, List.foldr_cons]
    have here := within first List.mem_cons_self
    have later := ih fun entry member => within entry (List.mem_cons_of_mem _ member)
    exact Nat.max_le.mpr ⟨here, later⟩

def Descending (shelf : Shelf) : Prop := shelf.Pairwise fun newer older => older.1 < newer.1

structure Tidy (savings : Nat) (shelf : Shelf) : Prop where
  descending : shelf.Descending
  distinct : (shelf.map (·.2)).Nodup
  within : ∀ entry ∈ shelf, 0 < entry.1 ∧ entry.1 ≤ savings

theorem Tidy.empty : Tidy 0 [] :=
  ⟨List.Pairwise.nil, List.Pairwise.nil, by simp⟩

theorem Tidy.weaken {few many : Nat} {shelf : Shelf} (tidy : Tidy few shelf) (le : few ≤ many) :
    Tidy many shelf := by
  refine ⟨tidy.descending, tidy.distinct, fun entry member => ?_⟩
  obtain ⟨pos, within⟩ := tidy.within entry member
  exact ⟨pos, Nat.le_trans within le⟩

theorem Tidy.sublist {savings : Nat} {shelf part : Shelf} (tidy : Tidy savings shelf)
    (fewer : part.Sublist shelf) : Tidy savings part :=
  ⟨List.Pairwise.sublist fewer tidy.descending, tidy.distinct.sublist (fewer.map _),
    fun entry member => tidy.within entry (fewer.subset member)⟩

theorem Tidy.cons {savings : Nat} {shelf : Shelf} (tidy : Tidy savings shelf) {s : SavedQuery}
    (fresh : s ∉ shelf.map (·.2)) : Tidy (savings + 1) ((shelf.largest + 1, s) :: shelf) := by
  refine ⟨?_, ?_, ?_⟩
  · refine List.pairwise_cons.mpr ⟨fun entry member => ?_, tidy.descending⟩
    exact Nat.lt_succ_of_le (le_largest member)
  · exact List.nodup_cons.mpr ⟨fresh, tidy.distinct⟩
  · intro entry member
    rcases List.mem_cons.mp member with rfl | old
    · have top := largest_le fun entry member => (tidy.within entry member).2
      exact ⟨Nat.succ_pos _, Nat.succ_le_succ top⟩
    · exact (tidy.weaken (Nat.le_succ _)).within entry old

theorem perform_tidy {savings : Nat} {shelf : Shelf} (tidy : Tidy savings shelf)
    (op : Operation) : Tidy (savings + op.isSave.toNat) (shelf.perform op).2 := by
  cases op with
  | save s =>
    by_cases known : s ∈ shelf.map (·.2)
    · rw [perform, if_pos known]
      exact tidy.weaken (Nat.le_add_right _ _)
    · rw [perform, if_neg known]
      exact tidy.cons known
  | get id => rw [perform]; split <;> exact tidy
  | remove id =>
    rw [perform]
    split
    · exact tidy.sublist List.filter_sublist
    · exact tidy
  | list => exact tidy
  | clear => exact tidy.sublist (List.nil_sublist _)
  | reopen => exact tidy

/-- Nothing comes to stand on a shelf but what is saved, and that on top. -/
theorem perform_sublist (shelf : Shelf) (op : Operation) :
    (shelf.perform op).2.Sublist ((op.added (shelf.perform op).1).toList ++ shelf) := by
  cases op with
  | save s =>
    rw [perform]
    split
    · exact List.Sublist.refl _
    · exact List.Sublist.refl _
  | get id => rw [perform]; split <;> exact List.Sublist.refl _
  | remove id =>
    rw [perform]
    split
    · exact List.filter_sublist
    · exact List.Sublist.refl _
  | list => exact List.Sublist.refl _
  | clear => exact List.nil_sublist _
  | reopen => exact List.Sublist.refl _

theorem performAll_tidy {savings : Nat} {shelf : Shelf} (tidy : Tidy savings shelf)
    (ops : List Operation) :
    Tidy (savings + ops.countP Operation.isSave) (performAll perform shelf ops).2 := by
  induction ops generalizing savings shelf with
  | nil => exact tidy
  | cons op ops ih =>
    have later := ih (perform_tidy tidy op)
    rw [Operation.countP_isSave_cons, ← Nat.add_assoc]
    exact later

/-- The entries of a shelf stand in the reverse order of saving. -/
theorem performAll_sublist (shelf : Shelf) (ops : List Operation) :
    (performAll perform shelf ops).2.Sublist
      ((savings ops (performAll perform shelf ops).1).reverse ++ shelf) := by
  induction ops generalizing shelf with
  | nil => exact List.Sublist.refl _
  | cons op ops ih =>
    have single : ∀ entry : Option (Nat × SavedQuery), entry.toList.reverse = entry.toList := by
      intro entry
      cases entry <;> rfl
    have here := perform_sublist shelf op
    have later := ih (shelf.perform op).2
    simp only [performAll, savings_cons, List.reverse_append, single, List.append_assoc]
    exact later.trans (here.append_left _)

end Shelf

end BookmarkSearch.Saved
