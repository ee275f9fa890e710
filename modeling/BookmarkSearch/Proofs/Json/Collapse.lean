import BookmarkSearch.Json.Value
import Mathlib.Data.List.Nodup

/-!
Repeated names. Collapsing changes nothing where no name is repeated, keeps the fields of some names
apart from those of the others, and brings in no field that was not there.
-/

namespace BookmarkSearch.Json

section Fields

variable {α : Type} {name : String} {v : α} {fields : List (String × α)}

theorem setField_new (new : name ∉ fields.map Prod.fst) :
    setField name v fields = fields ++ [(name, v)] := by
  induction fields with
  | nil => rfl
  | cons f rest ih =>
    rw [List.map_cons, List.mem_cons, not_or] at new
    rw [setField, if_neg (Ne.symm new.1), ih new.2, List.cons_append]

theorem mem_setField {f : String × α} (member : f ∈ setField name v fields) :
    f = (name, v) ∨ f ∈ fields := by
  induction fields with
  | nil => exact .inl (List.mem_singleton.mp member)
  | cons g rest ih =>
    rw [setField] at member
    split at member
    · rename_i same
      rcases List.mem_cons.mp member with rfl | later
      · exact .inl (by rw [same])
      · exact .inr (List.mem_cons_of_mem _ later)
    · rcases List.mem_cons.mp member with rfl | later
      · exact .inr List.mem_cons_self
      · exact (ih later).imp_right (List.mem_cons_of_mem _)

variable (p : String → Bool)

theorem filter_setField :
    (setField name v fields).filter (fun f => p f.1) =
      if p name then setField name v (fields.filter fun f => p f.1)
      else fields.filter fun f => p f.1 := by
  induction fields with
  | nil => cases keep : p name <;> simp [setField, keep]
  | cons f rest ih =>
    obtain ⟨n, w⟩ := f
    by_cases same : n = name
    · subst same
      cases keep : p n <;> simp [setField, keep]
    · cases keep : p n <;> cases wanted : p name <;>
        simp [setField, same, keep, wanted, ih]

def setFields (done fields : List (String × α)) : List (String × α) :=
  fields.foldl (fun done f => setField f.1 f.2 done) done

theorem filter_setFields (done fields : List (String × α)) :
    (setFields done fields).filter (fun f => p f.1) =
      setFields (done.filter fun f => p f.1) (fields.filter fun f => p f.1) := by
  induction fields generalizing done with
  | nil => rfl
  | cons f rest ih =>
    rw [setFields, List.foldl_cons, ← setFields, ih, filter_setField, List.filter_cons]
    split <;> rfl

theorem mem_setFields {f : String × α} (done : List (String × α))
    (member : f ∈ setFields done fields) : f ∈ done ∨ f ∈ fields := by
  induction fields generalizing done with
  | nil => exact .inl member
  | cons g rest ih =>
    rcases ih _ member with earlier | later
    · rcases mem_setField earlier with rfl | there
      · exact .inr List.mem_cons_self
      · exact .inl there
    · exact .inr (List.mem_cons_of_mem _ later)

theorem setFields_of_nodup (done : List (String × α))
    (apart : ((done ++ fields).map Prod.fst).Nodup) : setFields done fields = done ++ fields := by
  induction fields generalizing done with
  | nil => exact (List.append_nil done).symm
  | cons f rest ih =>
    have new : f.1 ∉ done.map Prod.fst := by
      rw [List.map_append, List.map_cons] at apart
      intro there
      exact (List.nodup_append.mp apart).2.2 _ there _ List.mem_cons_self rfl
    rw [List.append_cons] at apart ⊢
    rw [← ih _ apart, setFields, List.foldl_cons, setField_new new]
    rfl

theorem filter_collapseFields (fields : List (String × α)) :
    (collapseFields fields).filter (fun f => p f.1) =
      collapseFields (fields.filter fun f => p f.1) :=
  filter_setFields p [] fields

theorem mem_collapseFields {f : String × α} (member : f ∈ collapseFields fields) : f ∈ fields :=
  (mem_setFields [] member).resolve_left List.not_mem_nil

theorem collapseFields_of_nodup (distinct : (fields.map Prod.fst).Nodup) :
    collapseFields fields = fields :=
  setFields_of_nodup [] distinct

end Fields

namespace Value

theorem collapseItems_eq_map (items : List Value) : collapseItems items = items.map collapse := by
  induction items with
  | nil => rfl
  | cons v rest ih => rw [collapseItems, ih, List.map_cons]

theorem collapseValues_eq_map (fields : List (String × Value)) :
    collapseValues fields = fields.map fun f => (f.1, f.2.collapse) := by
  induction fields with
  | nil => rfl
  | cons f rest ih => rw [collapseValues, ih, List.map_cons]

/-- Fields whose names differ from each other are kept as they are, apart from their own values. -/
theorem filter_collapse (p : String → Bool) {fields : List (String × Value)}
    (distinct : ((fields.filter fun f => p f.1).map Prod.fst).Nodup) :
    (collapseFields (collapseValues fields)).filter (fun f => p f.1) =
      (fields.filter fun f => p f.1).map fun f => (f.1, f.2.collapse) := by
  have kept : (collapseValues fields).filter (fun f => p f.1) =
      (fields.filter fun f => p f.1).map fun f => (f.1, f.2.collapse) := by
    rw [collapseValues_eq_map, List.filter_map]
    rfl
  rw [filter_collapseFields, kept, collapseFields_of_nodup]
  rwa [List.map_map]

mutual

def Distinct : Value → Prop
  | .array items => DistinctItems items
  | .object fields => (fields.map Prod.fst).Nodup ∧ DistinctFields fields
  | _ => True

def DistinctItems : List Value → Prop
  | [] => True
  | v :: rest => v.Distinct ∧ DistinctItems rest

def DistinctFields : List (String × Value) → Prop
  | [] => True
  | (_, v) :: rest => v.Distinct ∧ DistinctFields rest

end

theorem DistinctFields.of_mem {fields : List (String × Value)} (distinct : DistinctFields fields)
    {f : String × Value} (member : f ∈ fields) : f.2.Distinct := by
  induction fields with
  | nil => cases member
  | cons g rest ih =>
    rcases List.mem_cons.mp member with rfl | later
    · exact distinct.1
    · exact ih distinct.2 later

mutual

theorem collapse_of_distinct {v : Value} (distinct : v.Distinct) : v.collapse = v := by
  match v, distinct with
  | .null, _ | .bool _, _ | .number _, _ | .string _, _ => rfl
  | .array items, distinct =>
    rw [collapse, collapseItems_of_distinct distinct]
  | .object fields, distinct =>
    rw [collapse, collapseValues_of_distinct distinct.2, collapseFields_of_nodup distinct.1]

theorem collapseItems_of_distinct {items : List Value} (distinct : DistinctItems items) :
    collapseItems items = items := by
  match items, distinct with
  | [], _ => rfl
  | v :: rest, distinct =>
    rw [collapseItems, collapse_of_distinct distinct.1, collapseItems_of_distinct distinct.2]

theorem collapseValues_of_distinct {fields : List (String × Value)}
    (distinct : DistinctFields fields) : collapseValues fields = fields := by
  match fields, distinct with
  | [], _ => rfl
  | (name, v) :: rest, distinct =>
    rw [collapseValues, collapse_of_distinct distinct.1, collapseValues_of_distinct distinct.2]

end

end Value

end BookmarkSearch.Json
