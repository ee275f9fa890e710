import Mathlib.Data.List.Forall2
import BookmarkSearch.Saved.Store

/-!
Records read one after the other. A scan ends at the first damaged record that it comes to, unless
it has found before what it looks for.
-/

namespace BookmarkSearch.Saved

def Holds (s : SavedQuery) (r : Record) : Prop := SavedQuery.decode r.2 = .ok s

def Damaged (cause : RecordError) (r : Record) : Prop := SavedQuery.decode r.2 = .error cause

def Intact (r : Record) : Prop := ∃ s, Holds s r

theorem intact_or_damaged (r : Record) : Intact r ∨ ∃ cause, Damaged cause r := by
  cases read : SavedQuery.decode r.2 with
  | ok s => exact .inl ⟨s, read⟩
  | error cause => exact .inr ⟨cause, read⟩

section Record

variable {cause : RecordError} {r : Record} {s t : SavedQuery}

theorem Damaged.not_holds (damaged : Damaged cause r) : ¬Holds s r := by
  intro holds
  cases damaged.symm.trans holds

theorem Damaged.not_intact (damaged : Damaged cause r) : ¬Intact r := by
  rintro ⟨s, holds⟩
  exact damaged.not_holds holds

theorem Holds.unique (holds : Holds s r) (also : Holds t r) : s = t :=
  Except.ok.inj (holds.symm.trans also)

end Record

theorem isOk_iff_intact (r : Record) : (SavedQuery.decode r.2).isOk = true ↔ Intact r := by
  cases read : SavedQuery.decode r.2 with
  | ok s => exact iff_of_true rfl ⟨s, read⟩
  | error cause => exact iff_of_false nofun (Damaged.not_intact read)

instance (r : Record) : Decidable (Intact r) := decidable_of_iff _ (isOk_iff_intact r)

/-- A scan that goes on behind the records it may pass ends at a damaged one. -/
inductive StopsAt (passes : Record → Prop) (cause : RecordError) : List Record → Prop
  | here {r : Record} {rest : List Record} (damaged : Damaged cause r) :
      StopsAt passes cause (r :: rest)
  | later {r : Record} {rest : List Record} (passed : passes r)
      (stops : StopsAt passes cause rest) : StopsAt passes cause (r :: rest)

section Scans

variable {passes : Record → Prop} {cause : RecordError} {records : List Record}

theorem exists_stopsAt (broken : ∃ r ∈ records, ¬Intact r) :
    ∃ cause, StopsAt Intact cause records := by
  induction records with
  | nil =>
    obtain ⟨r, member, -⟩ := broken
    cases member
  | cons r rest ih =>
    rcases intact_or_damaged r with intact | ⟨cause, damaged⟩
    · have behind : ∃ t ∈ rest, ¬Intact t := by
        obtain ⟨t, member, damaged⟩ := broken
        rcases List.mem_cons.mp member with rfl | later
        · exact absurd intact damaged
        · exact ⟨t, later, damaged⟩
      obtain ⟨cause, stops⟩ := ih behind
      exact ⟨cause, .later intact stops⟩
    · exact ⟨cause, .here damaged⟩

/-- Where the records are in order, the scan ends at a damaged one before which it passes all. -/
theorem stopsAt_iff {before : Record → Record → Prop}
    (asymm : ∀ a b, before a b → ¬before b a) (ordered : records.Pairwise before) :
    StopsAt passes cause records ↔
      ∃ r ∈ records, Damaged cause r ∧ ∀ t ∈ records, before t r → passes t := by
  induction records with
  | nil => exact iff_of_false nofun (by simp)
  | cons first rest ih =>
    obtain ⟨front, others⟩ := List.pairwise_cons.mp ordered
    constructor
    · intro stops
      cases stops with
      | here damaged =>
        refine ⟨first, List.mem_cons_self, damaged, fun t member earlier => ?_⟩
        rcases List.mem_cons.mp member with rfl | later
        · exact absurd earlier (asymm _ _ earlier)
        · exact absurd earlier (asymm _ _ (front t later))
      | later passed stops =>
        obtain ⟨r, member, damaged, passesAll⟩ := (ih others).mp stops
        refine ⟨r, List.mem_cons_of_mem _ member, damaged, fun t inside earlier => ?_⟩
        rcases List.mem_cons.mp inside with rfl | later
        · exact passed
        · exact passesAll t later earlier
    · rintro ⟨r, member, damaged, passesAll⟩
      rcases List.mem_cons.mp member with rfl | later
      · exact .here damaged
      · have passed := passesAll first List.mem_cons_self (front r later)
        refine .later passed ((ih others).mpr ⟨r, later, damaged, fun t inside => ?_⟩)
        exact passesAll t (List.mem_cons_of_mem _ inside)

theorem stopsAt_intact {r : Record} {rest : List Record} {s : SavedQuery} (holds : Holds s r) :
    StopsAt passes cause (r :: rest) ↔ passes r ∧ StopsAt passes cause rest := by
  constructor
  · intro stops
    cases stops with
    | here damaged => exact absurd holds damaged.not_holds
    | later passed stops => exact ⟨passed, stops⟩
  · rintro ⟨passed, stops⟩
    exact .later passed stops

theorem stopsAt_damaged (readable : ∀ r, passes r → Intact r) {r : Record} {rest : List Record}
    {found : RecordError} (damaged : Damaged found r) :
    StopsAt passes cause (r :: rest) ↔ found = cause := by
  constructor
  · intro stops
    cases stops with
    | here again => exact Except.error.inj (damaged.symm.trans again)
    | later passed _ => exact absurd (readable r passed) damaged.not_intact
  · rintro rfl
    exact .here damaged

theorem readRecords_eq_error_iff :
    readRecords records = .error cause ↔ StopsAt Intact cause records := by
  induction records with
  | nil => exact iff_of_false nofun nofun
  | cons r rest ih =>
    cases read : SavedQuery.decode r.2 with
    | error found =>
      rw [stopsAt_damaged (fun _ intact => intact) read, readRecords, read]
      exact ⟨Except.error.inj, congrArg Except.error⟩
    | ok s =>
      rw [stopsAt_intact read, and_iff_right ⟨s, read⟩, ← ih, readRecords, read]
      change (readRecords rest).bind _ = _ ↔ _
      cases readRecords rest with
      | error found => exact Iff.rfl
      | ok entries => exact iff_of_false nofun nofun

/-- The scan for a query may end before the damaged record, at one that holds the query. -/
theorem isSaved_eq_error_iff {s : SavedQuery} :
    isSaved s records = .error cause ↔
      StopsAt (fun r => Intact r ∧ ¬Holds s r) cause records := by
  induction records with
  | nil => exact iff_of_false nofun nofun
  | cons r rest ih =>
    cases read : SavedQuery.decode r.2 with
    | error found =>
      rw [stopsAt_damaged (fun _ passed => passed.1) read, isSaved, read]
      exact ⟨Except.error.inj, congrArg Except.error⟩
    | ok t =>
      have other : t ≠ s ↔ Intact r ∧ ¬Holds s r :=
        ⟨fun apart => ⟨⟨t, read⟩, fun holds => apart (Holds.unique read holds)⟩,
          fun passed same => passed.2 (same ▸ read)⟩
      rw [stopsAt_intact read, ← other, ← ih, isSaved, read]
      change (if t = s then Except.ok true else isSaved s rest) = _ ↔ _
      by_cases same : t = s
      · rw [if_pos same]
        exact iff_of_false nofun fun later => later.1 same
      · rw [if_neg same, and_iff_right same]

theorem not_holds_of_isSaved {s : SavedQuery} (unknown : isSaved s records = .ok false)
    {r : Record} (member : r ∈ records) : ¬Holds s r := by
  induction records with
  | nil => cases member
  | cons first rest ih =>
    cases read : SavedQuery.decode first.2 with
    | error found =>
      rw [isSaved, read] at unknown
      cases unknown
    | ok t =>
      rw [isSaved, read] at unknown
      change (if t = s then Except.ok true else isSaved s rest) = _ at unknown
      split at unknown
      · cases unknown
      · rename_i other
        rcases List.mem_cons.mp member with rfl | later
        · exact fun holds => other (Holds.unique read holds)
        · exact ih unknown later

theorem readRecords_eq_ok_iff {entries : List (Nat × SavedQuery)} :
    readRecords records = .ok entries ↔
      List.Forall₂ (fun r entry => entry.1 = r.1 ∧ Holds entry.2 r) records entries := by
  induction records generalizing entries with
  | nil => rw [List.forall₂_nil_left_iff, readRecords, Except.ok.injEq, eq_comm]
  | cons r rest ih =>
    rw [List.forall₂_cons_left_iff, readRecords]
    cases read : SavedQuery.decode r.2 with
    | error cause =>
      refine iff_of_false nofun ?_
      rintro ⟨entry, _, ⟨-, holds⟩, -⟩
      exact Damaged.not_holds read holds
    | ok s =>
      change (readRecords rest).bind (fun more => .ok ((r.1, s) :: more)) = _ ↔ _
      simp only [← ih]
      cases readRecords rest with
      | error cause =>
        refine iff_of_false nofun ?_
        rintro ⟨_, _, -, more, -⟩
        cases more
      | ok more =>
        constructor
        · rintro ⟨⟩
          exact ⟨(r.1, s), more, ⟨rfl, read⟩, rfl, rfl⟩
        · rintro ⟨⟨number, t⟩, _, ⟨rfl, holds⟩, ⟨⟩, rfl⟩
          rw [Holds.unique read holds]
          rfl

end Scans

end BookmarkSearch.Saved
