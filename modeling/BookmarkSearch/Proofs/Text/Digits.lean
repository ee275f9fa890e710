import Mathlib.Data.Nat.Digits.Defs
import BookmarkSearch.Saved.Number

/-!
A number that has been written in decimal digits reads back.
-/

namespace BookmarkSearch.Text

theorem toList_toString (n : Nat) : (toString n).toList = Nat.toDigits 10 n :=
  String.toList_ofList

theorem digit_of_mem {n : Nat} {c : Char} (member : c ∈ Nat.toDigits 10 n) : c.isDigit = true :=
  Nat.isDigit_of_mem_toDigits (by decide) (by decide) member

theorem toDigits_ne {n : Nat} {cs : List Char} {c : Char} (member : c ∈ cs)
    (other : c.isDigit = false) : Nat.toDigits 10 n ≠ cs := by
  rintro rfl
  exact Bool.false_ne_true (other.symm.trans (digit_of_mem member))

def naturalFrom (start : Nat) (ds : List Char) : Nat :=
  ds.foldl (fun n d => 10 * n + digitValue d) start

theorem le_naturalFrom (start : Nat) (ds : List Char) : start ≤ naturalFrom start ds := by
  induction ds generalizing start with
  | nil => exact Nat.le_refl start
  | cons d rest ih =>
    have later := ih (10 * start + digitValue d)
    have shifted : start ≤ 10 * start + digitValue d := by omega
    exact Nat.le_trans shifted later

theorem naturalFrom_toDigits (n : Nat) : naturalFrom 0 (Nat.toDigits 10 n) = n := by
  have same (ds : List Char) (start : Nat) (digits : ∀ c ∈ ds, c.isDigit = true) :
      naturalFrom start ds = Nat.ofDigitChars 10 ds start := by
    induction ds generalizing start with
    | nil => rfl
    | cons c rest ih =>
      have value : digitValue c = c.toNat - '0'.toNat := if_pos (digits c List.mem_cons_self)
      rw [naturalFrom, List.foldl_cons, Nat.ofDigitChars_cons, value]
      exact ih _ fun d member => digits d (List.mem_cons_of_mem c member)
  rw [same _ 0 fun c member => digit_of_mem member]
  exact Nat.ofDigitChars_ten_toDigits

theorem naturalOf_toDigits (n : Nat) : naturalOf 10 (Nat.toDigits 10 n) = n :=
  naturalFrom_toDigits n

/-- Only zero begins with a zero. -/
theorem head?_toDigits {n : Nat} (positive : 0 < n) : (Nat.toDigits 10 n).head? ≠ some '0' := by
  induction n using Nat.strongRecOn with
  | ind n ih =>
    by_cases single : n < 10
    · rw [Nat.toDigits_of_lt_base single, List.head?_singleton]
      have digits : ∀ d < 10, 0 < d → some d.digitChar ≠ some '0' := by decide
      exact digits n single positive
    · have others := ih (n / 10) (by omega) (by omega)
      rw [Nat.toDigits_of_base_le (by decide) (Nat.le_of_not_lt single), List.head?_append]
      cases front : (Nat.toDigits 10 (n / 10)).head? with
      | none => exact absurd (List.head?_eq_none_iff.mp front) Nat.toDigits_ne_nil
      | some d => rwa [front] at others

end BookmarkSearch.Text

namespace BookmarkSearch.Saved

open Text Unicode

theorem isBlank_of_isDigit {c : Char} (digit : c.isDigit = true) : isBlank c = false := by
  simp only [Char.isDigit, Bool.and_eq_true, decide_eq_true_eq] at digit
  obtain ⟨above, below⟩ : 48 ≤ c.toNat ∧ c.toNat ≤ 57 := digit
  rw [← Bool.not_eq_true]
  intro blank
  simp only [isBlank, Bool.or_eq_true, Bool.and_eq_true, decide_eq_true_eq, beq_iff_eq] at blank
  omega

theorem readDigits_eq {ds : List Char} {start : Nat} (digits : ∀ c ∈ ds, c.isDigit = true)
    (fits : naturalFrom start ds < numberBound) :
    readDigits start ds = .ok (naturalFrom start ds) := by
  induction ds generalizing start with
  | nil => rfl
  | cons d rest ih =>
    have next : 10 * start + digitValue d < numberBound :=
      Nat.lt_of_le_of_lt (le_naturalFrom _ rest) fits
    rw [readDigits, digits d List.mem_cons_self]
    simp only [Bool.not_true, Bool.false_eq_true, ↓reduceIte, next]
    exact ih (fun c member => digits c (List.mem_cons_of_mem d member)) fits

theorem readNumber_toString {n : Nat} (fits : n < numberBound) :
    readNumber (toString n) = .ok n := by
  have whole : trimBy isBlank (toString n).toList = Nat.toDigits 10 n := by
    rw [toList_toString]
    exact trimBy_eq_self_of_forall fun c member => isBlank_of_isDigit (digit_of_mem member)
  have read : readDigits 0 (Nat.toDigits 10 n) = .ok n := by
    have value := naturalFrom_toDigits n
    rw [readDigits_eq (fun c member => digit_of_mem member) (by rwa [value]), value]
  rw [readNumber, whole]
  -- The first character is a digit and no plus sign.
  split
  · rename_i nothing
    exact absurd nothing Nat.toDigits_ne_nil
  · rename_i plus
    exact absurd plus (toDigits_ne List.mem_cons_self rfl)
  · rename_i rest _ plus
    exact absurd plus (toDigits_ne List.mem_cons_self rfl)
  · exact read

end BookmarkSearch.Saved
