/-!
White space, and text with the white space at its ends taken off.
-/

namespace BookmarkSearch.Unicode

def isBlank (c : Char) : Bool :=
  let n := c.toNat
  (0x9 ≤ n && n ≤ 0xD) || n == 0x20 || n == 0x85 || n == 0xA0 || n == 0x1680 ||
    (0x2000 ≤ n && n ≤ 0x200A) || n == 0x2028 || n == 0x2029 || n == 0x202F || n == 0x205F ||
    n == 0x3000

def trimBy (p : Char → Bool) (cs : List Char) : List Char :=
  ((cs.dropWhile p).reverse.dropWhile p).reverse

def trim (s : String) : String := String.ofList (trimBy isBlank s.toList)

def isAllBlank (s : String) : Bool := s.toList.all isBlank

theorem head_dropWhile {p : Char → Bool} (cs : List Char) :
    ∀ c ∈ (cs.dropWhile p).head?, p c = false := by
  intro c first
  have stopped := List.head?_dropWhile_not p cs
  rwa [Option.mem_def.mp first] at stopped

/-! A run of characters that satisfy `p` ends where one fails it. -/

theorem takeWhile_run {p : Char → Bool} {run rest : List Char} (inside : ∀ c ∈ run, p c = true)
    (ends : ∀ c ∈ rest.head?, p c = false) : (run ++ rest).takeWhile p = run := by
  rw [List.takeWhile_append_of_pos inside]
  cases rest with
  | nil => exact List.append_nil run
  | cons c more => rw [List.takeWhile_cons_of_neg (by simp [ends c rfl]), List.append_nil]

theorem dropWhile_run {p : Char → Bool} {run rest : List Char} (inside : ∀ c ∈ run, p c = true)
    (ends : ∀ c ∈ rest.head?, p c = false) : (run ++ rest).dropWhile p = rest := by
  rw [List.dropWhile_append_of_pos inside]
  cases rest with
  | nil => rfl
  | cons c more => exact List.dropWhile_cons_of_neg (by simp [ends c rfl])

/-! Trimming. -/

theorem trimBy_eq_self {p : Char → Bool} {cs : List Char} (front : ∀ c ∈ cs.head?, p c = false)
    (back : ∀ c ∈ cs.reverse.head?, p c = false) : trimBy p cs = cs := by
  have untouched : ∀ ds : List Char, (∀ c ∈ ds.head?, p c = false) → ds.dropWhile p = ds
    | [], _ => rfl
    | c :: _, visible => List.dropWhile_cons_of_neg (by simp [visible c rfl])
  rw [trimBy, untouched cs front, untouched cs.reverse back, List.reverse_reverse]

theorem trimBy_eq_self_of_forall {p : Char → Bool} {cs : List Char}
    (kept : ∀ c ∈ cs, p c = false) : trimBy p cs = cs :=
  trimBy_eq_self (fun c first => kept c (List.mem_of_head? first))
    fun c last => kept c (List.mem_reverse.mp (List.mem_of_head? last))

theorem trimBy_idem (p : Char → Bool) (cs : List Char) :
    trimBy p (trimBy p cs) = trimBy p cs := by
  have front : ∀ c ∈ (trimBy p cs).head?, p c = false := by
    intro c hc
    have leading : trimBy p cs <+: cs.dropWhile p := by
      rw [trimBy, ← List.reverse_suffix, List.reverse_reverse]
      exact List.dropWhile_suffix _
    obtain ⟨tail, whole⟩ := leading
    apply head_dropWhile cs
    rw [← whole, List.head?_append]
    simp [Option.mem_def.mp hc]
  have back : ∀ c ∈ (trimBy p cs).reverse.head?, p c = false := by
    rw [trimBy, List.reverse_reverse]
    exact head_dropWhile _
  exact trimBy_eq_self front back

theorem trim_idem (s : String) : trim (trim s) = trim s := by
  simp [trim, trimBy_idem]

end BookmarkSearch.Unicode
