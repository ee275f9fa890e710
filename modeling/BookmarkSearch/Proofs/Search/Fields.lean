import BookmarkSearch.Proofs.Search.Recased

/-!
The fields of a document in the texts that are searched. Normal form is that of the characters, so
each of these texts is the normal forms of the fields with a separator in between; and what has no
separator in it stands in such a text only if it stands in one of the fields.
-/

namespace BookmarkSearch.Search

open Unicode Text

theorem normalize_append (first second : String) :
    Text.normalize (first ++ second) = Text.normalize first ++ Text.normalize second := by
  rw [Text.normalize, Text.normalize, Text.normalize, ← String.ofList_append,
    String.toList_append, normalizeChars_append]

theorem normalize_joined {between : String} (kept : Text.normalize between = between)
    (d : Document) :
    Text.normalize (joined between d) = Text.normalize d.title ++ between ++
      Text.normalize d.url ++ between ++ Text.normalize d.description := by
  simp only [joined, normalize_append, kept]

theorem normalize_space : Text.normalize " " = " " := by decide +kernel

theorem normalize_newline : Text.normalize "\n" = "\n" := by decide +kernel

/-- Only marks are put in order, and they are dropped. So the normal form of a text is that of its
parts, wherever it is cut, and the texts of a document are the normal forms of its fields, one kept
apart from the next. -/
theorem normalize_of_parts :
    (∀ c, combiningClass c = 0 ∨ isMark c = true) ∧
    (∀ first second,
      Text.normalize (first ++ second) = Text.normalize first ++ Text.normalize second) ∧
    ∀ mode d,
      (Context.ofDocument mode d).combinedText =
        Text.normalize d.title ++ " " ++ Text.normalize d.url ++ " " ++
          Text.normalize d.description ∧
      (Context.ofDocument mode d).fieldText =
        Text.normalize d.title ++ "\n" ++ Text.normalize d.url ++ "\n" ++
          Text.normalize d.description :=
  ⟨fun c => (Nat.eq_zero_or_pos (combiningClass c)).imp_right isMark_of_combining,
    normalize_append, fun _ d =>
      ⟨normalize_joined normalize_space d, normalize_joined normalize_newline d⟩⟩

/-- Decomposition does not go by parts: the dot below comes to stand before the accent above. -/
example :
    decompose ("e\u0301".toList ++ "\u0323".toList) = "e\u0323\u0301".toList ∧
      decompose "e\u0301".toList ++ decompose "\u0323".toList = "e\u0301\u0323".toList := by
  decide +kernel

section Apart

variable {α : Type} {separator : α} {part front back : List α}

theorem eq_nil_of_apart (apart : separator ∉ part) (first : part <+: separator :: back) :
    part = [] := by
  rcases List.prefix_cons_iff.mp first with nothing | ⟨rest, rfl, -⟩
  · exact nothing
  · exact absurd List.mem_cons_self apart

/-- What has no separator in it stands on one side of it. -/
theorem infix_separated_iff (apart : separator ∉ part) :
    part <:+: front ++ separator :: back ↔ part <:+: front ∨ part <:+: back := by
  constructor
  · intro inside
    rcases List.infix_append_iff.mp inside with before | after | ⟨left, right, rfl, last, first⟩
    · exact .inl before
    · rcases List.infix_cons_iff.mp after with first | after
      · rw [eq_nil_of_apart apart first]
        exact .inl List.nil_infix
      · exact .inr after
    · have beyond : separator ∉ right := fun member => apart (List.mem_append_right left member)
      rw [eq_nil_of_apart beyond first, List.append_nil]
      exact .inl last.isInfix
  · rintro (before | after)
    · exact before.trans (List.prefix_append _ _).isInfix
    · exact after.trans ((List.suffix_cons _ _).trans (List.suffix_append _ _)).isInfix

end Apart

/-- No part runs from one field into the next. -/
theorem infix_joined_iff {between : String} {separator : Char}
    (single : between.toList = [separator]) (kept : Text.normalize between = between)
    {part : List Char} (apart : separator ∉ part) (d : Document) :
    part <:+: (Text.normalize (joined between d)).toList ↔
      ∃ field ∈ d.fields, part <:+: (Text.normalize field).toList := by
  simp only [normalize_joined kept, String.toList_append, single, List.append_assoc,
    List.cons_append, List.nil_append, infix_separated_iff apart, Document.fields,
    List.mem_cons, List.not_mem_nil, or_false, exists_eq_or_imp, exists_eq_left]

end BookmarkSearch.Search
