import BookmarkSearch.Proofs.Saved.Codec
import Mathlib.Data.List.Basic

/-!
A record that has been cut off is not taken for another one: wherever the cut is, in the length, in
the text or in front of a flag, the end comes too early.
-/

namespace BookmarkSearch.Saved

open Query Text

theorem readLength_cut (room : Nat) {n k : Nat} (within : n < lengthBound room)
    (cut : k < (writeLength n).length) :
    readLength (room + 1) ((writeLength n).take k) = .error .unexpectedEnd := by
  induction room generalizing n k with
  | zero =>
    -- A single byte can only be cut off as a whole.
    rw [lengthBound] at within
    rw [writeLength, if_pos (by omega)] at cut ⊢
    obtain rfl : k = 0 := by simpa using cut
    rfl
  | succ room ih =>
    rw [writeLength] at cut ⊢
    by_cases short : n < 128
    · rw [if_pos short] at cut ⊢
      obtain rfl : k = 0 := by simpa using cut
      rfl
    · rw [if_neg short] at cut ⊢
      cases k with
      | zero => rfl
      | succ k =>
        have byte : (n % 128 + 128).toUInt8.toNat = n % 128 + 128 :=
          UInt8.toNat_ofNat_of_lt' (show n % 128 + 128 < 256 by omega)
        have later : readLength (room + 1) ((writeLength (n / 128)).take k) =
            .error .unexpectedEnd := by
          apply ih
          · rw [lengthBound] at within
            omega
          · simpa using cut
        rw [List.take_succ_cons, readLength, byte, if_neg (by omega), later]
        rfl

namespace SavedQuery

def body (s : SavedQuery) : Bytes :=
  bytesOf s.query.text ++ [writeFlag s.mode.tagsOnly, writeFlag s.mode.allRegex]

def payload (s : SavedQuery) : Bytes := writeLength (bytesOf s.query.text).length ++ s.body

theorem encode_eq_cons (s : SavedQuery) : s.encode = recordVersion :: s.payload := by
  simp [encode, payload, body]

def decodeBody (length : Nat) (bytes : Bytes) : Except RecordError SavedQuery := do
  let (text, rest) ← readText length bytes
  let query ← (QueryText.ofString text).mapError RecordError.badQuery
  let (tagsOnly, rest) ← readFlag rest
  let (allRegex, _) ← readFlag rest
  return ⟨query, ⟨tagsOnly, allRegex⟩⟩

theorem decode_eq_bind (bytes : Bytes) : decode (recordVersion :: bytes) =
    (readLength maxLengthBytes bytes).bind fun (length, rest) => decodeBody length rest := by
  rw [decode, if_neg (by simp)]
  rfl

theorem decodeBody_cut (s : SavedQuery) {k : Nat} (cut : k < s.body.length) :
    decodeBody (bytesOf s.query.text).length (s.body.take k) = .error .unexpectedEnd := by
  rw [body, List.length_append] at cut
  by_cases inText : k < (bytesOf s.query.text).length
  · have early : (s.body.take k).length < (bytesOf s.query.text).length := by
      rw [List.length_take]
      omega
    rw [decodeBody, readText, if_pos early]
    rfl
  · obtain ⟨k, rfl⟩ := Nat.exists_eq_add_of_le (Nat.le_of_not_lt inText)
    rw [decodeBody, body, List.take_length_add_append, readText_bytesOf]
    simp only [bind, Except.bind, QueryText.ofString_text, Except.mapError]
    -- One flag is left, or none.
    obtain rfl | rfl : k = 0 ∨ k = 1 := by
      simp only [List.length_cons, List.length_nil] at cut
      omega
    · rfl
    · simp only [List.take_succ_cons, List.take_zero, readFlag_writeFlag]
      rfl

theorem decode_payload_cut (s : SavedQuery) {k : Nat} (cut : k < s.payload.length) :
    decode (recordVersion :: s.payload.take k) = .error .unexpectedEnd := by
  have fits : (bytesOf s.query.text).length < numberBound :=
    Nat.lt_of_le_of_lt s.textLength_le (by decide)
  rw [payload, List.length_append] at cut
  rw [decode_eq_bind, payload]
  by_cases inLength : k < (writeLength (bytesOf s.query.text).length).length
  · have early := readLength_cut 9 fits inLength
    rw [List.take_append_of_le_length (Nat.le_of_lt inLength), maxLengthBytes, early]
    rfl
  · obtain ⟨k, rfl⟩ := Nat.exists_eq_add_of_le (Nat.le_of_not_lt inLength)
    rw [List.take_length_add_append, readLength_written _ fits]
    exact s.decodeBody_cut (by omega)

/-- A record reads back with anything behind it, and no shorter beginning of it is a record. -/
theorem record_self_delimiting (s : SavedQuery) :
    (∀ rest, decode (s.encode ++ rest) = .ok s) ∧
      ∀ part, part <+: s.encode → part ≠ s.encode →
        decode part = .error (if part = [] then .empty else .unexpectedEnd) := by
  refine ⟨s.decode_encode, ?_⟩
  intro part front shorter
  cases part with
  | nil => rfl
  | cons version bytes =>
    rw [encode_eq_cons] at front shorter
    obtain ⟨rfl, inside⟩ := List.cons_prefix_cons.mp front
    have proper : bytes.length < s.payload.length := by
      refine Nat.lt_of_le_of_ne inside.length_le fun same => shorter ?_
      rw [inside.eq_of_length same]
    rw [if_neg (List.cons_ne_nil _ _), List.prefix_iff_eq_take.mp inside]
    exact s.decode_payload_cut proper

/-- A cut in the middle of a character of two bytes, behind a length that is written whole. -/
theorem record_cut_in_character :
    let s : SavedQuery := ⟨⟨"łódź", by decide, by decide, by decide⟩, ⟨true, false⟩⟩
    [1, 7, 0xC5] <+: s.encode ∧ [1, 7, 0xC5] ≠ s.encode ∧
      decode [1, 7, 0xC5] = .error .unexpectedEnd := by
  intro s
  have front : [1, 7, 0xC5] <+: s.encode := by decide +kernel
  have shorter : [1, 7, 0xC5] ≠ s.encode := by decide +kernel
  exact ⟨front, shorter, s.record_self_delimiting.2 _ front shorter⟩

end SavedQuery

end BookmarkSearch.Saved
