import BookmarkSearch.Saved.Number
import BookmarkSearch.Saved.Record

/-!
What is written reads back, with anything behind it: a length, a text, a flag and a whole record.
-/

namespace BookmarkSearch.Saved

open Query Search Text

/-- The first number that does not fit into this many bytes of seven bits and a last bit. -/
def lengthBound : Nat → Nat
  | 0 => 2
  | room + 1 => 128 * lengthBound room

theorem readLength_writeLength (room n : Nat) (rest : Bytes) (within : n < lengthBound room) :
    readLength (room + 1) (writeLength n ++ rest) = .ok (n, rest) := by
  induction room generalizing n with
  | zero =>
    rw [lengthBound] at within
    have byte : n.toUInt8.toNat = n := UInt8.toNat_ofNat_of_lt' (show n < 256 by omega)
    rw [writeLength, if_pos (by omega)]
    simp only [List.singleton_append, readLength, byte]
    rw [if_pos (by omega), if_neg (by omega)]
  | succ room ih =>
    rw [writeLength]
    by_cases short : n < 128
    · have byte : n.toUInt8.toNat = n := UInt8.toNat_ofNat_of_lt' (show n < 256 by omega)
      rw [if_pos short]
      simp only [List.singleton_append, readLength, byte]
      rw [if_pos short, if_neg (by omega)]
    · have byte : (n % 128 + 128).toUInt8.toNat = n % 128 + 128 :=
        UInt8.toNat_ofNat_of_lt' (show n % 128 + 128 < 256 by omega)
      have others := ih (n / 128) (by rw [lengthBound] at within; omega)
      rw [if_neg short, List.cons_append, readLength]
      simp only [byte, others, Except.map]
      rw [if_neg (by omega)]
      congr 2
      omega

theorem readLength_written {n : Nat} (rest : Bytes) (small : n < numberBound) :
    readLength maxLengthBytes (writeLength n ++ rest) = .ok (n, rest) :=
  readLength_writeLength 9 n rest small

theorem lengthBound_ge_two (room : Nat) : 2 ≤ lengthBound room := by
  induction room with
  | zero => exact Nat.le_refl _
  | succ room ih =>
    rw [lengthBound]
    omega

/-- No more can be read than fits into the bytes there is room for. -/
theorem readLength_lt {room n : Nat} {bytes rest : Bytes}
    (read : readLength (room + 1) bytes = .ok (n, rest)) : n < lengthBound room := by
  induction room generalizing n bytes rest with
  | zero =>
    cases bytes with
    | nil => cases read
    | cons b after =>
      rw [readLength] at read
      split at read
      · split at read
        · cases read
        · rename_i small
          cases read
          rw [lengthBound]
          omega
      · cases read
  | succ room ih =>
    have many := lengthBound_ge_two room
    cases bytes with
    | nil => cases read
    | cons b after =>
      rw [readLength] at read
      rw [lengthBound]
      split at read
      · split at read
        · cases read
        · cases read
          omega
      · cases later : readLength (room + 1) after with
        | error cause =>
          rw [later] at read
          cases read
        | ok result =>
          rw [later] at read
          cases read
          have less := ih later
          have byte := b.toNat_lt
          omega

theorem writeLength_length_le (n : Nat) : (writeLength n).length ≤ n + 1 := by
  induction n using Nat.strongRecOn with
  | ind n ih =>
    rw [writeLength]
    split
    · simp
    · have shorter := ih (n / 128) (by omega)
      simp only [List.length_cons]
      omega

theorem ofBytes?_bytesOf (s : String) : ofBytes? (bytesOf s) = some s := by
  have same : (⟨(bytesOf s).toArray⟩ : ByteArray) = s.toByteArray := by simp [bytesOf]
  rw [ofBytes?, same, String.fromUTF8?, dif_pos s.isValidUTF8]
  rfl

theorem bytesOf_eq_flatMap (s : String) : bytesOf s = s.toList.flatMap String.utf8EncodeChar := by
  have whole : s.toByteArray = s.toList.utf8Encode := by
    rw [← String.toByteArray_ofList, String.ofList_toList]
  rw [bytesOf, String.toUTF8_eq_toByteArray, whole, List.utf8Encode, List.data_toByteArray]

/-- A character takes up to four bytes. -/
theorem length_flatMap_utf8EncodeChar_le (cs : List Char) :
    (cs.flatMap String.utf8EncodeChar).length ≤ 4 * cs.length := by
  induction cs with
  | nil => exact Nat.le_refl _
  | cons c rest ih =>
    have few := c.utf8Size_le_four
    simp only [List.flatMap_cons, List.length_append, List.length_cons,
      String.length_utf8EncodeChar]
    omega

theorem bytesOf_length_le (s : String) : (bytesOf s).length ≤ 4 * s.length := by
  rw [bytesOf_eq_flatMap, ← String.length_toList]
  exact length_flatMap_utf8EncodeChar_le s.toList

theorem readText_bytesOf (s : String) (rest : Bytes) :
    readText (bytesOf s).length (bytesOf s ++ rest) = .ok (s, rest) := by
  rw [readText, if_neg (by simp)]
  simp [ofBytes?_bytesOf]

theorem readFlag_writeFlag (flag : Bool) (rest : Bytes) :
    readFlag (writeFlag flag :: rest) = .ok (flag, rest) := by
  cases flag <;> rfl

end BookmarkSearch.Saved

namespace BookmarkSearch.Query.QueryText

/-- The text of a query is fit to be a query. -/
theorem ofString_text (query : QueryText) : ofString query.text = .ok query := by
  obtain ⟨text, trimmed, nonempty, within⟩ := query
  simp only [ofString, trimmed]
  rw [dif_neg nonempty, dif_pos within]

end BookmarkSearch.Query.QueryText

namespace BookmarkSearch.Saved.SavedQuery

open Text

theorem textLength_le (s : SavedQuery) : (bytesOf s.query.text).length ≤ 4 * Query.maxQueryLength :=
  Nat.le_trans (bytesOf_length_le _) (Nat.mul_le_mul_left 4 s.query.length_le)

theorem encode_length_lt (s : SavedQuery) : s.encode.length < numberBound := by
  have text := s.textLength_le
  have size := writeLength_length_le (bytesOf s.query.text).length
  simp only [encode, List.length_append, List.length_cons, List.length_nil]
  simp only [Query.maxQueryLength] at text
  have bound : numberBound = 18446744073709551616 := rfl
  omega

/-- A record is read to its end and no further. -/
theorem decode_encode (s : SavedQuery) (rest : Bytes) : decode (s.encode ++ rest) = .ok s := by
  have fits : (bytesOf s.query.text).length < numberBound :=
    Nat.lt_of_le_of_lt s.textLength_le (by decide)
  simp only [encode, List.cons_append, List.append_assoc, decode]
  rw [if_neg (by simp), readLength_written _ fits]
  simp only [List.nil_append, bind, Except.bind, readText_bytesOf, Query.QueryText.ofString_text,
    readFlag_writeFlag]
  rfl

end BookmarkSearch.Saved.SavedQuery
