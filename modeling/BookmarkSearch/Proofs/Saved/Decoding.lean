import BookmarkSearch.Proofs.Saved.Truncation
import BookmarkSearch.Proofs.Search.Phrase

/-!
What bytes are a record, and what is wrong with all others. The form of the bytes alone decides what
they are read as: up to the first thing wrong they have the form of a record. A record may be
written longer than it has to be, with blanks around the query or zeros at the end of the length;
what is read from it is written again in no more bytes.
-/

namespace BookmarkSearch.Query.QueryText

theorem ofString_of_trim {text : String} {query : QueryText}
    (trimmed : Unicode.trim text = query.text) : ofString text = .ok query := by
  obtain ⟨found, foundTrimmed, nonempty, within⟩ := query
  simp only [ofString, trimmed]
  rw [dif_neg nonempty, dif_pos within]

end BookmarkSearch.Query.QueryText

namespace BookmarkSearch.Saved

open Query Text

/-! Lengths. -/

def lengthValue : Bytes → Nat
  | [] => 0
  | b :: rest => b.toNat % 128 + 128 * lengthValue rest

def Continued (bytes : Bytes) : Prop := ∀ b ∈ bytes, 128 ≤ b.toNat

/-- The bytes of a length, up to `room` of them and one more, and the number. The last byte that
there is room for has one bit. -/
inductive LengthWithin (room : Nat) : Bytes → Nat → Prop
  | mk {front : Bytes} {last : UInt8} (continued : Continued front) (ends : last.toNat < 128)
      (fits : front.length ≤ room) (full : front.length = room → last.toNat ≤ 1) :
      LengthWithin room (front ++ [last]) (lengthValue (front ++ [last]))

def CutWithin (room : Nat) (bytes : Bytes) : Prop := Continued bytes ∧ bytes.length ≤ room

inductive OverlongWithin (room : Nat) : Bytes → Prop
  | mk {front : Bytes} {last : UInt8} (continued : Continued front) (filled : front.length = room)
      (much : 1 < last.toNat) : OverlongWithin room (front ++ [last])

theorem continued_cons {b : UInt8} {bytes : Bytes} :
    Continued (b :: bytes) ↔ 128 ≤ b.toNat ∧ Continued bytes := List.forall_mem_cons

theorem readLength_continued {b : UInt8} (continues : 128 ≤ b.toNat) (room : Nat) (rest : Bytes) :
    readLength (room + 1) (b :: rest) =
      (readLength room rest).map fun (n, after) => (b.toNat % 128 + 128 * n, after) := by
  have low : b.toNat - 128 = b.toNat % 128 := by
    have byte := b.toNat_lt
    omega
  rw [readLength, if_neg (by omega), low]

theorem readLength_within {room n : Nat} {bytes : Bytes} (length : LengthWithin room bytes n)
    (rest : Bytes) : readLength (room + 1) (bytes ++ rest) = .ok (n, rest) := by
  obtain ⟨continued, ends, fits, full⟩ := length
  rename_i front last
  induction front generalizing room with
  | nil =>
    have small : ¬(room = 0 ∧ 1 < last.toNat) := fun ⟨nowhere, much⟩ =>
      Nat.not_lt.mpr (full nowhere.symm) much
    simp [readLength, ends, small, lengthValue, Nat.mod_eq_of_lt ends]
  | cons b front ih =>
    obtain ⟨continues, others⟩ := continued_cons.mp continued
    obtain ⟨room, rfl⟩ := Nat.exists_eq_succ_of_ne_zero (Nat.ne_zero_of_lt fits)
    have later := ih others (Nat.le_of_succ_le_succ fits) fun filled => full (by simp [filled])
    rw [List.cons_append, List.cons_append, readLength_continued continues, later]
    rfl

theorem readLength_cutWithin {room : Nat} {bytes : Bytes} (cut : CutWithin room bytes) :
    readLength (room + 1) bytes = .error .unexpectedEnd := by
  obtain ⟨continued, fits⟩ := cut
  induction bytes generalizing room with
  | nil => rfl
  | cons b bytes ih =>
    obtain ⟨continues, others⟩ := continued_cons.mp continued
    obtain ⟨room, rfl⟩ := Nat.exists_eq_succ_of_ne_zero (Nat.ne_zero_of_lt fits)
    rw [readLength_continued continues, ih others (Nat.le_of_succ_le_succ fits)]
    rfl

theorem readLength_overlong {room : Nat} {bytes : Bytes} (overlong : OverlongWithin room bytes)
    (rest : Bytes) : readLength (room + 1) (bytes ++ rest) = .error .badLength := by
  obtain ⟨continued, filled, much⟩ := overlong
  rename_i front last
  induction front generalizing room with
  | nil =>
    cases filled
    by_cases ends : last.toNat < 128 <;> simp [readLength, ends, much, Except.map]
  | cons b front ih =>
    obtain ⟨continues, others⟩ := continued_cons.mp continued
    cases filled
    rw [List.cons_append, List.cons_append, List.length_cons, readLength_continued continues,
      ih others rfl]
    rfl

section Longer

variable {b : UInt8} {room : Nat} {bytes : Bytes} (continues : 128 ≤ b.toNat)

include continues

theorem LengthWithin.longer {n : Nat} (length : LengthWithin room bytes n) :
    ∃ m, LengthWithin (room + 1) (b :: bytes) m := by
  obtain ⟨continued, ends, fits, full⟩ := length
  exact ⟨_, .mk (continued_cons.mpr ⟨continues, continued⟩) ends (Nat.succ_le_succ fits)
    fun filled => full (Nat.succ.inj filled)⟩

theorem OverlongWithin.longer (overlong : OverlongWithin room bytes) :
    OverlongWithin (room + 1) (b :: bytes) := by
  obtain ⟨continued, filled, much⟩ := overlong
  exact .mk (continued_cons.mpr ⟨continues, continued⟩) (congrArg Nat.succ filled) much

end Longer

/-- Any bytes begin with a length, end within one, or begin with too long a one. -/
theorem length_cases (room : Nat) (bytes : Bytes) :
    (∃ length n rest, bytes = length ++ rest ∧ LengthWithin room length n) ∨ CutWithin room bytes ∨
      ∃ length rest, bytes = length ++ rest ∧ OverlongWithin room length := by
  induction bytes generalizing room with
  | nil => exact .inr (.inl ⟨List.forall_mem_nil _, Nat.zero_le _⟩)
  | cons b bytes ih =>
    have nothing : Continued [] := List.forall_mem_nil _
    by_cases ends : b.toNat < 128
    · by_cases much : room = 0 ∧ 1 < b.toNat
      · exact .inr (.inr ⟨[b], bytes, rfl, .mk nothing much.1.symm much.2⟩)
      · refine .inl ⟨[b], _, bytes, rfl, .mk nothing ends (Nat.zero_le _) fun filled => ?_⟩
        exact Nat.not_lt.mp fun more => much ⟨filled.symm, more⟩
    · have continues := Nat.not_lt.mp ends
      cases room with
      | zero => exact .inr (.inr ⟨[b], bytes, rfl, .mk nothing rfl (by omega)⟩)
      | succ room =>
        rcases ih room with ⟨length, n, rest, rfl, within⟩ | ⟨continued, fits⟩ |
            ⟨length, rest, rfl, overlong⟩
        · obtain ⟨m, longer⟩ := within.longer continues
          exact .inl ⟨b :: length, m, rest, rfl, longer⟩
        · exact .inr (.inl ⟨continued_cons.mpr ⟨continues, continued⟩, Nat.succ_le_succ fits⟩)
        · exact .inr (.inr ⟨b :: length, rest, rfl, overlong.longer continues⟩)

/-- No number up to the one that a length stands for is written in more bytes. -/
theorem writeLength_shortest {n : Nat} {bytes : Bytes} (something : bytes ≠ [])
    (covers : n ≤ lengthValue bytes) : (writeLength n).length ≤ bytes.length := by
  induction bytes generalizing n with
  | nil => exact absurd rfl something
  | cons b rest ih =>
    rw [writeLength]
    split
    · simp
    · rw [lengthValue] at covers
      have left : n / 128 ≤ lengthValue rest := by omega
      have someLeft : rest ≠ [] := by
        rintro rfl
        rw [lengthValue] at left
        omega
      exact Nat.succ_le_succ (ih someLeft left)

theorem LengthWithin.shortest {room n m : Nat} {bytes : Bytes} (length : LengthWithin room bytes m)
    (covers : n ≤ m) : (writeLength n).length ≤ bytes.length := by
  cases length
  exact writeLength_shortest (List.append_ne_nil_of_right_ne_nil _ (List.cons_ne_nil _ _)) covers

/-! Texts. -/

theorem bytesOf_of_ofBytes? {bytes : Bytes} {s : String} (read : ofBytes? bytes = some s) :
    bytesOf s = bytes := by
  rw [ofBytes?, String.fromUTF8?] at read
  split at read
  · cases read
    rfl
  · cases read

theorem bytesOf_trim_length_le (s : String) :
    (bytesOf (Unicode.trim s)).length ≤ (bytesOf s).length := by
  obtain ⟨before, after, whole⟩ := trimBy_part Unicode.isBlank s.toList
  have sizes := congrArg (fun cs => (cs.flatMap String.utf8EncodeChar).length) whole
  simp only [List.flatMap_append, List.length_append] at sizes
  rw [bytesOf_eq_flatMap s, bytesOf_eq_flatMap, Unicode.trim, String.toList_ofList]
  omega

/-! Records. -/

abbrev IsLength (bytes : Bytes) (n : Nat) : Prop := LengthWithin (maxLengthBytes - 1) bytes n

inductive IsQuery : Bytes → QueryText → Prop
  | mk {length : Bytes} {text : String} {query : QueryText}
      (counted : IsLength length (bytesOf text).length) (trimmed : Unicode.trim text = query.text) :
      IsQuery (length ++ bytesOf text) query

namespace SavedQuery

/-- What bytes are read as, by their form. A record goes on to the first thing wrong with it. -/
inductive Reads : Bytes → Except RecordError SavedQuery → Prop
  | nothing : Reads [] (.error .empty)
  | version {version : UInt8} {rest : Bytes} (other : version ≠ recordVersion) :
      Reads (version :: rest) (.error (.unsupportedVersion version))
  | lengthEnds {bytes : Bytes} (cut : CutWithin (maxLengthBytes - 1) bytes) :
      Reads (recordVersion :: bytes) (.error .unexpectedEnd)
  | lengthTooLong {bytes rest : Bytes} (overlong : OverlongWithin (maxLengthBytes - 1) bytes) :
      Reads (recordVersion :: (bytes ++ rest)) (.error .badLength)
  | textEnds {length text : Bytes} {n : Nat} (counted : IsLength length n)
      (short : text.length < n) :
      Reads (recordVersion :: (length ++ text)) (.error .unexpectedEnd)
  | badText {length text rest : Bytes} (counted : IsLength length text.length)
      (noText : ∀ s, bytesOf s ≠ text) :
      Reads (recordVersion :: (length ++ text ++ rest)) (.error .badText)
  | blankText {length rest : Bytes} {text : String}
      (counted : IsLength length (bytesOf text).length)
      (blank : Unicode.trim text = "") :
      Reads (recordVersion :: (length ++ bytesOf text ++ rest)) (.error (.badQuery .empty))
  | longText {length rest : Bytes} {text : String}
      (counted : IsLength length (bytesOf text).length)
      (long : maxQueryLength < (Unicode.trim text).length) :
      Reads (recordVersion :: (length ++ bytesOf text ++ rest)) (.error (.badQuery .tooLong))
  | flagsEnd {bytes : Bytes} {query : QueryText} {flags : List Bool} (held : IsQuery bytes query)
      (few : flags.length < 2) :
      Reads (recordVersion :: (bytes ++ flags.map writeFlag)) (.error .unexpectedEnd)
  | badFlag {bytes rest : Bytes} {query : QueryText} {flags : List Bool} {b : UInt8}
      (held : IsQuery bytes query) (few : flags.length < 2) (notClear : b ≠ 0) (notSet : b ≠ 1) :
      Reads (recordVersion :: (bytes ++ flags.map writeFlag ++ b :: rest)) (.error .badFlag)
  | record {bytes rest : Bytes} {query : QueryText} {tagsOnly allRegex : Bool}
      (held : IsQuery bytes query) :
      Reads (recordVersion :: (bytes ++ [writeFlag tagsOnly, writeFlag allRegex] ++ rest))
        (.ok ⟨query, ⟨tagsOnly, allRegex⟩⟩)

theorem decode_length {length rest : Bytes} {n : Nat} (counted : IsLength length n) :
    decode (recordVersion :: (length ++ rest)) = decodeBody n rest := by
  have read : readLength maxLengthBytes (length ++ rest) = .ok (n, rest) :=
    readLength_within counted rest
  rw [decode_eq_bind, read]
  rfl

/-- What stands behind a text is looked at once the text is found to be a query. -/
theorem decode_text {length rest : Bytes} {text : String}
    (counted : IsLength length (bytesOf text).length) :
    decode (recordVersion :: (length ++ bytesOf text ++ rest)) =
      ((QueryText.ofString text).mapError RecordError.badQuery).bind fun query =>
        (readFlag rest).bind fun (tagsOnly, rest) =>
          (readFlag rest).bind fun (allRegex, _) => .ok ⟨query, ⟨tagsOnly, allRegex⟩⟩ := by
  rw [List.append_assoc, decode_length counted, decodeBody, readText_bytesOf]
  rfl

theorem decode_flags {bytes rest : Bytes} {query : QueryText} (held : IsQuery bytes query) :
    decode (recordVersion :: (bytes ++ rest)) =
      (readFlag rest).bind fun (tagsOnly, rest) =>
        (readFlag rest).bind fun (allRegex, _) => .ok ⟨query, ⟨tagsOnly, allRegex⟩⟩ := by
  obtain ⟨counted, trimmed⟩ := held
  rw [decode_text counted, QueryText.ofString_of_trim trimmed]
  rfl

theorem readFlag_none {b : UInt8} (notClear : b ≠ 0) (notSet : b ≠ 1) (rest : Bytes) :
    readFlag (b :: rest) = .error .badFlag := by
  rw [readFlag, if_neg notClear, if_neg notSet]

theorem flags_of_few {flags : List Bool} (few : flags.length < 2) :
    flags = [] ∨ ∃ flag, flags = [flag] := by
  rcases Nat.le_one_iff_eq_zero_or_eq_one.mp (Nat.lt_succ_iff.mp few) with none | one
  · exact .inl (List.length_eq_zero_iff.mp none)
  · exact .inr (List.length_eq_one_iff.mp one)

theorem Reads.decode_eq {bytes : Bytes} {r : Except RecordError SavedQuery}
    (reads : Reads bytes r) : decode bytes = r := by
  cases reads with
  | nothing => rfl
  | version other => rw [decode, if_pos other]
  | @lengthEnds bytes cut =>
    have read : readLength maxLengthBytes bytes = .error .unexpectedEnd := readLength_cutWithin cut
    rw [decode_eq_bind, read]
    rfl
  | @lengthTooLong bytes rest overlong =>
    have read : readLength maxLengthBytes (bytes ++ rest) = .error .badLength :=
      readLength_overlong overlong rest
    rw [decode_eq_bind, read]
    rfl
  | textEnds counted short =>
    rw [decode_length counted, decodeBody, readText, if_pos short]
    rfl
  | badText counted noText =>
    have unread : ofBytes? _ = none :=
      Option.eq_none_iff_forall_ne_some.mpr fun s read => noText s (bytesOf_of_ofBytes? read)
    rw [List.append_assoc, decode_length counted, decodeBody, readText, if_neg (by simp),
      List.take_left, unread]
    rfl
  | blankText counted blank =>
    rw [decode_text counted, QueryText.ofString, dif_pos blank]
    rfl
  | @longText _ _ text counted long =>
    have nonempty : Unicode.trim text ≠ "" := by
      intro nothing
      rw [nothing] at long
      cases long
    rw [decode_text counted, QueryText.ofString, dif_neg nonempty, dif_neg (Nat.not_le.mpr long)]
    rfl
  | @flagsEnd _ _ flags held few =>
    rw [decode_flags held]
    rcases flags_of_few few with rfl | ⟨flag, rfl⟩
    · rfl
    · rw [List.map_singleton, readFlag_writeFlag]
      rfl
  | @badFlag _ rest _ flags b held few notClear notSet =>
    rw [List.append_assoc, decode_flags held]
    rcases flags_of_few few with rfl | ⟨flag, rfl⟩
    · rw [List.map_nil, List.nil_append, readFlag_none notClear notSet]
      rfl
    · rw [List.map_singleton, List.singleton_append, readFlag_writeFlag]
      change (readFlag (b :: rest)).bind _ = _
      rw [readFlag_none notClear notSet]
      rfl
  | record held =>
    rw [List.append_assoc, decode_flags held, List.cons_append, readFlag_writeFlag]
    change (readFlag _).bind _ = _
    rw [List.singleton_append, readFlag_writeFlag]
    rfl

theorem flag_cases (bytes : Bytes) : bytes = [] ∨ (∃ flag rest, bytes = writeFlag flag :: rest) ∨
    ∃ b rest, bytes = b :: rest ∧ b ≠ 0 ∧ b ≠ 1 := by
  cases bytes with
  | nil => exact .inl rfl
  | cons b rest =>
    by_cases clear : b = 0
    · exact .inr (.inl ⟨false, rest, by rw [clear]; rfl⟩)
    by_cases set : b = 1
    · exact .inr (.inl ⟨true, rest, by rw [set]; rfl⟩)
    exact .inr (.inr ⟨b, rest, rfl, clear, set⟩)

theorem exists_reads_flags {bytes : Bytes} {query : QueryText} (held : IsQuery bytes query)
    (rest : Bytes) : ∃ r, Reads (recordVersion :: (bytes ++ rest)) r := by
  have bad (flags : List Bool) (few : flags.length < 2) {b : UInt8} (notClear : b ≠ 0)
      (notSet : b ≠ 1) (rest : Bytes) :
      ∃ r, Reads (recordVersion :: (bytes ++ (flags.map writeFlag ++ b :: rest))) r := by
    rw [← List.append_assoc]
    exact ⟨_, .badFlag held few notClear notSet⟩
  rcases flag_cases rest with rfl | ⟨tagsOnly, rest, rfl⟩ | ⟨b, rest, rfl, notClear, notSet⟩
  · exact ⟨_, @Reads.flagsEnd _ _ [] held Nat.two_pos⟩
  · rcases flag_cases rest with rfl | ⟨allRegex, rest, rfl⟩ | ⟨b, rest, rfl, notClear, notSet⟩
    · exact ⟨_, @Reads.flagsEnd _ _ [tagsOnly] held Nat.one_lt_two⟩
    · have whole := @Reads.record _ rest _ tagsOnly allRegex held
      rw [List.append_assoc] at whole
      exact ⟨_, whole⟩
    · exact bad [tagsOnly] Nat.one_lt_two notClear notSet rest
  · exact bad [] Nat.two_pos notClear notSet rest

theorem exists_reads_text {length : Bytes} {text : String}
    (counted : IsLength length (bytesOf text).length) (rest : Bytes) :
    ∃ r, Reads (recordVersion :: (length ++ bytesOf text ++ rest)) r := by
  by_cases blank : Unicode.trim text = ""
  · exact ⟨_, .blankText counted blank⟩
  by_cases long : maxQueryLength < (Unicode.trim text).length
  · exact ⟨_, .longText counted long⟩
  let query : QueryText := ⟨Unicode.trim text, Unicode.trim_idem text, blank, Nat.not_lt.mp long⟩
  have held : IsQuery (length ++ bytesOf text) query := .mk counted rfl
  exact exists_reads_flags held rest

/-- Any bytes have one of the forms. -/
theorem exists_reads (bytes : Bytes) : ∃ r, Reads bytes r := by
  cases bytes with
  | nil => exact ⟨_, .nothing⟩
  | cons version payload =>
    by_cases other : version = recordVersion
    · subst other
      rcases length_cases (maxLengthBytes - 1) payload with ⟨length, n, rest, rfl, counted⟩ | cut |
          ⟨length, rest, rfl, overlong⟩
      · by_cases short : rest.length < n
        · exact ⟨_, .textEnds counted short⟩
        have whole : rest.take n ++ rest.drop n = rest := List.take_append_drop n rest
        have size : (rest.take n).length = n := List.length_take_of_le (Nat.not_lt.mp short)
        rw [← whole, ← List.append_assoc]
        cases read : ofBytes? (rest.take n) with
        | none =>
          refine ⟨_, .badText (by rwa [size]) fun s same => ?_⟩
          rw [← same, ofBytes?_bytesOf] at read
          cases read
        | some text =>
          have same := bytesOf_of_ofBytes? read
          rw [← same]
          exact exists_reads_text (by rwa [same, size]) _
      · exact ⟨_, .lengthEnds cut⟩
      · exact ⟨_, .lengthTooLong overlong⟩
    · exact ⟨_, .version other⟩

theorem decode_eq_iff (bytes : Bytes) (r : Except RecordError SavedQuery) :
    decode bytes = r ↔ Reads bytes r := by
  constructor
  · rintro rfl
    obtain ⟨r, reads⟩ := exists_reads bytes
    rwa [reads.decode_eq]
  · exact Reads.decode_eq

/-- What is read is written in no more bytes than it was read from. -/
theorem encode_length_le {bytes : Bytes} {s : SavedQuery} (reads : Reads bytes (.ok s)) :
    s.encode.length ≤ bytes.length := by
  cases reads with
  | record held =>
    obtain ⟨counted, trimmed⟩ := held
    rename_i text
    have shorter := bytesOf_trim_length_le text
    rw [trimmed] at shorter
    have size := counted.shortest shorter
    simp only [encode, List.length_append, List.length_cons, List.length_nil]
    omega

/-- Bytes are read by their form, the first thing wrong being the error. A query that is read is fit
to be a query, is written in no more bytes than it was read from, and is read from these again. -/
theorem decode_by_form (bytes : Bytes) :
    (∀ r, decode bytes = r ↔ Reads bytes r) ∧
      ∀ s, decode bytes = .ok s → QueryText.ofString s.query.text = .ok s.query ∧
        s.encode.length ≤ bytes.length ∧ decode s.encode = .ok s := by
  refine ⟨decode_eq_iff bytes, fun s read => ⟨QueryText.ofString_text s.query, ?_, ?_⟩⟩
  · exact encode_length_le ((decode_eq_iff bytes _).mp read)
  · have again := decode_encode s []
    rwa [List.append_nil] at again

/-- A length in two bytes where one would do, blanks around the query, a byte behind the flags. -/
example : decode [1, 0x83, 0, 0x20, 0x61, 0x0A, 0, 1, 7] =
    .ok ⟨⟨"a", by decide, by decide, by decide⟩, ⟨false, true⟩⟩ := by decide

end SavedQuery

end BookmarkSearch.Saved
