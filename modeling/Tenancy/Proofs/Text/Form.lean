import Tenancy.Proofs.Url.Joining

/-!
# Forms that are read back

A form is read by cutting it at its ampersands and each part at its first equals sign. Neither of the
two stands within a name or a value, where they are escaped, so the fields that were written are the
fields that are read, byte by byte.
-/

namespace Tenancy.Form

/-- The fields of a form. Empty parts say nothing, and a part without an equals sign is a name. -/
def decode (bytes : Bytes) : List (Bytes × Bytes) :=
  ((bytes.splitOn 38).filter fun part => part ≠ []).map fun part =>
    (decodeText (part.takeWhile (· ≠ 61)), decodeText ((part.dropWhile (· ≠ 61)).drop 1))

/-! ## Names and values -/

theorem isAlphanum_ascii {c : Char} (h : c.isAlphanum = true) : c.toNat < 128 := by
  rcases Bool.or_eq_true_iff.mp h with letter | digit
  · rcases Bool.or_eq_true_iff.mp letter with upper | lower
    · have range : 'A'.val ≤ c.val ∧ c.val ≤ 'Z'.val := of_decide_eq_true upper
      exact Nat.lt_of_le_of_lt (UInt32.le_iff_toNat_le.mp range.2) (by decide)
    · have range : 97 ≤ c.toNat ∧ c.toNat ≤ 122 := Percent.between_of_range lower
      omega
  · have range : 48 ≤ c.toNat ∧ c.toNat ≤ 57 := Percent.between_of_range digit
    omega

theorem isPlain_ascii {c : Char} (h : isPlain c = true) :
    c.toNat < 128 ∧ c ≠ '%' ∧ c ≠ '+' ∧ c ≠ '&' ∧ c ≠ '=' := by
  refine ⟨?_, ?_, ?_, ?_, ?_⟩
  · simp only [isPlain, Bool.or_eq_true, beq_iff_eq] at h
    rcases h with (((alphanum | rfl) | rfl) | rfl) | rfl
    · exact isAlphanum_ascii alphanum
    all_goals decide
  all_goals
    rintro rfl
    exact absurd h (by decide)

/-- The bytes of an escaped character are no marks of a form. -/
theorem mem_escapes {bs : Bytes} {b : UInt8}
    (h : b ∈ (bs.flatMap Percent.escape).flatMap String.utf8EncodeChar) :
    b ≠ 38 ∧ b ≠ 43 ∧ b ≠ 61 := by
  have unmarked {c : Char} (hb : b ∈ String.utf8EncodeChar c)
      (free : 38 ∉ String.utf8EncodeChar c ∧ 43 ∉ String.utf8EncodeChar c ∧
        61 ∉ String.utf8EncodeChar c) : b ≠ 38 ∧ b ≠ 43 ∧ b ≠ 61 :=
    ⟨ne_of_mem_of_not_mem hb free.1, ne_of_mem_of_not_mem hb free.2.1,
      ne_of_mem_of_not_mem hb free.2.2⟩
  have digits : ∀ n < 16, 38 ∉ String.utf8EncodeChar (Percent.digit n) ∧
      43 ∉ String.utf8EncodeChar (Percent.digit n) ∧
      61 ∉ String.utf8EncodeChar (Percent.digit n) := by decide
  obtain ⟨c, hc, hb⟩ := List.mem_flatMap.mp h
  obtain ⟨b', _, hc⟩ := List.mem_flatMap.mp hc
  have below := b'.toNat_lt
  simp only [Percent.escape, List.mem_cons, List.not_mem_nil, or_false] at hc
  rcases hc with rfl | rfl | rfl
  · exact unmarked hb (by decide)
  · exact unmarked hb (digits (b'.toNat / 16) (by omega))
  · exact unmarked hb (digits (b'.toNat % 16) (by omega))

/-- The bytes that a character is written in, and what is read from them: a space is a plus sign, other
characters stand as they are or are escaped, and no mark of a form is left. -/
inductive Written (c : Char) : Bytes → Prop
  | space (same : String.utf8EncodeChar c = [32]) : Written c [43]
  | plain {b : UInt8} (same : String.utf8EncodeChar c = [b])
    (unmarked : b ≠ 37 ∧ b ≠ 38 ∧ b ≠ 43 ∧ b ≠ 61) : Written c [b]
  | escaped : Written c (((String.utf8EncodeChar c).flatMap Percent.escape).flatMap
      String.utf8EncodeChar)

theorem code_inj {c d : Char} (hc : c.toNat < 128) (hd : d.toNat < 128)
    (same : UInt8.ofNat c.toNat = UInt8.ofNat d.toNat) : c = d := by
  have value := congrArg UInt8.toNat same
  rw [UInt8.toNat_ofNat_of_lt' (Nat.lt_trans hc (by decide)),
    UInt8.toNat_ofNat_of_lt' (Nat.lt_trans hd (by decide))] at value
  exact Char.toNat_inj.mp value

theorem written (c : Char) : Written c ((encodeChar c).flatMap String.utf8EncodeChar) := by
  unfold encodeChar
  split
  · next space =>
    subst space
    exact .space rfl
  · split
    · next plain =>
      obtain ⟨small, sign, plus, mark, equals⟩ := isPlain_ascii plain
      have code := Percent.utf8EncodeChar_ascii small
      rw [List.flatMap_singleton, code]
      refine .plain code ⟨?_, ?_, ?_, ?_⟩
      · exact mt (code_inj (d := '%') small (by decide)) sign
      · exact mt (code_inj (d := '&') small (by decide)) mark
      · exact mt (code_inj (d := '+') small (by decide)) plus
      · exact mt (code_inj (d := '=') small (by decide)) equals
    · exact .escaped

theorem Written.unmarked {c : Char} {bs : Bytes} (h : Written c bs) :
    ∀ b ∈ bs, b ≠ 38 ∧ b ≠ 61 := by
  intro b hb
  cases h with
  | space =>
    obtain rfl := List.mem_singleton.mp hb
    decide
  | plain _ unmarked =>
    obtain rfl := List.mem_singleton.mp hb
    exact ⟨unmarked.2.1, unmarked.2.2.2⟩
  | escaped => exact ⟨(mem_escapes hb).1, (mem_escapes hb).2.2⟩

theorem Written.read {c : Char} {bs : Bytes} (h : Written c bs) (rest : Bytes) :
    decodeText (bs ++ rest) = String.utf8EncodeChar c ++ decodeText rest := by
  unfold decodeText
  rw [List.map_append]
  cases h with
  | space same =>
    rw [same]
    exact Percent.decode_other (by decide) _
  | plain same unmarked =>
    rw [same, List.map_singleton, if_neg unmarked.2.2.1]
    exact Percent.decode_other unmarked.1 _
  | escaped =>
    rw [List.map_congr_left fun b hb => if_neg (mem_escapes hb).2.1, List.map_id',
      Percent.decode_escapes]

/-- The bytes of a name or a value. -/
theorem encode_encodeText (s : String) : Utf8.encode (encodeText s) =
    s.toList.flatMap fun c => (encodeChar c).flatMap String.utf8EncodeChar := by
  rw [Utf8.encode, encodeText, String.toList_ofList, List.flatMap_assoc]

theorem encodeText_unmarked {s : String} : ∀ b ∈ Utf8.encode (encodeText s), b ≠ 38 ∧ b ≠ 61 := by
  intro b hb
  rw [encode_encodeText] at hb
  obtain ⟨c, _, hb⟩ := List.mem_flatMap.mp hb
  exact (written c).unmarked b hb

theorem decodeText_encodeText (s : String) :
    decodeText (Utf8.encode (encodeText s)) = Utf8.encode s := by
  rw [encode_encodeText, Utf8.encode]
  induction s.toList with
  | nil => rfl
  | cons c cs ih => rw [List.flatMap_cons, (written c).read, ih, List.flatMap_cons]

/-! ## Fields -/

theorem encode_append (s t : String) : Utf8.encode (s ++ t) = Utf8.encode s ++ Utf8.encode t := by
  simp [Utf8.encode]

theorem encode_encodeField (field : String × String) : Utf8.encode (encodeField field) =
    Utf8.encode (encodeText field.1) ++ 61 :: Utf8.encode (encodeText field.2) := by
  have mark : Utf8.encode "=" = [61] := rfl
  rw [encodeField, encode_append, encode_append, mark, List.append_assoc, List.singleton_append]

theorem ampersand_not_mem_encodeField (field : String × String) :
    38 ∉ Utf8.encode (encodeField field) := by
  rw [encode_encodeField]
  intro there
  rcases List.mem_append.mp there with there | there
  · exact (encodeText_unmarked _ there).1 rfl
  rcases List.mem_cons.mp there with there | there
  · exact absurd there (by decide)
  · exact (encodeText_unmarked _ there).1 rfl

theorem encode_intercalate (parts : List String) :
    Utf8.encode ("&".intercalate parts) = [38].intercalate (parts.map Utf8.encode) := by
  have mark : Utf8.encode "&" = [38] := rfl
  cases parts with
  | nil => rfl
  | cons part parts =>
    induction parts generalizing part with
    | nil => simp
    | cons next parts ih =>
      rw [String.intercalate_cons_cons, encode_append, encode_append, mark, ih, List.map_cons,
        List.map_cons, List.map_cons, List.intercalate_cons_cons]

/-- A field is cut at the equals sign between its name and its value. -/
theorem cut_encodeField (f : String × String) :
    (decodeText ((Utf8.encode (encodeField f)).takeWhile (· ≠ 61)),
      decodeText (((Utf8.encode (encodeField f)).dropWhile (· ≠ 61)).drop 1)) =
      (Utf8.encode f.1, Utf8.encode f.2) := by
  have front : ∀ b ∈ Utf8.encode (encodeText f.1), decide (b ≠ 61) = true := fun b hb =>
    decide_eq_true (encodeText_unmarked b hb).2
  rw [encode_encodeField, List.takeWhile_append_of_pos front, List.dropWhile_append_of_pos front]
  simp [decodeText_encodeText]

/-- The fields that were written are read back. -/
theorem decode_encode (fields : List (String × String)) :
    decode (Utf8.encode (encode fields)) =
      fields.map fun f => (Utf8.encode f.1, Utf8.encode f.2) := by
  cases fields with
  | nil => rfl
  | cons field fields =>
    have apart : ∀ part ∈ ((field :: fields).map encodeField).map Utf8.encode, 38 ∉ part := by
      simp only [List.map_map, List.mem_map, Function.comp_apply]
      rintro _ ⟨f, _, rfl⟩
      exact ampersand_not_mem_encodeField f
    have filled : ∀ part ∈ ((field :: fields).map encodeField).map Utf8.encode,
        decide (part ≠ []) = true := by
      simp only [List.map_map, List.mem_map, Function.comp_apply]
      rintro _ ⟨f, _, rfl⟩
      simp [encode_encodeField]
    rw [decode, encode, encode_intercalate, List.splitOn_intercalate 38 apart (by simp),
      List.filter_eq_self.mpr filled, List.map_map, List.map_map]
    exact List.map_congr_left fun f _ => cut_encodeField f

end Tenancy.Form
