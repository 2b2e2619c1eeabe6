import Mathlib.Algebra.BigOperators.Group.List.Basic
import Tenancy.Uuid

/-!
# UUIDs as text

The canonical text of a UUID is made of digits and hyphens, and it is read as the UUID again. That it
is neither in braces nor behind a label can be seen from its first character; its hyphens stand
exactly between the groups.
-/

namespace Tenancy.Uuid

/-! ## Digits -/

theorem hexValue_hexDigit : ∀ n < 16, Json.hexValue? (some (Json.hexDigit n)) = some n := by decide

/-- A lower-case hexadecimal digit. -/
def IsDigit (c : Char) : Prop := ∃ n < 16, c = Json.hexDigit n

theorem IsDigit.plain {c : Char} (h : IsDigit c) :
    c ≠ '-' ∧ c.toNat ≠ 0x7B ∧ c.toLower ≠ 'u' ∧ 32 ≤ c.toNat ∧ c.toNat ≠ 127 := by
  have each : ∀ n < 16, Json.hexDigit n ≠ '-' ∧ (Json.hexDigit n).toNat ≠ 0x7B ∧
      (Json.hexDigit n).toLower ≠ 'u' ∧ 32 ≤ (Json.hexDigit n).toNat ∧
      (Json.hexDigit n).toNat ≠ 127 := by decide
  obtain ⟨n, below, rfl⟩ := h
  exact each n below

theorem length_hexDigits (n count : Nat) : (hexDigits n count).length = count := by
  induction count generalizing n with
  | zero => rfl
  | succ count ih => simp [hexDigits, ih]

theorem hexDigits_digits (n count : Nat) : ∀ c ∈ hexDigits n count, IsDigit c := by
  induction count generalizing n with
  | zero => simp [hexDigits]
  | succ count ih =>
    intro c hc
    rcases List.mem_append.mp hc with hc | hc
    · exact ih _ c hc
    · exact ⟨n % 16, Nat.mod_lt n (by decide), List.mem_singleton.mp hc⟩

theorem valueOf_hexDigits (n count : Nat) (h : n < 16 ^ count) :
    valueOf (hexDigits n count) = some n := by
  induction count generalizing n with
  | zero =>
    have nothing : n = 0 := by simpa using h
    simp [hexDigits, valueOf, nothing]
  | succ count ih =>
    have upper : n / 16 < 16 ^ count := by
      rw [Nat.div_lt_iff_lt_mul (by decide)]
      simpa [Nat.pow_succ] using h
    have value := ih (n / 16) upper
    unfold valueOf at value ⊢
    have lowest := hexValue_hexDigit (n % 16) (Nat.mod_lt n (by decide))
    rw [hexDigits, List.foldlM_append, value]
    simp [lowest, Nat.div_add_mod']

/-! ## Groups -/

theorem flatten_cut {α : Type} (sizes : List Nat) (xs : List α) (h : xs.length = sizes.foldr (· + ·) 0) :
    (cut sizes xs).flatten = xs := by
  induction sizes generalizing xs with
  | nil => simp [cut, List.eq_nil_of_length_eq_zero h]
  | cons size sizes ih =>
    have rest : (xs.drop size).length = sizes.foldr (· + ·) 0 := by
      rw [List.length_drop, h]
      simp
    rw [cut, List.flatten_cons, ih _ rest, List.take_append_drop]

theorem length_cut {α : Type} (sizes : List Nat) (xs : List α) (h : xs.length = sizes.foldr (· + ·) 0) :
    (cut sizes xs).map List.length = sizes := by
  induction sizes generalizing xs with
  | nil => rfl
  | cons size sizes ih =>
    have rest : (xs.drop size).length = sizes.foldr (· + ·) 0 := by
      rw [List.length_drop, h]
      simp
    have first : (xs.take size).length = size := by
      rw [List.length_take, h]
      simp
    rw [cut, List.map_cons, first, ih _ rest]

/-- The groups of digits of a UUID. -/
def groups (u : Uuid) : List (List Char) := cut groupSizes (hexDigits u.bits.toNat 32)

variable (u : Uuid)

theorem groups_flatten : u.groups.flatten = hexDigits u.bits.toNat 32 :=
  flatten_cut _ _ (length_hexDigits _ 32)

theorem groups_length : u.groups.map List.length = groupSizes :=
  length_cut _ _ (length_hexDigits _ 32)

theorem groups_digits : ∀ g ∈ u.groups, ∀ c ∈ g, IsDigit c := by
  intro g hg c hc
  refine hexDigits_digits u.bits.toNat 32 c ?_
  rw [← groups_flatten]
  exact List.mem_flatten.mpr ⟨g, hg, hc⟩

theorem text_toList : u.text.toList = List.intercalate ['-'] u.groups := String.toList_ofList

/-- The text is five groups with hyphens between them. -/
theorem text_groups : ∃ a b c d e, u.groups = [a, b, c, d, e] ∧
    u.text.toList = a ++ '-' :: (b ++ '-' :: (c ++ '-' :: (d ++ '-' :: e))) := by
  refine ⟨_, _, _, _, _, rfl, ?_⟩
  rw [text_toList]
  simp [groups, groupSizes, cut, List.intercalate]

theorem text_chars : ∀ c ∈ u.text.toList, IsDigit c ∨ c = '-' := by
  obtain ⟨a, b, c, d, e, parts, text⟩ := u.text_groups
  have digits := u.groups_digits
  rw [parts] at digits
  intro x hx
  rw [text] at hx
  simp only [List.mem_append, List.mem_cons] at hx
  rcases hx with hx | rfl | hx | rfl | hx | rfl | hx | rfl | hx
  · exact .inl (digits a (by simp) x hx)
  · exact .inr rfl
  · exact .inl (digits b (by simp) x hx)
  · exact .inr rfl
  · exact .inl (digits c (by simp) x hx)
  · exact .inr rfl
  · exact .inl (digits d (by simp) x hx)
  · exact .inr rfl
  · exact .inl (digits e (by simp) x hx)

theorem text_length : u.text.toList.length = 36 := by
  obtain ⟨a, b, c, d, e, parts, text⟩ := u.text_groups
  have lengths := u.groups_length
  rw [parts] at lengths
  simp only [List.map_cons, List.map_nil, groupSizes, List.cons.injEq, and_true] at lengths
  rw [text]
  simp only [List.length_append, List.length_cons]
  omega

theorem ofDigits_digits : ofDigits? (hexDigits u.bits.toNat 32) = some u := by
  have below : u.bits.toNat < 16 ^ 32 := u.bits.isLt
  rw [ofDigits?, if_pos (length_hexDigits _ 32), valueOf_hexDigits _ _ below]
  simp

theorem ofGroups_text : ofGroups? u.text.toList = some u := by
  have apart : u.text.toList.splitOn '-' = u.groups := by
    rw [text_toList]
    refine List.splitOn_intercalate '-' (fun g hg hyphen => ?_) (by simp [groups, groupSizes, cut])
    exact (u.groups_digits g hg '-' hyphen).plain.1 rfl
  rw [ofGroups?]
  simp only [apart, groups_length, if_pos, groups_flatten, ofDigits_digits]

/-- Neither a brace nor the label begins the text. -/
theorem unwrap_text : unwrap u.text.toList = (0, u.text.toList, true) := by
  obtain ⟨a, b, c, d, e, parts, text⟩ := u.text_groups
  have lengths := u.groups_length
  have digits := u.groups_digits a (by simp [parts])
  rw [parts] at lengths
  cases a with
  | nil => simp [groupSizes] at lengths
  | cons x a =>
    have plain := (digits x List.mem_cons_self).plain
    -- The label need not be compared any further than its first letter, which is no digit.
    rw [text]
    simp [unwrap, label, plain.2.1, Ne.symm plain.2.2.1]

/-- The canonical text of a UUID is read as that UUID. -/
theorem parse_text : parse u.text = .ok u := by
  have long : ¬ u.text.toList.length = 32 := by
    rw [text_length]
    decide
  simp only [parse, unwrap_text, long, decide_false, Bool.and_false, Bool.false_eq_true, if_false,
    ofGroups_text]

end Tenancy.Uuid
