import Mathlib.Computability.RegularExpressions
import Tenancy.Proofs.Url.Joining
import Tenancy.RealmName

/-!
# Names that realms may have

The names are those that a regular expression matches from end to end: a letter and up to 62 letters,
digits, underscores and hyphens. They are in ASCII, so it makes no difference that the length is taken
in bytes.
-/

namespace Tenancy.RealmName

open RegularExpression

/-- One of some characters. -/
def oneOf (cs : List Char) : RegularExpression Char := cs.foldr (fun c r => char c + r) 0

/-- As many matches as the number, or fewer. -/
def atMost (r : RegularExpression Char) : Nat → RegularExpression Char
  | 0 => 1
  | n + 1 => 1 + r * atMost r n

/-- The letters of the alphabet in lower case. -/
def letters : List Char := "abcdefghijklmnopqrstuvwxyz".toList

/-- A letter, and up to 62 letters, digits, underscores and hyphens. -/
def pattern : RegularExpression Char :=
  oneOf letters * atMost (oneOf (letters ++ "0123456789_-".toList)) 62

variable {cs text : List Char} {c : Char} {n : Nat} {name : String}

/-! ## What the pattern matches -/

theorem mem_oneOf : text ∈ (oneOf cs).matches' ↔ ∃ c ∈ cs, text = [c] := by
  induction cs with
  | nil => simp [oneOf]
  | cons c cs ih =>
    have first : oneOf (c :: cs) = char c + oneOf cs := rfl
    have single : text ∈ (char c).matches' ↔ text = [c] := Iff.rfl
    rw [first, matches'_add, Language.mem_add, single, ih]
    simp

theorem mem_atMost :
    text ∈ (atMost (oneOf cs) n).matches' ↔ text.length ≤ n ∧ ∀ c ∈ text, c ∈ cs := by
  induction n generalizing text with
  | zero =>
    rw [atMost, matches'_epsilon, Language.mem_one, Nat.le_zero, List.length_eq_zero_iff]
    exact ⟨fun blank => ⟨blank, by simp [blank]⟩, And.left⟩
  | succ n ih =>
    rw [atMost, matches'_add, matches'_epsilon, matches'_mul, Language.mem_add, Language.mem_one,
      Language.mem_mul]
    simp only [mem_oneOf, ih]
    cases text with
    | nil => simp
    | cons c rest =>
      simp only [List.length_cons, Nat.add_le_add_iff_right, List.forall_mem_cons, reduceCtorEq,
        false_or]
      constructor
      · rintro ⟨_, ⟨d, there, rfl⟩, _, ⟨short, chars⟩, same⟩
        obtain ⟨rfl, rfl⟩ := List.cons.inj same
        exact ⟨short, there, chars⟩
      · rintro ⟨short, there, chars⟩
        exact ⟨[c], ⟨c, there, rfl⟩, rest, ⟨short, chars⟩, rfl⟩

theorem mem_pattern :
    text ∈ pattern.matches' ↔ ∃ c rest, text = c :: rest ∧ c ∈ letters ∧ rest.length ≤ 62 ∧
      ∀ d ∈ rest, d ∈ letters ++ "0123456789_-".toList := by
  rw [pattern, matches'_mul, Language.mem_mul]
  simp only [mem_oneOf, mem_atMost]
  constructor
  · rintro ⟨_, ⟨c, first, rfl⟩, rest, ⟨short, chars⟩, rfl⟩
    exact ⟨c, rest, rfl, first, short, chars⟩
  · rintro ⟨c, rest, rfl, first, short, chars⟩
    exact ⟨[c], ⟨c, first, rfl⟩, rest, ⟨short, chars⟩, rfl⟩

/-! ## What the check looks at -/

theorem isHead_iff : isHead c = true ↔ c ∈ letters := by
  constructor
  · intro lower
    have range : 97 ≤ c.toNat ∧ c.toNat ≤ 122 := Percent.between_of_range lower
    have named : ∀ n < 123, 97 ≤ n → Char.ofNat n ∈ letters := by decide
    rw [← Char.ofNat_toNat (c := c)]
    exact named c.toNat (by omega) range.1
  · have lower : letters.all isHead = true := by decide
    exact List.all_eq_true.mp lower c

theorem isTail_iff : isTail c = true ↔ c ∈ letters ++ "0123456789_-".toList := by
  constructor
  · intro tail
    simp only [isTail, Bool.or_eq_true, beq_iff_eq] at tail
    rcases tail with ((lower | digit) | rfl) | rfl
    · exact List.mem_append_left _ (isHead_iff.mp lower)
    · have range : 48 ≤ c.toNat ∧ c.toNat ≤ 57 := Percent.between_of_range digit
      have named : ∀ n < 58, 48 ≤ n → Char.ofNat n ∈ "0123456789_-".toList := by decide
      rw [← Char.ofNat_toNat (c := c)]
      exact List.mem_append_right _ (named c.toNat (by omega) range.1)
    · decide
    · decide
  · have tail : (letters ++ "0123456789_-".toList).all isTail = true := by decide
    exact List.all_eq_true.mp tail c

/-- The characters that names are made of have nothing special about them. -/
theorem isTail_plain (h : isTail c = true) :
    c ≠ '\t' ∧ c ≠ '\n' ∧ c ≠ '\r' ∧ c ≠ '.' ∧ c.toNat < 128 := by
  have plain : ((letters ++ "0123456789_-".toList).all fun c =>
      decide (c ≠ '\t' ∧ c ≠ '\n' ∧ c ≠ '\r' ∧ c ≠ '.' ∧ c.toNat < 128)) = true := by decide
  exact of_decide_eq_true (List.all_eq_true.mp plain c (isTail_iff.mp h))

theorem isTail_of_isHead (h : isHead c = true) : isTail c = true :=
  isTail_iff.mpr (List.mem_append_left _ (isHead_iff.mp h))

/-- Each of these characters takes one byte, so the bytes are as many as the characters. -/
theorem size_of_tails (h : ∀ c ∈ name.toList, isTail c = true) :
    name.utf8ByteSize = name.toList.length := by
  have ones : ∀ c ∈ name.toList, (String.utf8EncodeChar c).length = 1 := fun c hc => by
    rw [Percent.utf8EncodeChar_ascii (isTail_plain (h c hc)).2.2.2.2, List.length_singleton]
  have bytes : (String.ofList name.toList).toByteArray =
      (name.toList.flatMap String.utf8EncodeChar).toByteArray := rfl
  rw [String.ofList_toList] at bytes
  rw [← String.size_toByteArray, bytes, List.size_toByteArray, List.length_flatMap,
    List.map_congr_left ones]
  simp

theorem isValid_chars (h : isValid name = true) :
    name.toList ≠ [] ∧ ∀ c ∈ name.toList, isTail c = true := by
  unfold isValid at h
  split at h
  · cases h
  · next c rest chars =>
    simp only [Bool.and_eq_true, List.all_eq_true] at h
    rw [chars, List.forall_mem_cons]
    exact ⟨List.cons_ne_nil c rest, isTail_of_isHead h.1.2, h.2⟩

theorem isValid_iff_chars : isValid name = true ↔ ∃ c rest, name.toList = c :: rest ∧
    isHead c = true ∧ rest.length ≤ 62 ∧ ∀ d ∈ rest, isTail d = true := by
  have sized (h : ∀ c ∈ name.toList, isTail c = true) {c : Char} {rest : List Char}
      (chars : name.toList = c :: rest) : name.utf8ByteSize ≤ maxSize ↔ rest.length ≤ 62 := by
    rw [size_of_tails h, chars, List.length_cons, maxSize]
    omega
  constructor
  · intro valid
    have tails := (isValid_chars valid).2
    unfold isValid at valid
    split at valid
    · cases valid
    · next c rest chars =>
      simp only [Bool.and_eq_true, decide_eq_true_eq, List.all_eq_true] at valid
      exact ⟨c, rest, chars, valid.1.2, (sized tails chars).mp valid.1.1, valid.2⟩
  · rintro ⟨c, rest, chars, first, short, tails⟩
    have all : ∀ c ∈ name.toList, isTail c = true := by
      rw [chars, List.forall_mem_cons]
      exact ⟨isTail_of_isHead first, tails⟩
    have small := (sized all chars).mpr short
    simp only [isValid, chars, small, first, List.all_eq_true.mpr tails, decide_true, Bool.and_true]

/-- The check accepts what the pattern matches. -/
theorem isValid_iff_matches : isValid name = true ↔ name.toList ∈ pattern.matches' := by
  simp only [isValid_iff_chars, mem_pattern, isHead_iff, isTail_iff]

/-- The end of a line does not go unnoticed. -/
example : "acme\n".toList ∉ pattern.matches' := fun matched =>
  absurd (isValid_iff_matches.mpr matched) (by decide)

theorem isValid_length (h : isValid name = true) :
    1 ≤ name.toList.length ∧ name.toList.length ≤ 63 := by
  obtain ⟨c, rest, chars, _, short, _⟩ := isValid_iff_chars.mp h
  rw [chars, List.length_cons]
  omega

end Tenancy.RealmName
