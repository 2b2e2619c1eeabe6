import Tenancy.Url.Extend

/-!
# What a segment becomes in a path

A segment that is added to a path is escaped, and decoding gives its bytes back. That is all there is
to it for most segments. The ones that cannot be written are left out; tabs and line ends are dropped
from every other one; and what they leave of a segment of dots is followed as in any path.
-/

namespace Tenancy

namespace Percent

/-! ## Decoding what was escaped -/

theorem value_digit : ∀ n < 16, value? (Char.ofNat (UInt8.ofNat (digit n).toNat).toNat) = some n := by
  decide

theorem utf8EncodeChar_ascii {c : Char} (h : c.toNat < 128) :
    String.utf8EncodeChar c = [UInt8.ofNat c.toNat] := by
  have small : c.val.toNat ≤ 127 := Nat.le_of_lt_succ h
  unfold String.utf8EncodeChar
  exact if_pos small

theorem between_of_range {c : Char} {low high : UInt32}
    (h : (decide (low ≤ c.val) && decide (c.val ≤ high)) = true) :
    low.toNat ≤ c.toNat ∧ c.toNat ≤ high.toNat := by
  obtain ⟨least, most⟩ := Bool.and_eq_true_iff.mp h
  exact ⟨UInt32.le_iff_toNat_le.mp (of_decide_eq_true least),
    UInt32.le_iff_toNat_le.mp (of_decide_eq_true most)⟩

theorem digit_ascii : ∀ n < 16, (digit n).toNat < 128 := by decide

theorem pair_digits (b : UInt8) :
    pair? (UInt8.ofNat (digit (b.toNat / 16)).toNat) (UInt8.ofNat (digit (b.toNat % 16)).toNat) =
      some b := by
  have below := b.toNat_lt
  have whole : b.toNat / 16 * 16 + b.toNat % 16 = b.toNat := Nat.div_add_mod' _ _
  simp only [pair?, value_digit (b.toNat / 16) (by omega), value_digit (b.toNat % 16) (by omega),
    whole]
  simp

theorem decode_escape (b : UInt8) (rest : Bytes) :
    decode ((escape b).flatMap String.utf8EncodeChar ++ rest) = b :: decode rest := by
  have below := b.toNat_lt
  have sign : String.utf8EncodeChar '%' = [37] := rfl
  simp only [escape, List.flatMap_cons, List.flatMap_nil, sign,
    utf8EncodeChar_ascii (digit_ascii (b.toNat / 16) (by omega)),
    utf8EncodeChar_ascii (digit_ascii (b.toNat % 16) (by omega)), List.cons_append, List.nil_append]
  rw [decode]
  simp only [if_pos, pair_digits]

theorem decode_escapes (bs rest : Bytes) :
    decode ((bs.flatMap escape).flatMap String.utf8EncodeChar ++ rest) = bs ++ decode rest := by
  induction bs with
  | nil => rfl
  | cons b bs ih =>
    rw [List.flatMap_cons, List.flatMap_append, List.append_assoc, decode_escape, ih]
    rfl

theorem decode_other {b : UInt8} (h : b ≠ 37) (rest : Bytes) :
    decode (b :: rest) = b :: decode rest := by
  rw [decode.eq_def (b :: rest)]
  simp only [if_neg h]

theorem decode_ascii {c : Char} (h : c.toNat < 128) (other : c ≠ '%') (rest : Bytes) :
    decode (String.utf8EncodeChar c ++ rest) = String.utf8EncodeChar c ++ decode rest := by
  have unlike : UInt8.ofNat c.toNat ≠ 37 := by
    intro same
    have value := congrArg UInt8.toNat same
    rw [UInt8.toNat_ofNat_of_lt' (Nat.lt_trans h (by decide))] at value
    exact other (Char.toNat_inj.mp value)
  rw [utf8EncodeChar_ascii h, List.singleton_append, decode_other unlike, List.singleton_append]

/-- Decoding undoes every encoding that escapes percent signs. -/
theorem decode_encodeChars {reserved : Char → Bool} (sign : reserved '%' = true) (cs : List Char) :
    decode ((encodeChars reserved cs).flatMap String.utf8EncodeChar) =
      cs.flatMap String.utf8EncodeChar := by
  induction cs with
  | nil => rfl
  | cons c cs ih =>
    have split : encodeChars reserved (c :: cs) =
        (if c.toNat ≥ 0x80 || reserved c then escapeChar c else [c]) ++ encodeChars reserved cs := rfl
    rw [split, List.flatMap_append, List.flatMap_cons, ← ih]
    by_cases escaped : (c.toNat ≥ 0x80 || reserved c) = true
    · rw [if_pos escaped]
      exact decode_escapes _ _
    · rw [if_neg escaped, List.flatMap_singleton]
      simp only [Bool.or_eq_true, decide_eq_true_eq, not_or] at escaped
      refine decode_ascii (by omega) ?_ _
      rintro rfl
      exact escaped.2 sign

end Percent

theorem Utf8.encode_inj {s t : String} : Utf8.encode s = Utf8.encode t ↔ s = t := by
  refine ⟨fun same => ?_, fun same => by rw [same]⟩
  have bytes : s.toList.utf8Encode = t.toList.utf8Encode := congrArg List.toByteArray same
  rw [← String.ofList_toList (s := s), ← String.ofList_toList (s := t)]
  exact String.toByteArray_inj.mp bytes

/-- A text in ASCII is read from its bytes. -/
theorem Utf8.decode?_ascii {s : String} (ascii : ∀ c ∈ s.toList, c.toNat < 128) :
    Utf8.decode? (Utf8.encode s) = some s := by
  have glyphs : ∀ cs : List Char, (∀ c ∈ cs, c.toNat < 128) →
      Utf8.glyphsFrom none (cs.flatMap String.utf8EncodeChar) = cs.map some := by
    intro cs ascii
    induction cs with
    | nil => rfl
    | cons c cs ih =>
      have small := ascii c List.mem_cons_self
      have value : (UInt8.ofNat c.toNat).toNat = c.toNat :=
        UInt8.toNat_ofNat_of_lt' (Nat.lt_trans small (by decide))
      rw [List.flatMap_cons, Percent.utf8EncodeChar_ascii small, List.singleton_append,
        Utf8.glyphsFrom]
      simp only [Utf8.step, Utf8.begin, value, if_pos small, Char.ofNat_toNat]
      rw [ih fun c hc => ascii c (List.mem_cons_of_mem _ hc)]
      rfl
  have whole : ∀ cs : List Char, (cs.map some).mapM id = some cs := by
    intro cs
    induction cs with
    | nil => rfl
    | cons c cs ih => simp [ih]
  rw [Utf8.decode?, Utf8.glyphs, Utf8.encode, glyphs _ ascii, whole, Option.map_some,
    String.ofList_toList]

namespace Url

variable {scheme : String} {parts : List String} {name : String}

/-! ## Segments of dots -/

/-- What is left of a segment without tabs and line ends. -/
def kept (segment : String) : String := String.ofList (segment.toList.filter fun c => !isIgnored c)

/-- A segment as it is written. -/
def written (scheme segment : String) : List Char :=
  Percent.encodeChars (inSegmentSet (isSpecial scheme)) (segment.toList.filter fun c => !isIgnored c)

theorem decode_written (scheme segment : String) :
    Percent.decode ((written scheme segment).flatMap String.utf8EncodeChar) =
      Utf8.encode (kept segment) := by
  have sign : inSegmentSet (isSpecial scheme) '%' = true := by
    simp [inSegmentSet]
  rw [written, Percent.decode_encodeChars sign, Utf8.encode, kept, String.toList_ofList]

theorem kept_of_plain (h : ∀ c ∈ name.toList, c ≠ '\t' ∧ c ≠ '\n' ∧ c ≠ '\r') :
    kept name = name := by
  have all : ∀ c ∈ name.toList, (!isIgnored c) = true := fun c hc => by simp [isIgnored, h c hc]
  rw [kept, List.filter_eq_self.mpr all, String.ofList_toList]

theorem of_toLower {c d : Char} (h : c.toLower = d) : c = d ∨ c = d.toUpper := by
  unfold Char.toLower at h
  split at h
  · next upper =>
    obtain ⟨least, greatest⟩ := upper
    refine .inr (Char.ext ?_)
    subst h
    simp only [UInt32.le_iff_toNat_le, Char.reduceVal, ge_iff_le, UInt32.reduceToNat]
      at least greatest
    have lower : 'a'.val ≤ c.val + ('a'.val - 'A'.val) ∧ c.val + ('a'.val - 'A'.val) ≤ 'z'.val := by
      simp only [UInt32.le_iff_toNat_le, Char.reduceVal, UInt32.reduceSub, UInt32.toNat_add,
        UInt32.reduceToNat]
      omega
    unfold Char.toUpper
    rw [dif_pos lower]
    simp only [UInt32.add_assoc]
    exact (UInt32.add_zero _).symm
  · exact .inl h

/-- The texts that are the same in lower case. -/
def spellings : List Char → List (List Char)
  | [] => [[]]
  | c :: rest => (spellings rest).flatMap fun more => [c :: more, c.toUpper :: more]

theorem mem_spellings {text lower : List Char} (h : text.map Char.toLower = lower) :
    text ∈ spellings lower := by
  induction text generalizing lower with
  | nil =>
    subst h
    exact List.mem_singleton.mpr rfl
  | cons c rest ih =>
    subst h
    refine List.mem_flatMap.mpr ⟨rest, ih rfl, ?_⟩
    rcases of_toLower (c := c) rfl with same | upper
    · exact List.mem_cons.mpr (.inl (by rw [← same]))
    · exact List.mem_cons.mpr (.inr (List.mem_singleton.mpr (by rw [← upper])))

/-- Escaped or not, a segment that means a dot decodes to one. -/
theorem decode_isDot {text : List Char} (h : isDot text = true) :
    Percent.decode (text.flatMap String.utf8EncodeChar) = Utf8.encode "." := by
  have escaped : ∀ t ∈ spellings ['%', '2', 'e'],
      Percent.decode (t.flatMap String.utf8EncodeChar) = Utf8.encode "." := by decide
  simp only [isDot, Bool.or_eq_true, decide_eq_true_eq] at h
  rcases h with rfl | h
  · decide
  · exact escaped text (mem_spellings h)

theorem decode_isDoubleDot {text : List Char} (h : isDoubleDot text = true) :
    Percent.decode (text.flatMap String.utf8EncodeChar) = Utf8.encode ".." := by
  have written : ∀ lower ∈ [['.', '.'], ['.', '%', '2', 'e'], ['%', '2', 'e', '.'],
      ['%', '2', 'e', '%', '2', 'e']], ∀ t ∈ spellings lower,
      Percent.decode (t.flatMap String.utf8EncodeChar) = Utf8.encode ".." := by decide
  exact written _ (List.contains_iff_mem.mp h) text (mem_spellings rfl)

theorem filter_of_kept {text : String} (h : kept name = text) :
    (name.toList.filter fun c => !isIgnored c) = text.toList := by
  rw [← h, kept, String.toList_ofList]

theorem plain_of_kept (h : kept name = name) :
    ∀ c ∈ name.toList, c ≠ '\t' ∧ c ≠ '\n' ∧ c ≠ '\r' := by
  intro c hc
  rw [← filter_of_kept h] at hc
  simpa [isIgnored, and_assoc] using (List.mem_filter.mp hc).2

/-- Percent signs are escaped and dots are not, so a segment stands for a dot only if it is given as
one. -/
theorem isDot_written : isDot (written scheme name) = true ↔ kept name = "." := by
  constructor
  · intro dot
    rw [← Utf8.encode_inj, ← decode_written scheme name]
    exact decode_isDot dot
  · intro same
    rw [written, filter_of_kept same]
    cases isSpecial scheme <;> decide

theorem isDoubleDot_written : isDoubleDot (written scheme name) = true ↔ kept name = ".." := by
  constructor
  · intro dots
    rw [← Utf8.encode_inj, ← decode_written scheme name]
    exact decode_isDoubleDot dots
  · intro same
    rw [written, filter_of_kept same]
    cases isSpecial scheme <;> decide

/-! ## The end of a path -/

/-- A path without the empty segment that alone makes a bare slash. -/
def unslashed (parts : List String) : List String := if parts = [""] then [] else parts

theorem push_eq (scheme : String) (parts : List String) (name : String) :
    push scheme parts name =
      if isDoubleDot (written scheme name) then
        (above (scheme = "file") (parts.map String.toList)).map String.ofList ++ [""]
      else unslashed parts ++
        [if isDot (written scheme name) then "" else String.ofList (written scheme name)] := by
  unfold push unslashed
  by_cases slash : parts = [""]
  · simp only [if_pos slash]; rfl
  · simp only [if_neg slash]; rfl

theorem push_written (notUp : kept name ≠ "..") (notHere : kept name ≠ ".") :
    push scheme parts name = unslashed parts ++ [String.ofList (written scheme name)] := by
  rw [push_eq, if_neg (mt isDoubleDot_written.mp notUp), if_neg (mt isDot_written.mp notHere)]

theorem push_dot (here : kept name = ".") : push scheme parts name = unslashed parts ++ [""] := by
  have notUp : kept name ≠ ".." := by
    rw [here]
    decide
  rw [push_eq, if_neg (mt isDoubleDot_written.mp notUp), if_pos (isDot_written.mpr here)]

/-- Two dots take the last segment away, unless it is a drive. -/
theorem push_dots (up : kept name = "..") {last : String} (drive : isDrive last.toList = false) :
    push scheme (parts ++ [last]) name = parts ++ [""] := by
  have climbs : above (scheme = "file") ((parts ++ [last]).map String.toList) =
      parts.map String.toList := by
    simp [above, drive]
  rw [push_eq, if_pos (isDoubleDot_written.mpr up), climbs]
  simp [List.map_map]

/-! ## Segments that go down -/

/-- A segment that neither stays where it is nor climbs. -/
def Steady (segment : String) : Prop := kept segment ≠ "." ∧ kept segment ≠ ".."

theorem Steady.push (h : Steady name) :
    push scheme parts name = unslashed parts ++ [String.ofList (written scheme name)] :=
  push_written h.2 h.1

theorem Steady.writable (h : Steady name) : isUnwritable name = false := by
  have dots : name ≠ "." ∧ name ≠ ".." :=
    ⟨by rintro rfl; exact h.1 (by decide), by rintro rfl; exact h.2 (by decide)⟩
  simp [isUnwritable, dots]

theorem written_ne_blank (h : kept name ≠ "") : String.ofList (written scheme name) ≠ "" := by
  intro blank
  have nothing := decode_written scheme name
  rw [String.ofList_eq_empty_iff.mp blank] at nothing
  exact h (Utf8.encode_inj.mp nothing.symm)

/-- Behind a path that is more than a bare slash, a segment never takes the place of another. -/
theorem foldl_push_behind {segments : List String} (more : parts ≠ []) (noSlash : parts ≠ [""])
    (h : ∀ s ∈ segments, Steady s) :
    segments.foldl (push scheme) parts =
      parts ++ segments.map fun s => String.ofList (written scheme s) := by
  induction segments generalizing parts with
  | nil => simp
  | cons s rest ih =>
    have longer : parts ++ [String.ofList (written scheme s)] ≠ [""] := by
      cases parts with
      | nil => contradiction
      | cons part parts => simp
    rw [List.foldl_cons, (h s List.mem_cons_self).push, unslashed, if_neg noSlash,
      ih (by simp) longer fun s hs => h s (List.mem_cons_of_mem _ hs), List.append_assoc]
    rfl

theorem foldl_push {segments : List String} (begun : kept name ≠ "")
    (h : ∀ s ∈ name :: segments, Steady s) :
    (name :: segments).foldl (push scheme) parts =
      unslashed parts ++ (name :: segments).map fun s => String.ofList (written scheme s) := by
  have noSlash : unslashed parts ++ [String.ofList (written scheme name)] ≠ [""] := by
    have whole : String.ofList (written scheme name) ≠ "" := written_ne_blank begun
    cases unslashed parts with
    | nil => simpa using whole
    | cons part parts => simp
  rw [List.foldl_cons, (h name List.mem_cons_self).push,
    foldl_push_behind (by simp) noSlash fun s hs => h s (List.mem_cons_of_mem _ hs),
    List.append_assoc]
  rfl

/-- Segments that go down are added one after the other, if the first of them is not blank. -/
theorem join_steady {base : Url} {segments : List String} (path : base.path = .segments parts)
    (begun : kept name ≠ "") (h : ∀ s ∈ name :: segments, Steady s) :
    base.join? (name :: segments) = some { base with path := .segments (unslashed (popIfEmpty parts) ++
      (name :: segments).map fun s => String.ofList (written base.scheme s)) } := by
  have all : ((name :: segments).filter fun s => !isUnwritable s) = name :: segments :=
    List.filter_eq_self.mpr fun s hs => by simp [(h s hs).writable]
  simp only [join?, path, all, foldl_push begun h]

end Url

end Tenancy
