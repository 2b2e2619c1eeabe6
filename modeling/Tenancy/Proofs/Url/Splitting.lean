import Tenancy.Proofs.Service.Construction
import Tenancy.Proofs.Url.Joining

/-!
# Paths that split into what was joined

The path of a web address, cut at its slashes, gives the segments that were read from it, since none of
them holds a slash. Segments that are added to it are cut off again one by one, whatever they hold:
slashes in them are escaped, and decoding gives each of them back. So addresses that were built on the
same base from different segments differ as texts.
-/

namespace Tenancy

namespace Percent

/-- Escaping makes percent signs and digits; all else was there before and needed no escape. -/
theorem mem_encodeChars {reserved : Char → Bool} {cs : List Char} {c : Char}
    (h : c ∈ encodeChars reserved cs) :
    (c = '%' ∨ ∃ n < 16, c = digit n) ∨ c ∈ cs ∧ reserved c = false := by
  obtain ⟨d, hd, hc⟩ := List.mem_flatMap.mp h
  split at hc
  · obtain ⟨b, _, hc⟩ := List.mem_flatMap.mp hc
    have below := b.toNat_lt
    simp only [escape, List.mem_cons, List.not_mem_nil, or_false] at hc
    rcases hc with sign | high | low
    · exact .inl (.inl sign)
    · exact .inl (.inr ⟨b.toNat / 16, by omega, high⟩)
    · exact .inl (.inr ⟨b.toNat % 16, by omega, low⟩)
  · next plain =>
    obtain rfl := List.mem_singleton.mp hc
    exact .inr ⟨hd, by simp_all⟩

theorem slash_not_mem_encodeChars {reserved : Char → Bool} {cs : List Char}
    (h : '/' ∈ cs → reserved '/' = true) : '/' ∉ encodeChars reserved cs := by
  have digits : ∀ n < 16, '/' ≠ digit n := by decide
  intro slash
  rcases mem_encodeChars slash with (sign | ⟨n, small, same⟩) | ⟨there, free⟩
  · exact absurd sign (by decide)
  · exact digits n small same
  · rw [h there] at free
    cases free

end Percent

/-! ## Cutting a path -/

/-- A path, cut at its slashes. What stands before the first slash comes first. -/
def UrlPath.cut (p : UrlPath) : List String := (p.text.toList.splitOn '/').map String.ofList

theorem splitOn_slashes {first : List Char} {parts : List (List Char)} (h : '/' ∉ first)
    (each : ∀ p ∈ parts, '/' ∉ p) :
    (first ++ parts.flatMap ('/' :: ·)).splitOn '/' = first :: parts := by
  induction parts generalizing first with
  | nil => simpa using List.splitOn_eq_singleton h
  | cons p parts ih =>
    rw [List.flatMap_cons, List.cons_append, List.splitOn_append_cons_self_of_not_mem h,
      ih (each p List.mem_cons_self) fun q hq => each q (List.mem_cons_of_mem _ hq)]

theorem not_mem_splitOn {cs part : List Char} (h : part ∈ cs.splitOn '/') : '/' ∉ part := by
  induction cs generalizing part with
  | nil =>
    obtain rfl := List.mem_singleton.mp (List.splitOn_nil (a := '/') ▸ h)
    exact List.not_mem_nil
  | cons c cs ih =>
    rw [List.splitOn_cons_eq_if_modifyHead] at h
    split at h
    · rcases List.mem_cons.mp h with rfl | h
      · exact List.not_mem_nil
      · exact ih h
    · next other =>
      obtain ⟨first, rest, parts⟩ := List.exists_cons_of_ne_nil (List.splitOn_ne_nil '/' cs)
      rw [parts, List.modifyHead_cons] at h
      rw [parts] at ih
      rcases List.mem_cons.mp h with rfl | h
      · intro slash
        rcases List.mem_cons.mp slash with rfl | slash
        · exact other rfl
        · exact ih List.mem_cons_self slash
      · exact ih (List.mem_cons_of_mem _ h)

theorem cut_segments {parts : List String} (h : ∀ p ∈ parts, '/' ∉ p.toList) :
    (UrlPath.segments parts).cut = "" :: parts := by
  have text : (UrlPath.segments parts).text.toList =
      [] ++ (parts.map String.toList).flatMap ('/' :: ·) := by
    simp [UrlPath.text, String.toList_join, List.flatMap_map]
  have plain : ∀ p ∈ parts.map String.toList, '/' ∉ p := by simpa using h
  rw [UrlPath.cut, text, splitOn_slashes List.not_mem_nil plain]
  simp [List.map_map]

namespace Url

/-! ## The segments that are read -/

/-- Following dots drops segments and adds blank ones. -/
theorem mem_follow {done parts : List (List Char)} {s : List Char}
    (h : s ∈ follow false done parts) : s ∈ done ∨ s = [] ∨ s ∈ parts := by
  fun_induction follow false done parts with
  | case1 done => exact .inl h
  | case2 done part rest up ih =>
    rcases ih h with h | h | h
    · rcases List.mem_append.mp h with h | h
      · exact .inl ((List.dropLast_sublist done).mem h)
      · split at h
        · exact .inr (.inl (List.mem_singleton.mp h))
        · cases h
    · exact .inr (.inl h)
    · exact .inr (.inr (List.mem_cons_of_mem _ h))
  | case3 done part rest _ here ih =>
    rcases ih h with h | h | h
    · split at h
      · rcases List.mem_append.mp h with h | h
        · exact .inl h
        · exact .inr (.inl (List.mem_singleton.mp h))
      · exact .inl h
    · exact .inr (.inl h)
    · exact .inr (.inr (List.mem_cons_of_mem _ h))
  | case4 done part rest _ _ ih =>
    rcases ih h with h | h | h
    · rcases List.mem_append.mp h with h | h
      · exact .inl h
      · exact .inr (.inr (List.mem_cons.mpr (.inl (by simpa using h))))
    · exact .inr (.inl h)
    · exact .inr (.inr (List.mem_cons_of_mem _ h))

theorem follow_ne_nil {done parts : List (List Char)} (h : parts ≠ []) :
    follow false done parts ≠ [] := by
  cases parts with
  | nil => contradiction
  | cons part rest =>
    induction rest generalizing done part with
    | nil => 
      rw [follow]
      split
      · simp [follow]
      · split <;> simp [follow]
    | cons next rest ih =>
      rw [follow]
      split
      · exact ih _ (by simp)
      · split <;> exact ih _ (by simp)

theorem rootedPath_parts (cs : List Char) :
    ∃ parts, rootedPath true cs = .segments parts ∧ parts ≠ [] ∧ ∀ p ∈ parts, '/' ∉ p.toList := by
  cases cs with
  | nil => exact ⟨[""], rfl, by simp, by simp⟩
  | cons c rest =>
    refine ⟨_, rfl, ?_, ?_⟩
    · have more : follow false [] (splitSlashes true (if isSlash true c then rest else c :: rest)) ≠ [] :=
        follow_ne_nil (List.splitOn_ne_nil _ _)
      simpa using more
    · intro p hp
      obtain ⟨s, hs, rfl⟩ := List.mem_map.mp hp
      have plain : '/' ∉ s := by
        rcases mem_follow hs with h | rfl | h
        · cases h
        · exact List.not_mem_nil
        · exact not_mem_splitOn h
      rw [String.toList_ofList]
      exact Percent.slash_not_mem_encodeChars fun slash => absurd slash plain

variable {field raw scheme : String} {cs : List Char} {parts : List String} {base u : Url}

theorem readSpecial_path (h : readSpecial scheme cs = .ok u) :
    ∃ front, u.path = rootedPath true front := by
  simp only [readSpecial, bind, Except.bind] at h
  split at h
  · cases h
  · cases h
    exact ⟨_, rfl⟩

theorem readLocal_scheme (h : readLocal cs = .ok u) : u.scheme = "file" := by
  simp only [readLocal, bind, Except.bind] at h
  repeat' split at h
  all_goals (cases h <;> rfl)

theorem readOther_scheme (h : readOther scheme cs = .ok u) : u.scheme = scheme := by
  simp only [readOther, bind, Except.bind] at h
  repeat' split at h
  all_goals (cases h <;> rfl)

/-- The address of a page has a path of at least one segment, and no segment holds a slash. -/
theorem parse_parts (h : parse raw = .ok u) (web : u.scheme = "http" ∨ u.scheme = "https") :
    ∃ parts, u.path = .segments parts ∧ parts ≠ [] ∧ ∀ p ∈ parts, '/' ∉ p.toList := by
  unfold Url.parse at h
  split at h
  · cases h
  · next scheme rest _ =>
    split at h
    · simp [readLocal_scheme h] at web
    · split at h
      · obtain ⟨front, path⟩ := readSpecial_path h
        rw [path]
        exact rootedPath_parts front
      · next other =>
        rw [readOther_scheme h] at web
        rcases web with rfl | rfl <;> exact absurd rfl other

/-! ## Joining and splitting -/

/-- A path that was cut, without the empty segment behind a slash at its end. -/
def trimmed (parts : List String) : List String :=
  if parts.getLast? = some "" then parts.dropLast else parts

theorem trimmed_concat (front : List String) (last : String) :
    trimmed (front ++ [last]) = if last = "" then front else front ++ [last] := by
  simp [trimmed]

theorem popIfEmpty_concat (front : List String) (last : String) :
    popIfEmpty (front ++ [last]) = if last = "" ∧ front ≠ [] then front else front ++ [last] := by
  simp [popIfEmpty, and_comm, List.length_pos_iff]

theorem trimmed_cons (more : parts ≠ []) (filled : "" ∉ parts.dropLast) :
    trimmed ("" :: parts) = "" :: unslashed (popIfEmpty parts) := by
  obtain ⟨front, last, rfl⟩ := (List.eq_nil_or_concat parts).resolve_left more
  rw [List.concat_eq_append, List.dropLast_concat] at filled
  have noSlash : front ≠ [""] := by
    rintro rfl
    exact filled List.mem_cons_self
  rw [List.concat_eq_append, ← List.cons_append, trimmed_concat, popIfEmpty_concat]
  by_cases slash : last = ""
  · by_cases bare : front = []
    · simp [slash, bare, unslashed]
    · simp [slash, bare, unslashed, noSlash]
  · simp [slash, unslashed, List.append_eq_singleton_iff]

/-- Segments that arrive as they are given: the first is not empty, and none is a dot, two dots or cut
by a tab or the end of a line. -/
structure Lasting (segments : List String) : Prop where
  begun : ∃ first rest, segments = first :: rest ∧ first ≠ ""
  steady : ∀ s ∈ segments, s ≠ "." ∧ s ≠ ".."
  plain : ∀ s ∈ segments, ∀ c ∈ s.toList, c ≠ '\t' ∧ c ≠ '\n' ∧ c ≠ '\r'

/-- Addresses that differ in their paths alone differ as texts. -/
theorem text_with_path {p q : UrlPath}
    (same : { base with path := p }.text = { base with path := q }.text) : p.text = q.text := by
  have whole := congrArg String.toList same
  simp only [text, request, authority, String.toList_append, List.append_assoc] at whole
  have ends := List.append_cancel_left (List.append_cancel_left (List.append_cancel_left whole))
  rw [← List.append_assoc, ← List.append_assoc] at ends
  exact String.toList_inj.mp (List.append_cancel_right (List.append_cancel_right ends))

theorem mem_unslashed_popIfEmpty {part : String} (h : part ∈ unslashed (popIfEmpty parts)) :
    part ∈ parts := by
  unfold unslashed at h
  split at h
  · cases h
  · unfold popIfEmpty at h
    split at h
    · exact (List.dropLast_sublist parts).mem h
    · exact h

theorem slash_not_mem_written (scheme segment : String) : '/' ∉ written scheme segment :=
  Percent.slash_not_mem_encodeChars fun _ => by simp [inSegmentSet]

variable {segments segments' : List String} {u' : Url}

theorem Lasting.kept (h : Lasting segments) : ∀ s ∈ segments, kept s = s := fun s hs =>
  kept_of_plain (h.plain s hs)

theorem Lasting.join (h : Lasting segments) (path : base.path = .segments parts) :
    base.join? segments = some { base with path := .segments (unslashed (popIfEmpty parts) ++
      segments.map fun s => String.ofList (written base.scheme s)) } := by
  obtain ⟨first, rest, rfl, filled⟩ := h.begun
  refine join_steady path ?_ fun s hs => ?_
  · rw [h.kept first List.mem_cons_self]
    exact filled
  · rw [Steady, h.kept s hs]
    exact h.steady s hs

/-- Each segment that is joined is cut off as a piece of its own. -/
theorem Lasting.split (h : Lasting segments) (path : base.path = .segments parts) (more : parts ≠ [])
    (plain : ∀ p ∈ parts, '/' ∉ p.toList) (filled : "" ∉ parts.dropLast) :
    ∃ u pieces, base.join? segments = some u ∧ u = { base with path := u.path } ∧
      u.path.cut = trimmed base.path.cut ++ pieces ∧
      pieces.map (fun p => Percent.decode (Utf8.encode p)) = segments.map Utf8.encode := by
  refine ⟨_, segments.map fun s => String.ofList (written base.scheme s), h.join path, rfl, ?_, ?_⟩
  · have whole : ∀ p ∈ unslashed (popIfEmpty parts) ++
        segments.map (fun s => String.ofList (written base.scheme s)), '/' ∉ p.toList := by
      intro p hp
      rcases List.mem_append.mp hp with old | new
      · exact plain p (mem_unslashed_popIfEmpty old)
      · obtain ⟨s, _, rfl⟩ := List.mem_map.mp new
        rw [String.toList_ofList]
        exact slash_not_mem_written base.scheme s
    rw [cut_segments whole, path, cut_segments plain, trimmed_cons more filled, List.cons_append]
  · rw [List.map_map]
    refine List.map_congr_left fun s hs => ?_
    have back := decode_written base.scheme s
    rw [h.kept s hs] at back
    simpa [Utf8.encode] using back

/-- Joining segments to the address of a page keeps all of it but the path, which then has one piece
more for each segment, and each piece decodes to its segment. So no two lists of segments lead to the
same address. -/
theorem join_splits (accepted : baseUrl field raw = .ok base)
    (web : base.scheme = "http" ∨ base.scheme = "https")
    (filled : "" ∉ base.path.cut.tail.dropLast) :
    (∀ segments, Lasting segments → ∃ u pieces, base.join? segments = some u ∧
      u = { base with path := u.path } ∧ u.path.cut = trimmed base.path.cut ++ pieces ∧
      pieces.map (fun p => Percent.decode (Utf8.encode p)) = segments.map Utf8.encode) ∧
    ∀ segments segments' u u', Lasting segments → Lasting segments' →
      base.join? segments = some u → base.join? segments' = some u' → segments ≠ segments' →
      u.text ≠ u'.text := by
  obtain ⟨parts, path, more, plain⟩ := parse_parts (baseUrl_eq_ok.mp accepted).1 web
  rw [path, cut_segments plain, List.tail_cons] at filled
  refine ⟨fun segments h => h.split path more plain filled, ?_⟩
  intro segments segments' u u' h h' joined joined' differ same
  obtain ⟨v, pieces, join, only, cut, back⟩ := h.split path more plain filled
  obtain ⟨v', pieces', join', only', cut', back'⟩ := h'.split path more plain filled
  obtain rfl : v = u := Option.some.inj (join.symm.trans joined)
  obtain rfl : v' = u' := Option.some.inj (join'.symm.trans joined')
  rw [only, only'] at same
  have cuts : v.path.cut = v'.path.cut := by
    rw [UrlPath.cut, text_with_path same]
    rfl
  obtain rfl : pieces = pieces' := List.append_cancel_left (cut.symm.trans (cuts.trans cut'))
  exact differ ((List.map_inj_right fun _ _ => Utf8.encode_inj.mp).mp (back.symm.trans back'))

/-- An address with a path that ends in a slash. -/
def page : Url :=
  ⟨"http", none, some (.ipv6 [0, 0, 0, 0, 0, 0, 0, 1]), some 8080, .segments ["auth", ""], none, none,
    false⟩

theorem join_splits_page :
    baseUrl "base" "http://[::1]:8080/auth/" = .ok page ∧
    (∃ u pieces, page.join? ["a/b%", "", "c d"] = some u ∧ u = { page with path := u.path } ∧
      u.path.cut = trimmed page.path.cut ++ pieces ∧
      pieces.map (fun p => Percent.decode (Utf8.encode p)) =
        ["a/b%", "", "c d"].map Utf8.encode) ∧
    ∀ u u', page.join? ["a/b%", "", "c d"] = some u → page.join? ["a", "b%", "", "c d"] = some u' →
      u.text ≠ u'.text := by
  have accepted : baseUrl "base" "http://[::1]:8080/auth/" = .ok page := rfl
  have filled : "" ∉ page.path.cut.tail.dropLast := by decide
  have one : Lasting ["a/b%", "", "c d"] := ⟨⟨_, _, rfl, by decide⟩, by decide, by simp⟩
  have other : Lasting ["a", "b%", "", "c d"] := ⟨⟨_, _, rfl, by decide⟩, by decide, by simp⟩
  obtain ⟨splits, differ⟩ := join_splits accepted (.inl rfl) filled
  exact ⟨accepted, splits _ one, fun u u' h h' => differ _ _ u u' one other h h' (by decide)⟩

end Url

end Tenancy
