import Tenancy.Proofs.Creation.Location
import Tenancy.Proofs.Session.Access
import Tenancy.Work

/-!
# Ids and the paths of locations

The end of a location is the last segment of a path only if the location is a URL with a path and
nothing behind it. A query or a fragment is taken for a part of the path, and so is the server where
there is no path; and what a body states is taken as it is, even if it is empty or holds a slash.
-/

namespace Tenancy

/-! ## Web addresses -/

/-- Nothing stands in a text that would end a segment of a path. -/
def Plain (text : List Char) : Prop := ∀ c ∈ text, c ≠ '/' ∧ c ≠ '?' ∧ c ≠ '#'

instance (text : List Char) : Decidable (Plain text) := List.decidableBAll _ text

/-- The parts of an absolute URL on the web. What stands behind the path, a query or a fragment, comes
with the mark in front of it. -/
structure WebAddress where
  scheme : List Char
  authority : List Char
  segments : List (List Char)
  tail : List Char
  web : scheme.map Char.toLower = "http".toList ∨ scheme.map Char.toLower = "https".toList
  hosted : authority ≠ []
  plainAuthority : Plain authority
  plainSegments : ∀ s ∈ segments, Plain s
  marked : ∀ c rest, tail = c :: rest → c = '?' ∨ c = '#'

namespace WebAddress

/-- The path as it is written, each segment behind a slash. -/
def path (segments : List (List Char)) : List Char := segments.flatMap ('/' :: ·)

/-- The URL as it is written. -/
def text (u : WebAddress) : List Char :=
  u.scheme ++ [':', '/', '/'] ++ u.authority ++ path u.segments ++ u.tail

/-- The last segment of the path that is not empty. -/
def lastSegment? (u : WebAddress) : Option (List Char) := (u.segments.filter (· ≠ [])).getLast?

variable {u : WebAddress} {s : List Char} {segments : List (List Char)}

theorem path_append (segments segments' : List (List Char)) :
    path (segments ++ segments') = path segments ++ path segments' :=
  List.flatMap_append

theorem path_replicate (n : Nat) : path (List.replicate n []) = List.replicate n '/' := by
  induction n with
  | zero => rfl
  | succ n ih => exact congrArg ('/' :: ·) ih

/-- Segments that are empty at most stand behind the last one that is not. -/
theorem split_at_last (h : (segments.filter (· ≠ [])).getLast? = some s) :
    s ≠ [] ∧ ∃ before n, segments = before ++ s :: List.replicate n [] := by
  induction segments using List.reverseRecOn with
  | nil => cases h
  | append_singleton segments last ih =>
    rw [List.filter_append] at h
    by_cases none : last = []
    · subst none
      obtain ⟨full, before, n, rfl⟩ := ih (by simpa using h)
      exact ⟨full, before, n + 1, by rw [List.replicate_succ']; simp⟩
    · have same : last = s := by simpa [List.filter_cons, none] using h
      exact ⟨same ▸ none, segments, 0, by rw [same]; rfl⟩

theorem eq_replicate_of_none (h : (segments.filter (· ≠ [])).getLast? = none) :
    segments = List.replicate segments.length [] := by
  refine List.eq_replicate_of_mem fun s hs => ?_
  have none := List.filter_eq_nil_iff.mp (List.getLast?_eq_none_iff.mp h) s hs
  simpa using none

/-- A URL ends in the last segment of its path exactly if it ends with the path, or if what follows
the path happens to end in the same segment behind a slash. -/
theorem endsIn_lastSegment_iff (h : u.lastSegment? = some s) :
    EndsIn u.text s ↔
      u.tail = [] ∨ ∃ before n, u.tail = before ++ '/' :: s ++ List.replicate n '/' := by
  obtain ⟨full, before, n, segments⟩ := split_at_last h
  have plain : Plain s := u.plainSegments s (by simp [segments])
  have slashless : '/' ∉ s := fun slash => (plain _ slash).1 rfl
  have pathed : path u.segments = path before ++ '/' :: s ++ List.replicate n '/' := by
    rw [segments, path_append, List.append_assoc, ← path_replicate]
    rfl
  constructor
  · intro ends
    cases tailed : u.tail with
    | nil => exact .inl rfl
    | cons c rest =>
      have mark := u.marked c rest tailed
      unfold text at ends
      rw [tailed] at ends
      rcases ends.behind_mark (by rcases mark with rfl | rfl <;> decide) with inside | behind
      · obtain ⟨_, question, hash⟩ := plain c inside
        exact (mark.elim question hash).elim
      · exact .inr behind
  · rintro (tailless | ⟨front, k, tailed⟩)
    · have ends := EndsIn.after_slash full slashless
        (u.scheme ++ [':', '/', '/'] ++ u.authority ++ path before) n
      simpa [text, pathed, tailless] using ends
    · have ends := EndsIn.after_slash full slashless
        (u.scheme ++ [':', '/', '/'] ++ u.authority ++ path u.segments ++ front) k
      simpa [text, tailed] using ends

/-- A URL of a server alone ends in the server. -/
theorem endsIn_authority (h : u.lastSegment? = none) (tailless : u.tail = []) :
    EndsIn u.text u.authority := by
  have slashless : '/' ∉ u.authority := fun slash => (u.plainAuthority _ slash).1 rfl
  have ends := EndsIn.after_slash u.hosted slashless (u.scheme ++ [':', '/']) u.segments.length
  have pathed : path u.segments = List.replicate u.segments.length '/' := by
    rw [← path_replicate, ← eq_replicate_of_none h]
  simpa [text, pathed, tailless] using ends

/-- A URL always ends in something. -/
theorem exists_endsIn (u : WebAddress) : ∃ part, EndsIn u.text part := by
  obtain ⟨c, rest, authority⟩ := List.exists_cons_of_ne_nil u.hosted
  have member : c ∈ u.authority := by simp [authority]
  exact Tenancy.exists_endsIn (u.plainAuthority c member).1 (by simp [text, member])

end WebAddress

/-! ## The id of a creation -/

/-- What the id of a creation is, seen from the receipt. -/
structure TakenFrom (receipt : Receipt) (id : String) : Prop where
  /-- It can be used as a segment of a path if the location says anything, or else if the body says
  something of that kind. -/
  proper_iff : (id ≠ "" ∧ '/' ∉ id.toList) ↔
    receipt.Located ∨ ∃ stated, receipt.States stated ∧ stated ≠ "" ∧ '/' ∉ stated.toList
  /-- It is the last segment of a location's path if nothing else follows the path, or if what
  follows ends in the same way. -/
  segment_iff : ∀ (u : WebAddress) (s : List Char), receipt.location = some (String.ofList u.text) →
    u.lastSegment? = some s → (id.toList = s ↔
      u.tail = [] ∨ ∃ before n, u.tail = before ++ '/' :: s ++ List.replicate n '/')
  /-- Where the path has no segment it is still taken from the location, which may be the server. -/
  segmentless : ∀ u : WebAddress, receipt.location = some (String.ofList u.text) →
    u.lastSegment? = none → EndsIn u.text id.toList ∧ (u.tail = [] → id.toList = u.authority)
  /-- It is what the body states if there is no location, or one that is made of slashes. -/
  stated : (∀ location, receipt.location = some location → ∀ c ∈ location.toList, c = '/') →
    receipt.States id

namespace Receipt

variable {r : Receipt} {id : String}

theorem Names.endsIn_iff {text part : List Char} (h : r.Names id)
    (given : r.location = some (String.ofList text)) (located : ∃ part, EndsIn text part) :
    id.toList = part ↔ EndsIn text part := by
  have ends : EndsIn text id.toList := by
    cases h with
    | located given' ends =>
      cases given.symm.trans given'
      rwa [String.toList_ofList] at ends
    | stated unlocated _ =>
      obtain ⟨part, ends⟩ := located
      exact (unlocated ⟨_, part, given, by rwa [String.toList_ofList]⟩).elim
  exact ⟨fun same => same ▸ ends, fun ends' => ends.unique ends'⟩

theorem Names.proper_iff (h : r.Names id) : (id ≠ "" ∧ '/' ∉ id.toList) ↔
    r.Located ∨ ∃ stated, r.States stated ∧ stated ≠ "" ∧ '/' ∉ stated.toList := by
  cases h with
  | @located location given ends =>
    have full : id ≠ "" := fun none => ends.full (by rw [none]; rfl)
    exact iff_of_true ⟨full, ends.slashless⟩ (.inl ⟨location, _, given, ends⟩)
  | stated unlocated states =>
    constructor
    · exact fun proper => .inr ⟨id, states, proper⟩
    · rintro (located | ⟨id', states', proper⟩)
      · exact (unlocated located).elim
      · exact states.unique states' ▸ proper

theorem Names.takenFrom (h : r.Names id) : TakenFrom r id where
  proper_iff := h.proper_iff
  segment_iff u _ given last :=
    (h.endsIn_iff given u.exists_endsIn).trans (WebAddress.endsIn_lastSegment_iff last)
  segmentless u given last :=
    ⟨(h.endsIn_iff given u.exists_endsIn).mp rfl, fun tailless =>
      (h.endsIn_iff given u.exists_endsIn).mpr (WebAddress.endsIn_authority last tailless)⟩
  stated slashes := by
    cases h with
    | @located location given ends =>
      obtain ⟨c, part, cut⟩ := List.exists_cons_of_ne_nil ends.full
      have member : c ∈ id.toList := by simp [cut]
      obtain ⟨front, n, whole, _⟩ := ends.cut
      have slash : c = '/' := slashes location given c (by rw [whole]; simp [member])
      exact (ends.slashless (slash ▸ member)).elim
    | stated _ states => exact states

end Receipt

namespace Session

/-- Whatever the provider answers, a creation that succeeds does so by a receipt that its last attempt
was answered by, and the id is what that receipt says: the last segment of a location's path if the
location ends with its path, a part of the query or of the fragment if it does not, the server if
there is no path, and whatever the body states if the location says nothing. -/
theorem create_takes_id {I : Interface} {ρ : Type} [Resource ρ] {thing : ρ}
    {issue : Program I (Except ProviderError Token)}
    {attempt : Token → Program I (Except ProviderError Receipt)} {slot slot' : TokenSlot}
    {es : List I.Event} {id : String}
    (run : (create issue thing attempt).Runs slot es (.ok id) slot') :
    ∃ t receipt before es', es = before ++ es' ∧ (attempt t).Runs es' (.ok receipt) ∧
      receipt.status.isSuccess = true ∧ TakenFrom receipt id := by
  obtain ⟨a, accessed, decided⟩ := Runs.of_create run
  cases a with
  | error e => cases decided
  | ok receipt =>
    obtain ⟨success, names⟩ := Receipt.outcome_eq_ok.mp decided.symm
    obtain ⟨t, before, es', rfl, tried⟩ := accessed.of_ok
    obtain ⟨a, ha, asked⟩ := tried.of_map
    exact ⟨t, receipt, before, es', rfl, mapError_ok ha.symm ▸ asked, success,
      (Receipt.id?_iff.mp names).takenFrom⟩

/-- A role. -/
def reader : Wire.Role := ⟨none, "reader", none⟩

/-- Creating that role where a token is at hand, as answered by the receipt. -/
def creates (receipt : Receipt) (id : String) : Prop :=
  (Work.create reader (Facility.call (.createRole "acme" reader))).Runs ⟨some "t"⟩
    [⟨.call "t" (.createRole "acme" reader), .ok receipt⟩] (.ok id) ⟨some "t"⟩

theorem path_taken : creates (.created "http://kc/admin/realms/acme/roles-by-id/7f3c-11/")
      "7f3c-11" ∧
    ∃ t receipt before es',
      [⟨.call "t" (.createRole "acme" reader),
        .ok (.created "http://kc/admin/realms/acme/roles-by-id/7f3c-11/")⟩] = before ++ es' ∧
      (Facility.call (.createRole "acme" reader) t).Runs es' (.ok receipt) ∧
      receipt.status.isSuccess = true ∧ TakenFrom receipt "7f3c-11" := by
  have run : creates (.created "http://kc/admin/realms/acme/roles-by-id/7f3c-11/") "7f3c-11" :=
    .ask (.done _)
  exact ⟨run, create_takes_id run⟩

/-- The id is proper, and it is taken from the path of the location wherever there is one and from the
body otherwise. -/
structure Addressed (receipt : Receipt) (id : String) : Prop where
  proper : id ≠ "" ∧ '/' ∉ id.toList
  segment : ∀ (u : WebAddress) (s : List Char), receipt.location = some (String.ofList u.text) →
    u.lastSegment? = some s → id.toList = s
  stated : (receipt.location = none ∨ ∃ u : WebAddress,
    receipt.location = some (String.ofList u.text) ∧ u.lastSegment? = none) → receipt.States id

/-- A location with a query. -/
def queried : WebAddress where
  scheme := "http".toList
  authority := "kc".toList
  segments := ["admin".toList, "roles-by-id".toList, "r1".toList]
  tail := "?first=1".toList
  web := by decide
  hosted := by decide
  plainAuthority := by decide
  plainSegments := by decide
  marked := by rintro c rest ⟨⟩; exact .inl rfl

theorem id_not_always_addressed : ¬ ∀ receipt id, creates receipt id → Addressed receipt id := by
  intro addressed
  have created : creates (.created "http://kc/admin/roles-by-id/r1?first=1") "r1?first=1" :=
    .ask (.done _)
  have segment := (addressed _ _ created).segment queried "r1".toList rfl rfl
  exact absurd segment (by decide)

end Session

end Tenancy
