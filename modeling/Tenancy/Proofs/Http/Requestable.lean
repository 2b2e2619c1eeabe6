import Tenancy.Http.Message

/-!
# Requests that can be sent

A request can be sent if its headers hold nothing that headers cannot hold and a server can be asked
for its URL. What counts of the URL is its scheme, its host and its length. So of two URLs that differ
in nothing but their paths, the one with the shorter path can be requested if the other one can.
-/

namespace Tenancy

theorem UrlPath.size_le_append (parts more : List String) :
    (segments parts).text.utf8ByteSize ≤ (segments (parts ++ more)).text.utf8ByteSize := by
  have grows (pieces : List String) (s : String) :
      s.utf8ByteSize ≤ (pieces.foldl (· ++ ·) s).utf8ByteSize := by
    induction pieces generalizing s with
    | nil => exact Nat.le_refl _
    | cons piece pieces ih =>
      have longer := ih (s ++ piece)
      rw [String.utf8ByteSize_append] at longer
      rw [List.foldl_cons]
      omega
  simp only [text, String.join, List.map_append, List.foldl_append]
  exact grows _ _

namespace Url

variable {u : Url} {path path' : UrlPath}

/-- URLs that a server can be asked for. User name and password do not count towards the length. -/
structure Requestable (u : Url) : Prop where
  scheme : u.scheme = "http" ∨ u.scheme = "https"
  named : u.hasHost = true
  host : ∀ h ∈ u.host, ∀ c ∈ h.text.toList, c ∉ outOfPlace
  size : u.asked.text.utf8ByteSize ≤ 65534

theorem isSendable_iff : u.isSendable = true ↔ u.asked.text.utf8ByteSize ≤ 65534 ∧
    ∀ h ∈ u.host, ∀ c ∈ h.text.toList, c ∉ outOfPlace := by
  unfold isSendable Utf8.size maxSize
  cases u.host <;> simp

/-- Nothing keeps a server from being asked for just these URLs. -/
theorem obstacle?_eq_none : u.obstacle? = none ↔ u.Requestable := by
  have parts : u.Requestable ↔ (u.hasHost && (u.scheme = "http" || u.scheme = "https")) = true ∧
      u.isSendable = true := by
    simp only [Bool.and_eq_true, Bool.or_eq_true, decide_eq_true_eq, isSendable_iff]
    exact ⟨fun ⟨scheme, named, host, size⟩ => ⟨⟨named, scheme⟩, size, host⟩,
      fun ⟨⟨named, scheme⟩, size, host⟩ => ⟨scheme, named, host, size⟩⟩
  rw [parts]
  unfold obstacle?
  split
  · next web => cases sendable : u.isSendable <;> simp [web]
  · next web => simp [web]

theorem exists_obstacle (stuck : ¬ u.Requestable) : ∃ why, u.obstacle? = some why :=
  Option.ne_none_iff_exists'.mp (mt obstacle?_eq_none.mp stuck)

instance : Decidable u.Requestable := decidable_of_iff _ obstacle?_eq_none

theorem size_text_le (h : path.text.utf8ByteSize ≤ path'.text.utf8ByteSize) :
    ({ u with path := path } : Url).text.utf8ByteSize ≤
      ({ u with path := path' } : Url).text.utf8ByteSize := by
  have authority : ({ u with path := path } : Url).authority =
      ({ u with path := path' } : Url).authority := rfl
  simp only [text, request, authority, String.utf8ByteSize_append]
  omega

/-- A shorter path does not keep a server from being asked. -/
theorem Requestable.of_path (h : ({ u with path := path' } : Url).Requestable)
    (shorter : path.text.utf8ByteSize ≤ path'.text.utf8ByteSize) :
    ({ u with path := path } : Url).Requestable where
  scheme := h.scheme
  named := h.named
  host := h.host
  size := Nat.le_trans (size_text_le (u := u.asked) shorter) h.size

end Url

namespace Http.Request

variable {r : Request}

theorem defect?_of_headers (headers : ∀ h ∈ r.headers, isHeaderValue h.2 = true) :
    r.defect? = r.url.obstacle?.map (unrequestable r.url) := by
  have fine : (r.headers.any fun h => !isHeaderValue h.2) = false := by
    simpa using fun name value there => headers (name, value) there
  unfold defect?
  rw [fine, Bool.and_false, if_neg Bool.false_ne_true]

theorem defect?_of_obstacle {why : String}
    (headers : ∀ h ∈ r.headers, isHeaderValue h.2 = true) (stuck : r.url.obstacle? = some why) :
    r.defect? = some (unrequestable r.url why) := by
  rw [defect?_of_headers headers, stuck]
  rfl

theorem defect?_eq_none :
    r.defect? = none ↔ (∀ h ∈ r.headers, isHeaderValue h.2 = true) ∧ r.url.Requestable := by
  rw [← Url.obstacle?_eq_none]
  refine ⟨fun none => ?_, fun ⟨headers, fine⟩ => by rw [defect?_of_headers headers, fine]; rfl⟩
  unfold defect? at none
  split at none
  · cases none
  · next whole =>
    have fine := Option.map_eq_none_iff.mp none
    have named := (Url.obstacle?_eq_none.mp fine).named
    rw [named, Bool.true_and] at whole
    exact ⟨by simpa using whole, fine⟩

end Http.Request

end Tenancy
