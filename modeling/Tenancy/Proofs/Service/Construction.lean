import Tenancy.Service

/-!
# Settings that can be used

A service is put together from settings that have been checked. The check asks whether the addresses
are URLs; the construction also needs a path that segments can be added to, which `mailto:` and its
like do not have. So settings that are refused are never used, and settings that pass are used unless
an address has no such path. Which addresses those are can be seen from their text.
-/

namespace Tenancy

namespace Url

variable {scheme raw : String} {cs : List Char} {u : Url}

/-! ## Addresses without a hierarchy -/

/-- Texts whose scheme is none of the special ones and is not followed by a slash. -/
def Rootless (raw : String) : Prop :=
  ∃ scheme rest, scheme? (clean raw) = some (scheme, rest) ∧ isSpecial scheme = false ∧
    rest.head? ≠ some '/'

theorem splitTail_head (special : Bool) (cs : List Char) :
    (splitTail special cs).1.head? = some '/' ↔ cs.head? = some '/' := by
  simp only [splitTail, List.head?_takeWhile, Option.filter_eq_some_iff]
  simp

theorem rootedPath_segments (special : Bool) (cs : List Char) :
    ∃ parts, rootedPath special cs = .segments parts := by
  cases cs with
  | nil => exact ⟨_, rfl⟩
  | cons c rest => exact ⟨_, rfl⟩

theorem isHierarchical_of_segments {parts : List String} (h : u.path = .segments parts) :
    u.isHierarchical = true := by simp [isHierarchical, h]

theorem readSpecial_hierarchical (h : readSpecial scheme cs = .ok u) : u.isHierarchical = true := by
  simp only [readSpecial, bind, Except.bind] at h
  split at h
  · cases h
  · cases h
    obtain ⟨parts, rooted⟩ := rootedPath_segments true
      ((splitTail true cs).1.dropWhile fun c => !isSlash true c)
    exact isHierarchical_of_segments rooted

theorem readLocal_hierarchical (h : readLocal cs = .ok u) : u.isHierarchical = true := by
  simp only [readLocal, bind, Except.bind] at h
  repeat' split at h
  all_goals (cases h <;> rfl)

theorem readOther_hierarchical (rooted : cs.head? = some '/') (h : readOther scheme cs = .ok u) :
    u.isHierarchical = true := by
  have front := (splitTail_head false cs).mpr rooted
  simp only [readOther, bind, Except.bind] at h
  split at h
  · next rest _ =>
    split at h
    · cases h
    · next a _ =>
      cases h
      obtain ⟨parts, rooted⟩ := rootedPath_segments false (a.rest ++ rest.dropWhile (· ≠ '/'))
      exact isHierarchical_of_segments rooted
  · cases h; rfl
  · next single =>
    obtain ⟨rest, slash⟩ := List.head?_eq_some_iff.mp front
    exact absurd slash (single rest)

theorem readOther_flat (flat : cs.head? ≠ some '/') :
    ∃ u, readOther scheme cs = .ok u ∧ u.isHierarchical = false := by
  have front := mt (splitTail_head false cs).mp flat
  simp only [readOther, bind, Except.bind]
  split
  · next slashes => simp [slashes] at front
  · next slash => simp [slash] at front
  · exact ⟨_, rfl, rfl⟩

/-- A text without a scheme of a server and without a slash is always a URL, and never one that
segments can be added to. -/
theorem Rootless.parse (h : Rootless raw) : ∃ u, parse raw = .ok u ∧ u.isHierarchical = false := by
  obtain ⟨scheme, rest, read, plain, flat⟩ := h
  have remote : scheme ≠ "file" := by
    rintro rfl
    cases plain
  simp only [Url.parse, read, if_neg remote, plain]
  exact readOther_flat flat

theorem hierarchical_of_rooted (rooted : ¬ Rootless raw) (h : parse raw = .ok u) :
    u.isHierarchical = true := by
  unfold Url.parse at h
  split at h
  · cases h
  · next scheme rest read =>
    split at h
    · exact readLocal_hierarchical h
    · split at h
      · exact readSpecial_hierarchical h
      · next plain =>
        by_cases slash : rest.head? = some '/'
        · exact readOther_hierarchical slash h
        · exact absurd ⟨scheme, rest, read, by simpa using plain, slash⟩ rooted

end Url

/-! ## One address -/

variable {field raw : String} {u : Url} {s : Settings}

theorem checkUrl_eq_ok : checkUrl field raw = .ok u ↔ Url.parse raw = .ok u := by
  unfold checkUrl
  cases Url.parse raw with
  | error e =>
    constructor <;> intro h <;> cases h
  | ok v =>
    constructor <;> intro h <;> cases h <;> rfl

theorem baseUrl_eq_ok :
    baseUrl field raw = .ok u ↔ Url.parse raw = .ok u ∧ u.isHierarchical = true := by
  have parsed : checkUrl field raw = .ok u ↔ Url.parse raw = .ok u := checkUrl_eq_ok
  rw [← parsed]
  cases read : checkUrl field raw with
  | error f => simp [baseUrl, read, bind, Except.bind]
  | ok v =>
    simp only [baseUrl, read, bind, Except.bind]
    constructor
    · intro h
      split at h
      · next hierarchical =>
        cases h
        exact ⟨rfl, hierarchical⟩
      · cases h
    · rintro ⟨h, hierarchical⟩
      cases h
      rw [if_pos hierarchical]
      rfl

theorem baseUrl_eq_checkUrl (rooted : ¬ Url.Rootless raw) :
    baseUrl field raw = checkUrl field raw := by
  cases read : checkUrl field raw with
  | error f => simp only [baseUrl, read, bind, Except.bind]
  | ok u =>
    have hierarchical := Url.hierarchical_of_rooted rooted (checkUrl_eq_ok.mp read)
    simp only [baseUrl, read, bind, Except.bind, hierarchical, if_pos]
    rfl

theorem baseUrl_rootless (rootless : Url.Rootless raw) :
    baseUrl field raw = .error (.invalid field "not a base URL") := by
  obtain ⟨u, read, flat⟩ := rootless.parse
  simp only [baseUrl, checkUrl_eq_ok.mpr read, bind, Except.bind, flat]
  rfl

/-- The address that tokens are requested from can be written whenever the base can. -/
theorem Provider.Login.ofSettings_ok (h : u.isHierarchical = true) (p : ProviderSettings) :
    ∃ l, Provider.Login.ofSettings u p = .ok l := by
  unfold Url.isHierarchical at h
  split at h
  · next parts path => simp [Provider.Login.ofSettings, Url.join?, path]
  · cases h

/-! ## All settings -/

/-- No registry of the host's own, and topics that are left alone. -/
def Surroundings.bare : Surroundings := ⟨none, false⟩

theorem Settings.check_urls (h : s.check = .ok ()) :
    (∃ u, Url.parse s.provider.baseUrl = .ok u) ∧
      (s.registry.enabled = true → ∃ u, Url.parse s.registry.baseUrl = .ok u) := by
  simp only [check, bind, Except.bind] at h
  split at h
  · cases h
  · next u provider =>
    refine ⟨⟨u, checkUrl_eq_ok.mp provider⟩, fun enabled => ?_⟩
    rw [if_pos enabled] at h
    split at h
    · cases h
    · next u registry => exact ⟨u, checkUrl_eq_ok.mp registry⟩

namespace Service

theorem endpoint_ok (p : ProviderSettings) (read : Url.parse p.baseUrl = .ok u)
    (rooted : ¬ Url.Rootless p.baseUrl) : ∃ e, endpoint p = .ok e := by
  obtain ⟨l, login⟩ := Provider.Login.ofSettings_ok (Url.hierarchical_of_rooted rooted read) p
  simp only [endpoint, baseUrl_eq_checkUrl rooted, checkUrl_eq_ok.mpr read, bind, Except.bind, login]
  exact ⟨_, rfl⟩

theorem endpoint_rootless (p : ProviderSettings) (rootless : Url.Rootless p.baseUrl) :
    endpoint p = .error (.invalid "keycloak.base_url" "not a base URL") := by
  simp only [endpoint, baseUrl_rootless rootless, bind, Except.bind]

theorem chooseRegistry_ok (r : RegistrySettings)
    (read : r.enabled = true → ∃ u, Url.parse r.baseUrl = .ok u)
    (rooted : r.enabled = true → ¬ Url.Rootless r.baseUrl) :
    ∃ v, chooseRegistry r .bare = .ok v := by
  by_cases enabled : r.enabled = true
  · obtain ⟨u, read⟩ := read enabled
    have base : baseUrl "registry.base_url" r.baseUrl = .ok u := by
      rw [baseUrl_eq_checkUrl (rooted enabled), checkUrl_eq_ok.mpr read]
    exact ⟨some ⟨u⟩, by simp [chooseRegistry, Surroundings.bare, enabled,
      Registry.Remote.ofSettings, base, Except.map]⟩
  · exact ⟨none, by simp [chooseRegistry, Surroundings.bare, enabled]⟩

theorem chooseRegistry_rootless (r : RegistrySettings) (enabled : r.enabled = true)
    (rootless : Url.Rootless r.baseUrl) :
    chooseRegistry r .bare = .error (.invalid "registry.base_url" "not a base URL") := by
  simp [chooseRegistry, Surroundings.bare, enabled, Registry.Remote.ofSettings,
    baseUrl_rootless rootless, Except.map]

/-- Settings that are refused are never used, and the construction refuses them for the same reason.
Settings that pass are used unless an address that is needed has no path to add to; that address is
then what the construction complains about. -/
theorem construction_follows_check (s : Settings) :
    (∀ f, s.check = .error f → ofSettings s .bare = .error f) ∧
    (s.check = .ok () →
      ((∃ v, ofSettings s .bare = .ok v) ↔
        ¬ Url.Rootless s.provider.baseUrl ∧
          (s.registry.enabled = true → ¬ Url.Rootless s.registry.baseUrl)) ∧
      ∀ f, ofSettings s .bare = .error f →
        f = .invalid "keycloak.base_url" "not a base URL" ∧ Url.Rootless s.provider.baseUrl ∨
          f = .invalid "registry.base_url" "not a base URL" ∧ s.registry.enabled = true ∧
            Url.Rootless s.registry.baseUrl) := by
  constructor
  · intro f refused
    simp only [ofSettings, refused, bind, Except.bind]
  intro accepted
  obtain ⟨⟨u, provider⟩, registry⟩ := Settings.check_urls accepted
  by_cases flat : Url.Rootless s.provider.baseUrl
  · have fails : ofSettings s .bare = .error (.invalid "keycloak.base_url" "not a base URL") := by
      simp only [ofSettings, accepted, endpoint_rootless _ flat, bind, Except.bind]
    refine ⟨by simp [fails, flat], fun f failure => ?_⟩
    rw [fails] at failure
    cases failure
    exact .inl ⟨rfl, flat⟩
  obtain ⟨e, first⟩ := endpoint_ok s.provider provider flat
  by_cases flatRegistry : s.registry.enabled = true ∧ Url.Rootless s.registry.baseUrl
  · have fails : ofSettings s .bare = .error (.invalid "registry.base_url" "not a base URL") := by
      simp only [ofSettings, accepted, first, bind, Except.bind,
        chooseRegistry_rootless _ flatRegistry.1 flatRegistry.2]
    refine ⟨by simp [fails, flatRegistry], fun f failure => ?_⟩
    rw [fails] at failure
    cases failure
    exact .inr ⟨rfl, flatRegistry⟩
  · have rooted : s.registry.enabled = true → ¬ Url.Rootless s.registry.baseUrl :=
      not_and.mp flatRegistry
    obtain ⟨r, second⟩ := chooseRegistry_ok s.registry registry rooted
    have builds : ∃ v, ofSettings s .bare = .ok v := by
      simp only [ofSettings, accepted, first, second, bind, Except.bind]
      exact ⟨_, rfl⟩
    refine ⟨⟨fun _ => ⟨flat, rooted⟩, fun _ => builds⟩, fun f fails => ?_⟩
    obtain ⟨v, built⟩ := builds
    rw [built] at fails
    cases fails

/-- Settings with a mail address for the provider. -/
def mailed : Settings :=
  { Settings.default with
    provider := { ProviderSettings.default with baseUrl := "mailto:admin@example.com" } }

/-- The check accepts settings that no service can be put together from. -/
theorem check_not_construction :
    ¬ ∀ s : Settings, s.check = .ok () ↔ ∃ v, ofSettings s .bare = .ok v := by
  intro agree
  have accepted : mailed.check = .ok () := rfl
  have flat : Url.Rootless mailed.provider.baseUrl :=
    ⟨"mailto", "admin@example.com".toList, rfl, rfl, by decide⟩
  obtain ⟨v, built⟩ := (agree mailed).mp accepted
  simp only [ofSettings, accepted, endpoint_rootless _ flat, bind, Except.bind] at built
  cases built

end Service

end Tenancy
