import Tenancy.Realm.ClientPlan
import Tenancy.RealmName
import Tenancy.Secret
import Tenancy.Settings.Check

/-!
# Which tenants share a secret

The key of a secret is put together with underscores, which realm names and client ids may hold
themselves. Two keys of different realms are the same exactly if one name goes on, behind an
underscore, with a text that the client id of the other realm begins with. So names without
underscores are safe, whatever the clients are called, and so are all names with the default clients;
but there are settings, accepted by the check, under which two tenants are given one secret.
-/

namespace Tenancy.Secret

open Realm (ClientPlan)

/-- The plans of a realm's clients. -/
inductive PlanOf (s : ClientSettings) (realm : String) : ClientPlan → Prop
  | modules (now : Nat) : PlanOf s realm (.forModules s now)
  | login (now : Nat) : PlanOf s realm (.forLogin s realm now)
  | impersonation (now : Nat) : PlanOf s realm (.forImpersonation s now)
  | passwordReset (mapper : Wire.Mapper) (now : Nat) : PlanOf s realm (.forPasswordReset s mapper now)

/-- What the second realm's name has beyond the first is what the first client's id has in front of
the second. -/
def Overlap (realm clientId realm' clientId' : String) : Prop :=
  ∃ between, realm' = realm ++ "_" ++ between ∧ clientId = between ++ "_" ++ clientId'

/-! ## Texts with a mark between two parts -/

variable {α : Type} {mark : α} {a b c d : List α}

/-- A text that is cut at one mark and at a later one. -/
theorem cut_later {beyond : List α} (differ : a ≠ b) (front : b = a ++ beyond)
    (back : mark :: c = beyond ++ mark :: d) : ∃ x, b = a ++ mark :: x ∧ c = x ++ mark :: d := by
  cases beyond with
  | nil => exact (differ (by rw [front, List.append_nil])).elim
  | cons m x =>
    obtain ⟨rfl, rest⟩ := List.cons.inj back
    exact ⟨x, front, rest⟩

theorem cut_twice_iff (differ : a ≠ b) : a ++ mark :: c = b ++ mark :: d ↔
    (∃ x, b = a ++ mark :: x ∧ c = x ++ mark :: d) ∨
      ∃ x, a = b ++ mark :: x ∧ d = x ++ mark :: c := by
  constructor
  · intro same
    rcases List.append_eq_append_iff.mp same with ⟨beyond, front, back⟩ | ⟨beyond, front, back⟩
    · exact .inl (cut_later differ front back)
    · exact .inr (cut_later differ.symm front back)
  · rintro (⟨x, rfl, rfl⟩ | ⟨x, rfl, rfl⟩) <;> simp

/-! ## Keys -/

variable {realm realm' clientId clientId' : String}

theorem key_toList (keyStart : String) : (key keyStart realm clientId).toList =
    (keyStart.toList ++ ['_']) ++ (realm.toList ++ '_' :: clientId.toList) := by
  have mark : "_".toList = ['_'] := rfl
  simp [key, mark]

theorem overlap_toList : Overlap realm clientId realm' clientId' ↔
    ∃ x, realm'.toList = realm.toList ++ '_' :: x ∧
      clientId.toList = x ++ '_' :: clientId'.toList := by
  have mark : "_".toList = ['_'] := rfl
  constructor
  · rintro ⟨between, rfl, rfl⟩
    exact ⟨between.toList, by simp [mark], by simp [mark]⟩
  · rintro ⟨x, hr, hc⟩
    refine ⟨String.ofList x, String.toList_inj.mp ?_, String.toList_inj.mp ?_⟩
    · simp [mark, hr]
    · simp [mark, hc]

/-- Keys of different realms are the same exactly if the parts overlap. -/
theorem key_eq_iff (keyStart : String) (differ : realm ≠ realm') :
    key keyStart realm clientId = key keyStart realm' clientId' ↔
      Overlap realm clientId realm' clientId' ∨ Overlap realm' clientId' realm clientId := by
  have differ' : realm.toList ≠ realm'.toList := fun h => differ (String.toList_inj.mp h)
  rw [← String.toList_inj, key_toList, key_toList, List.append_cancel_left_eq,
    cut_twice_iff differ', overlap_toList, overlap_toList]

theorem Overlap.underscore_in_name (h : Overlap realm clientId realm' clientId') :
    '_' ∈ realm'.toList := by
  obtain ⟨x, hr, _⟩ := overlap_toList.mp h
  simp [hr]

/-! ## The default clients -/

theorem default_loginClientId (realm : String) :
    (ClientSettings.default.loginClientIdFor realm).toList =
      realm.toList ++ "-login-application".toList := by
  have replaced : ClientSettings.default.loginClientIdFor realm =
      String.ofList (realm.toList ++ "-login-application".toList) := rfl
  rw [replaced, String.toList_ofList]

/-- An id of the default clients: that of the login client, or one without underscores that ends
differently. -/
theorem default_clientId {p : ClientPlan} (h : PlanOf .default realm p) :
    p.clientId.toList = realm.toList ++ "-login-application".toList ∨
      '_' ∉ p.clientId.toList ∧ p.clientId.toList.getLast? = some 't' := by
  have fixed : ∀ id ∈ [ClientSettings.default.moduleClientId,
      ClientSettings.default.impersonationClientId, ClientSettings.default.passwordResetClientId],
      '_' ∉ id.toList ∧ id.toList.getLast? = some 't' := by decide
  cases h with
  | modules => exact .inr (fixed ClientSettings.default.moduleClientId (by simp))
  | login => exact .inl (default_loginClientId realm)
  | impersonation => exact .inr (fixed ClientSettings.default.impersonationClientId (by simp))
  | passwordReset => exact .inr (fixed ClientSettings.default.passwordResetClientId (by simp))

theorem default_apart {p q : ClientPlan} (hp : PlanOf .default realm p)
    (hq : PlanOf .default realm' q) : ¬ Overlap realm p.clientId realm' q.clientId := by
  intro overlap
  obtain ⟨x, name, front⟩ := overlap_toList.mp overlap
  rcases default_clientId hp with login | ⟨plain, _⟩
  · rcases default_clientId hq with login' | ⟨_, last⟩
    · -- The second id holds the longer name, so it cannot be the end of the first one.
      have lengths := congrArg List.length front
      rw [login, login', name] at lengths
      simp only [List.length_append, List.length_cons] at lengths
      omega
    · have ends := congrArg List.getLast? front
      have final : "-login-application".toList.getLast? = some 'n' := rfl
      rw [login, List.getLast?_append, final, List.getLast?_append, List.getLast?_cons, last] at ends
      cases ends
  · rw [front] at plain
    exact plain (by simp)

/-- With the default clients, no two tenants share a secret. -/
theorem default_keys_differ (keyStart : String) (differ : realm ≠ realm') {p q : ClientPlan}
    (hp : PlanOf .default realm p) (hq : PlanOf .default realm' q) :
    key keyStart realm p.clientId ≠ key keyStart realm' q.clientId := by
  intro same
  rcases (key_eq_iff keyStart differ).mp same with overlap | overlap
  · exact default_apart hp hq overlap
  · exact default_apart hq hp overlap

/-! ## Any clients -/

/-- Clients of two tenants share a secret exactly if the one tenant's name goes on with an underscore
and the text that, with another underscore, the other tenant's client has in front of the first one's
client id. It never happens to names without underscores, nor with the default clients. -/
theorem tenants_share_secret_iff (s : Settings) {realm realm' : String} (differ : realm ≠ realm') :
    ((∃ p q, PlanOf s.clients realm p ∧ PlanOf s.clients realm' q ∧
        key s.secretKeyPrefix realm p.clientId = key s.secretKeyPrefix realm' q.clientId) ↔
      ∃ p q, PlanOf s.clients realm p ∧ PlanOf s.clients realm' q ∧
        (Overlap realm p.clientId realm' q.clientId ∨
          Overlap realm' q.clientId realm p.clientId)) ∧
    ('_' ∉ realm.toList → '_' ∉ realm'.toList → ∀ p q, PlanOf s.clients realm p →
      PlanOf s.clients realm' q →
      key s.secretKeyPrefix realm p.clientId ≠ key s.secretKeyPrefix realm' q.clientId) ∧
    (s.clients = .default → ∀ p q, PlanOf s.clients realm p → PlanOf s.clients realm' q →
      key s.secretKeyPrefix realm p.clientId ≠ key s.secretKeyPrefix realm' q.clientId) := by
  refine ⟨?_, ?_, fun usual p q hp hq => ?_⟩
  · simp only [key_eq_iff s.secretKeyPrefix differ]
  · intro plain plain' p q _ _ same
    rcases (key_eq_iff s.secretKeyPrefix differ).mp same with overlap | overlap
    · exact plain' overlap.underscore_in_name
    · exact plain overlap.underscore_in_name
  · rw [usual] at hp hq
    exact default_keys_differ s.secretKeyPrefix differ hp hq

/-- Settings that are accepted, with one client's id at the end of another one's. -/
def suffixed : Settings :=
  { Settings.default with
    provider := { ProviderSettings.default with baseUrl := "http://[::1]:8080" }
    clients := { ClientSettings.default with
      moduleClientId := "test_client", impersonationClientId := "client" } }

theorem suffixed_share :
    "acme" ≠ "acme_test" ∧ ∃ p q, PlanOf suffixed.clients "acme" p ∧
      PlanOf suffixed.clients "acme_test" q ∧
      key suffixed.secretKeyPrefix "acme" p.clientId =
        key suffixed.secretKeyPrefix "acme_test" q.clientId :=
  ⟨by decide, (tenants_share_secret_iff suffixed (by decide)).1.mpr
    ⟨_, _, .modules 0, .impersonation 0, .inl ⟨"test", rfl, rfl⟩⟩⟩

/-- Accepted settings and valid names do not always keep the secrets of two tenants apart. -/
theorem secrets_not_always_apart :
    ¬ ∀ (s : Settings) (realm realm' : String) (p q : ClientPlan), s.check = .ok () →
      RealmName.isValid realm = true → RealmName.isValid realm' = true → realm ≠ realm' →
      PlanOf s.clients realm p → PlanOf s.clients realm' q →
      key s.secretKeyPrefix realm p.clientId ≠ key s.secretKeyPrefix realm' q.clientId := by
  intro apart
  have accepted : suffixed.check = .ok () := rfl
  exact apart suffixed "acme" "acme_test" _ _ accepted rfl rfl (by decide) (.modules 0)
    (.impersonation 0) rfl

end Tenancy.Secret
