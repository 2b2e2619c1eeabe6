import Tenancy.Proofs.Provider.Answers
import Tenancy.Proofs.Provider.Granting
import Tenancy.Proofs.Text.Form

/-!
# How a token is asked for

A token is asked for with one form, once the secrets that go into it have been looked up. What a lookup
says comes in if it is a secret, and a lookup that fails says as much as one that finds nothing. What
becomes of the answer does not depend on what was asked.
-/

namespace Tenancy.Provider.Login

open Reception

variable {base : Url} {s : ProviderSettings} {l : Login} {js : List Outside.Event}
  {r : Except ProviderError Token}

/-- What the secret store answers when it is asked for a key. -/
abbrev Found := Except Fault (Option String)

/-- The lookups before a token is asked for, and what they found. The password is looked up only for the
grant that takes one. -/
def lookups (s : ProviderSettings) (secret password : Found) : List Outside.Event :=
  ⟨.readSecret s.clientSecretKey, secret⟩ ::
    match s.grantType with
    | .password => [⟨.readSecret s.passwordKey, password⟩]
    | .clientCredentials => []

/-- What a client proves itself with. -/
def clientPart : Found → List (String × String)
  | .ok (some secret) => [("client_secret", secret)]
  | _ => []

/-- What a user proves themselves with: nothing without the password, not even the name. -/
def userPart (name : String) : GrantType → Found → List (String × String)
  | .password, .ok (some password) => [("username", name), ("password", password)]
  | _, _ => []

/-- The fields of the form that a token is asked for with. -/
def credentials (s : ProviderSettings) (secret password : Found) : List (String × String) :=
  [("grant_type", s.grantType.text), ("client_id", s.clientId)] ++ clientPart secret ++
    userPart s.username s.grantType password

/-- The request for a token with the secrets that were found. -/
structure Sends (base : Url) (s : ProviderSettings) (secret password : Found) (q : Http.Request) :
    Prop where
  method : q.method = .post
  url : base.join? ["realms", s.adminRealm, "protocol", "openid-connect", "token"] = some q.url
  type : q.header? "content-type" = some "application/x-www-form-urlencoded"
  form : ∃ body, q.body = some body ∧ Form.decode (Utf8.encode body) =
    (credentials s secret password).map fun f => (Utf8.encode f.1, Utf8.encode f.2)

/-- The body is one document that spells the grant. -/
def Spells (bytes : Bytes) (g : Grant) : Prop :=
  ∃ d, Json.Doc.ofGlyphs (Utf8.glyphs bytes) = (d, false) ∧ Grant.Spelt d g

/-- What becomes of the answers. -/
structure Decides (answer : Http.Outcome → Except ProviderError Token) : Prop where
  lost : ∀ cause, answer (.error cause) = .error (.transport cause)
  rejected : ∀ r, r.status.code = 401 → answer (.ok r) = .error .unauthorized
  refused : ∀ r, r.status.code ≠ 401 → r.status.isSuccess = false →
    answer (.ok r) = .error (.status r.status r.diagnostic)
  broken : ∀ r cause, r.status.isSuccess = true → r.body = .error cause →
    answer (.ok r) = .error (.transport cause)
  granted : ∀ r bytes g, r.status.isSuccess = true → r.body = .ok bytes → Spells bytes g →
    (∀ kind, g.tokenType = some kind → kind.toLower = "bearer") → answer (.ok r) = .ok g.accessToken
  foreign : ∀ r bytes g kind, r.status.isSuccess = true → r.body = .ok bytes → Spells bytes g →
    g.tokenType = some kind → kind.toLower ≠ "bearer" →
    answer (.ok r) = .error (.unreadable ("unsupported token type: " ++ kind))
  unreadable : ∀ r bytes, r.status.isSuccess = true → r.body = .ok bytes → (∀ g, ¬ Spells bytes g) →
    ∃ message, answer (.ok r) = .error (.unreadable message)

/-! ## The lookups -/

/-- What comes in of what was found. -/
def told : Found → Option String
  | .ok found => found
  | .error _ => none

/-- What comes in of the password. -/
def shared (s : ProviderSettings) (password : Found) : Option String :=
  match s.grantType with
  | .password => told password
  | .clientCredentials => none

theorem lookup_eq (key : String) :
    lookup key = .ask (.readSecret key) fun found => .done (told found) := by
  refine congrArg (Program.ask (I := Outside) (.readSecret key)) (funext fun found => ?_)
  cases found <;> rfl

theorem issue_eq (l : Login) : l.issue = .ask (.readSecret l.settings.clientSecretKey) fun secret =>
    match l.settings.grantType with
    | .password => .ask (.readSecret l.settings.passwordKey) fun password =>
        l.ask (told secret) (told password)
    | .clientCredentials => l.ask (told secret) none := by
  unfold issue
  rw [lookup_eq, lookup_eq]
  cases l.settings.grantType <;> rfl

/-- First the secrets are looked up, and then the token is asked for. -/
theorem runs_issue_iff : l.issue.Runs js r ↔ ∃ secret password js',
    js = lookups l.settings secret password ++ js' ∧
      (l.ask (told secret) (shared l.settings password)).Runs js' r := by
  rw [issue_eq]
  unfold lookups shared
  constructor
  · intro run
    obtain ⟨secret, js', rfl, rest⟩ := run.of_ask
    cases grant : l.settings.grantType with
    | password =>
      rw [grant] at rest
      obtain ⟨password, js'', rfl, asked⟩ := rest.of_ask
      exact ⟨secret, password, js'', rfl, asked⟩
    | clientCredentials =>
      -- Nobody asks for the password, so it does not matter what would have been found.
      rw [grant] at rest
      exact ⟨secret, .ok none, js', rfl, rest⟩
  · rintro ⟨secret, password, js', rfl, rest⟩
    refine .ask ?_
    cases grant : l.settings.grantType with
    | password =>
      rw [grant] at rest
      exact .ask rest
    | clientCredentials =>
      rw [grant] at rest
      exact rest

/-! ## The request -/

theorem ofSettings_eq_ok : ofSettings base s = .ok l ↔
    base.join? ["realms", s.adminRealm, "protocol", "openid-connect", "token"] = some l.endpoint ∧
      l.settings = s := by
  obtain ⟨endpoint, settings⟩ := l
  unfold ofSettings
  split
  · next u joined =>
    rw [joined, Except.ok.injEq, Login.mk.injEq, Option.some.injEq, eq_comm (a := s)]
  · next none => simp [none]

theorem fields_told (s : ProviderSettings) (secret password : Found) :
    fields s (told secret) (shared s password) = credentials s secret password := by
  unfold fields shared credentials
  have client : ((told secret).map fun v => ("client_secret", v)).toList = clientPart secret := by
    rcases secret with f | (_ | v) <;> rfl
  rw [client]
  cases s.grantType with
  | password => rcases password with f | (_ | v) <;> rfl
  | clientCredentials => rfl

theorem request_sends (made : ofSettings base s = .ok l) (secret password : Found) :
    Sends base s secret password (l.request (told secret) (shared s password)) := by
  obtain ⟨url, rfl⟩ := ofSettings_eq_ok.mp made
  refine ⟨rfl, url, rfl, _, rfl, ?_⟩
  rw [fields_told, Form.decode_encode]

theorem headers_request {secret password : Option String} :
    ∀ h ∈ (l.request secret password).headers, Http.isHeaderValue h.2 = true := by
  intro h there
  obtain rfl := List.mem_singleton.mp there
  rfl

/-! ## The answer -/

/-- What becomes of what comes of the request. -/
def answer : Http.Outcome → Except ProviderError Token
  | .error cause => .error (.transport cause)
  | .ok r => read r

theorem ask_requestable {secret password : Option String} (web : l.endpoint.Requestable) :
    l.ask secret password =
      .ask (.exchange (l.request secret password)) fun o => .done (answer o) := by
  have fine : (l.request secret password).defect? = none :=
    Http.Request.defect?_eq_none.mpr ⟨headers_request, web⟩
  unfold ask Outside.send
  rw [fine]
  refine congrArg (Program.ask (I := Outside) (.exchange _)) (funext fun outcome => ?_)
  cases outcome <;> rfl

theorem ask_unrequestable {secret password : Option String} {why : String}
    (stuck : l.endpoint.obstacle? = some why) :
    l.ask secret password = .done (.error (.transport (Http.unrequestable l.endpoint why))) := by
  have defect : (l.request secret password).defect? = some (Http.unrequestable l.endpoint why) :=
    Http.Request.defect?_of_obstacle headers_request stuck
  unfold ask Outside.send
  rw [defect]
  rfl

theorem spells_iff {bytes : Bytes} {g : Grant} :
    Spells bytes g ↔ Grant.record.codec.read (Utf8.glyphs bytes) = .ok g :=
  Grant.read_eq_ok.symm

theorem known_of_success {s : Status} (success : s.isSuccess = true) : s ≠ .unauthorized :=
  mt unauthorized_iff.mp (not_rejected success).1

theorem answer_decides : Decides answer where
  lost _ := rfl
  rejected r code := if_pos (unauthorized_iff.mpr code)
  refused r code failed := by
    simp [answer, read, mt unauthorized_iff.mp code, failed]
  broken r cause success body := by
    simp [answer, read, known_of_success success, success, body]
  granted r bytes g success body spells bearer := by
    simp only [answer, read, known_of_success success, success, body, spells_iff.mp spells, if_false,
      Bool.not_true, Bool.false_eq_true]
    cases kind : g.tokenType with
    | none => rfl
    | some kind' => exact if_pos (bearer kind' kind)
  foreign r bytes g kind success body spells told other := by
    simp only [answer, read, known_of_success success, success, body, spells_iff.mp spells, told,
      if_false, Bool.not_true, Bool.false_eq_true]
    exact if_neg other
  unreadable r bytes success body none := by
    cases spelt : Grant.record.codec.read (Utf8.glyphs bytes) with
    | ok g => exact (none g (spells_iff.mpr spelt)).elim
    | error e =>
      refine ⟨e.message, ?_⟩
      simp only [answer, read, known_of_success success, success, body, spelt, if_false,
        Bool.not_true, Bool.false_eq_true]

/-- A token is asked for by one request, if the endpoint can be asked at all, and its answer decides. -/
theorem token_asked (made : ofSettings base s = .ok l) :
    ∃ (request : Found → Found → Http.Request) (answer : Http.Outcome → Except ProviderError Token),
      (∀ secret password, Sends base s secret password (request secret password) ∧
        (request secret password).url = l.endpoint) ∧
      Decides answer ∧
      (∀ fault secret password, request (.error fault) password = request (.ok none) password ∧
        request secret (.error fault) = request secret (.ok none)) ∧
      (l.endpoint.Requestable → ∀ js r, l.issue.Runs js r ↔ ∃ secret password outcome,
        js = lookups s secret password ++ [⟨.exchange (request secret password), outcome⟩] ∧
          r = answer outcome) ∧
      (¬ l.endpoint.Requestable → ∃ why, l.endpoint.obstacle? = some why ∧
        ∀ js r, l.issue.Runs js r ↔ ∃ secret password, js = lookups s secret password ∧
          r = .error (.transport (Http.unrequestable l.endpoint why))) := by
  obtain ⟨_, rfl⟩ := ofSettings_eq_ok.mp made
  refine ⟨fun secret password => l.request (told secret) (shared l.settings password), answer,
    fun secret password => ⟨request_sends made secret password, rfl⟩, answer_decides,
    fun fault secret password => ⟨rfl, rfl⟩, fun web js r => ?_, fun web => ?_⟩
  · rw [runs_issue_iff]
    constructor
    · rintro ⟨secret, password, js', rfl, asked⟩
      rw [ask_requestable web] at asked
      obtain ⟨outcome, js'', rfl, ended⟩ := asked.of_ask
      obtain ⟨rfl, rfl⟩ := ended.of_done
      exact ⟨secret, password, outcome, rfl, rfl⟩
    · rintro ⟨secret, password, outcome, rfl, rfl⟩
      refine ⟨secret, password, _, rfl, ?_⟩
      rw [ask_requestable web]
      exact .ask (.done _)
  · obtain ⟨why, stuck⟩ := Url.exists_obstacle web
    refine ⟨why, stuck, fun js r => ?_⟩
    rw [runs_issue_iff]
    constructor
    · rintro ⟨secret, password, js', rfl, asked⟩
      rw [ask_unrequestable stuck] at asked
      obtain ⟨rfl, rfl⟩ := asked.of_done
      exact ⟨secret, password, List.append_nil _, rfl⟩
    · rintro ⟨secret, password, rfl, rfl⟩
      refine ⟨secret, password, [], (List.append_nil _).symm, ?_⟩
      rw [ask_unrequestable stuck]
      exact .done _

/-- A grant as a server may spell it. -/
def spelling : Bytes :=
  Utf8.encode "\x7b\"access_token\":\"tok\",\"token_type\":\"BEARER\"\x7d"

/-- No secret of the client is there, and the password is not written as it is. -/
theorem token_asked_near : ∃ l q, ofSettings near .default = .ok l ∧
    Sends near .default (.ok none) (.ok (some "p&s")) q ∧
    l.issue.Runs [⟨.readSecret "keycloak-admin-client-secret", .ok none⟩,
      ⟨.readSecret "keycloak-admin-password", .ok (some "p&s")⟩,
      ⟨.exchange q, .ok ⟨.ok, [], .ok spelling⟩⟩] (.ok "tok") := by
  obtain ⟨l, made⟩ := ofSettings_ok (u := near) rfl .default
  let endpoint : Url := { near with
    path := .segments ["realms", "master", "protocol", "openid-connect", "token"] }
  have url : endpoint = l.endpoint := Option.some.inj (ofSettings_eq_ok.mp made).1
  have web : l.endpoint.Requestable := by
    rw [← url]
    decide
  obtain ⟨request, answer, sends, decides, _, runs, _⟩ := token_asked made
  refine ⟨l, _, made, (sends _ _).1, (runs web _ _).mpr ⟨_, _, _, rfl, ?_⟩⟩
  have found : (Grant.record.codec.read (Utf8.glyphs spelling)).toOption.map
      (fun g => (g.accessToken, g.tokenType)) = some ("tok", some "BEARER") := by decide +kernel
  cases spelt : Grant.record.codec.read (Utf8.glyphs spelling) with
  | error e =>
    rw [spelt] at found
    cases found
  | ok g =>
    obtain ⟨token, kind⟩ := g
    rw [spelt] at found
    cases found
    refine (decides.granted _ _ _ rfl rfl (spells_iff.mpr spelt) ?_).symm
    rintro _ ⟨⟩
    decide +kernel

/-- A login at the directory. -/
def directoryLogin : Login where
  endpoint := { directory with
    path := .segments ["realms", "master", "protocol", "openid-connect", "token"] }
  settings := { ProviderSettings.default with baseUrl := "ldap://kc/" }

/-- A base URL that is accepted need not be one that tokens can be asked from. -/
theorem token_not_asked : ¬ ∀ (s : ProviderSettings) (base : Url) (l : Login)
    (js : List Outside.Event) (r : Except ProviderError Token),
    baseUrl "keycloak.base_url" s.baseUrl = .ok base → ofSettings base s = .ok l →
    l.issue.Runs js r → ∃ request outcome, ⟨.exchange request, outcome⟩ ∈ js := by
  intro all
  have made : ofSettings directory directoryLogin.settings = .ok directoryLogin :=
    ofSettings_eq_ok.mpr ⟨rfl, rfl⟩
  have run : directoryLogin.issue.Runs (lookups directoryLogin.settings (.ok none) (.ok none))
      (.error (.transport (Http.unrequestable directoryLogin.endpoint
        "URL scheme is not allowed"))) := .ask (.ask (.done _))
  obtain ⟨request, outcome, there⟩ := all _ _ _ _ _ rfl made run
  rcases List.mem_cons.mp there with same | there
  · cases same
  · cases List.mem_singleton.mp there

end Tenancy.Provider.Login
