import Tenancy.Facility
import Tenancy.Proofs.Http.Requestable
import Tenancy.Proofs.Program.Runs

/-!
# Telling requests apart

A request says which call it was made for as far as its method and the end of its path say so: a
realm is created by a POST whose path ends in `realms`, which no other POST does, and nothing but
the removal of a realm is a DELETE. Requests for tokens carry no token. A call is carried out by one
exchange of its request, or by none if the request cannot be put together or sent.
-/

namespace Tenancy

/-! ## The last segment of a path -/

namespace Url

/-- A segment that stands in a path as it is. -/
def Plain (s : String) : Prop :=
  isUnwritable s = false ∧ ∀ scheme parts, (push scheme parts s).getLast? = some s

theorem Plain.of_chars {s : String} (writable : isUnwritable s = false)
    (same : ∀ special, Percent.encodeChars (inSegmentSet special)
      (s.toList.filter fun c => !isIgnored c) = s.toList)
    (down : isDoubleDot s.toList = false) (named : isDot s.toList = false) : Plain s := by
  refine ⟨writable, fun scheme parts => ?_⟩
  unfold push
  simp only [same, down, named, Bool.false_eq_true, if_false, String.ofList_toList]
  split
  · rfl
  · exact List.getLast?_concat

theorem plain_realms : Plain "realms" := .of_chars rfl (by decide) rfl rfl
theorem plain_realm : Plain "realm" := .of_chars rfl (by decide) rfl rfl
theorem plain_roles : Plain "roles" := .of_chars rfl (by decide) rfl rfl
theorem plain_clients : Plain "clients" := .of_chars rfl (by decide) rfl rfl
theorem plain_client : Plain "client" := .of_chars rfl (by decide) rfl rfl

/-- Where a path ends, if it ends in a segment. -/
def end? (u : Url) : Option String :=
  match u.path with
  | .segments parts => parts.getLast?
  | .flat _ => none

theorem join_end {base u : Url} {segments : List String} {s : String} (plain : Plain s)
    (h : base.join? (segments ++ [s]) = some u) : u.end? = some s := by
  unfold join? at h
  split at h
  · cases h
  · obtain rfl := Option.some.inj h
    have kept : ([s].filter fun s => !isUnwritable s) = [s] := by simp [plain.1]
    simp only [end?, List.filter_append, kept, List.foldl_append, List.foldl_cons, List.foldl_nil]
    exact plain.2 _ _

/-- The realm of a name has a URL below the base, and a server can be asked for it. -/
def ServesRealm (base : Url) (name : String) : Prop :=
  ∃ u, base.join? ["admin", "realms", name] = some u ∧ u.Requestable

end Url

namespace Provider

variable {base : Url} {token : Token} {c : Call} {r : Http.Request}

/-! ## The request of a call -/

/-- How the request of a call is made from its draft. -/
structure Requested (base : Url) (token : Token) (d : Draft) (r : Http.Request) : Prop where
  method : r.method = d.method
  url : ∃ u, base.join? d.path = some u ∧ (d.field = none → r.url = u)
  headers : r.headers = [("authorization", "Bearer " ++ token)] ∨
    r.headers = [("authorization", "Bearer " ++ token), ("content-type", "application/json")]

theorem Draft.requested {d : Draft} (h : d.request base token = .ok r) :
    Requested base token d r := by
  unfold Draft.request at h
  split at h
  · cases h
  · next u joined =>
    obtain rfl := Except.ok.inj h
    refine ⟨?_, ⟨u, joined, fun none => ?_⟩, ?_⟩
    · cases d.body <;> rfl
    · rw [none]
      cases d.body <;> rfl
    · cases d.body
      · exact .inl rfl
      · exact .inr rfl

theorem Call.requested (h : c.request base token = .ok r) :
    ∃ d, c.draft = .ok d ∧ Requested base token d r := by
  unfold Call.request at h
  cases hd : c.draft with
  | error e => rw [hd] at h; cases h
  | ok d => rw [hd] at h; exact ⟨d, rfl, Draft.requested h⟩

theorem Call.request_of_join {d : Draft} (draft : c.draft = .ok d)
    (joins : (base.join? d.path).isSome) : ∃ r, c.request base token = .ok r := by
  obtain ⟨u, joined⟩ := Option.isSome_iff_exists.mp joins
  unfold Call.request Draft.request
  rw [draft]
  simp only [bind, Except.bind, joined]
  exact ⟨_, rfl⟩

theorem Requested.authorized {d : Draft} (h : Requested base token d r) :
    r.header? "authorization" = some ("Bearer " ++ token) := by
  unfold Http.Request.header?
  rcases h.headers with headers | headers <;> rw [headers] <;> rfl

theorem Requested.headers_valid {d : Draft} (h : Requested base token d r) :
    (∀ h ∈ r.headers, Http.isHeaderValue h.2 = true) ↔
      Http.isHeaderValue ("Bearer " ++ token) = true := by
  have json : Http.isHeaderValue "application/json" = true := rfl
  rcases h.headers with headers | headers <;> simp [headers, json]

/-- A request can be sent if its token can be and its URL can be requested. -/
theorem Requested.sendable {d : Draft} (h : Requested base token d r) :
    r.defect? = none ↔ Http.isHeaderValue ("Bearer " ++ token) = true ∧ r.url.Requestable := by
  rw [Http.Request.defect?_eq_none, h.headers_valid]

theorem Requested.url_end {d : Draft} (h : Requested base token d r) (segments : List String)
    {s : String} (plain : Url.Plain s) (field : d.field = none) (path : d.path = segments ++ [s]) :
    r.url.end? = some s := by
  obtain ⟨u, joined, url⟩ := h.url
  rw [url field]
  exact Url.join_end plain (path ▸ joined)

theorem updatePermission_put {realm server : String} {permission : Wire.Policy} {d : Draft}
    (h : (Call.updatePermission realm server permission).draft = .ok d) : d.method = .put := by
  simp only [Call.draft] at h
  split at h
  · cases h; rfl
  · cases h

/-- What a call is if it asks by POST: the creation of a realm, or something whose path does not end
where realms are created. -/
theorem Call.of_post (h : c.request base token = .ok r) (post : r.method = .post) :
    (∃ realm, c = .createRealm realm) ∨ r.url.end? ≠ some "realms" := by
  obtain ⟨d, hd, req⟩ := Call.requested h
  have method : d.method = .post := req.method ▸ post
  cases c with
  | createRealm realm => exact .inl ⟨realm, rfl⟩
  | createRole realm role =>
    cases hd
    rw [req.url_end ["admin", "realms", realm] Url.plain_roles rfl rfl]
    exact .inr (by decide)
  | createClient realm client =>
    cases hd
    rw [req.url_end ["admin", "realms", realm] Url.plain_clients rfl rfl]
    exact .inr (by decide)
  | addRoles realm user roles =>
    cases hd
    rw [req.url_end ["admin", "realms", realm, "users", user, "role-mappings"]
      Url.plain_realm rfl rfl]
    exact .inr (by decide)
  | createPolicy realm server policy =>
    cases hd
    rw [req.url_end ["admin", "realms", realm, "clients", server, "authz",
      "resource-server", "policy"] Url.plain_client rfl rfl]
    exact .inr (by decide)
  | updatePermission realm server permission =>
    rw [updatePermission_put hd] at method
    cases method
  | _ => cases hd; cases method

/-- No other call has the request of a realm's creation. -/
theorem Call.of_createRealm {realm : Wire.Realm} {token' : Token}
    (h : (Call.createRealm realm).request base token' = .ok r)
    (h' : c.request base token = .ok r) : ∃ realm', c = .createRealm realm' := by
  obtain ⟨d, hd, req⟩ := Call.requested h
  cases hd
  have ends := req.url_end ["admin"] Url.plain_realms rfl rfl
  rcases Call.of_post h' req.method with found | other
  · exact found
  · exact (other ends).elim

/-- Nothing is asked for by DELETE but the removal of a realm. -/
theorem Call.of_delete (h : c.request base token = .ok r) (delete : r.method = .delete) :
    ∃ name, c = .deleteRealm name := by
  obtain ⟨d, hd, req⟩ := Call.requested h
  have method : d.method = .delete := req.method ▸ delete
  cases c with
  | deleteRealm name => exact ⟨name, rfl⟩
  | updatePermission realm server permission =>
    rw [updatePermission_put hd] at method
    cases method
  | _ => cases hd; cases method

/-! ## Replies -/

theorem success_heard {reply : Http.Reply} : success reply ≠ .error .unauthorized := by
  unfold success
  split <;> nofun

theorem content_heard {α : Type} {codec : Json.Codec α} {reply : Http.Reply} :
    content codec reply ≠ .error .unauthorized := by
  unfold content
  split
  · nofun
  · cases codec.read _ <;> nofun

theorem value_heard {α : Type} {codec : Json.Codec α} {reply : Http.Reply} :
    value codec reply ≠ .error .unauthorized := by
  unfold value
  cases hs : success reply with
  | error e => exact fun h => success_heard (hs.trans (by cases h; rfl))
  | ok reply => exact content_heard

theorem receipt_heard {reply : Http.Reply} : receipt reply ≠ .error .unauthorized := by
  unfold receipt
  split <;> nofun

theorem map_heard {α β : Type} {f : α → β} {a : Except ProviderError α}
    (h : a ≠ .error .unauthorized) : a.map f ≠ .error .unauthorized := by
  cases a with
  | ok v => nofun
  | error e => exact fun he => h (by cases he; rfl)

theorem absent_heard {α : Type} {p : Prop} [Decidable p] {v : α} {a : Except ProviderError α}
    (h : a ≠ .error .unauthorized) : (if p then .ok v else a) ≠ .error .unauthorized := by
  split
  · nofun
  · exact h

/-- No reply that is read says that the token was rejected. -/
theorem Call.read_heard {reply : Http.Reply} : c.read reply ≠ .error .unauthorized := by
  cases c with
  | findRealm | findRole => exact absent_heard (map_heard value_heard)
  | createRealm | createRole | createClient | createPolicy => exact receipt_heard
  | updateRealm | addRoles | updatePermission => exact map_heard success_heard
  | deleteRealm => exact absent_heard (map_heard success_heard)
  | findClients => exact map_heard value_heard
  | _ => exact value_heard

/-- A call finds its token rejected by a reply that says so. -/
theorem Call.answer_rejected {o : Http.Outcome} (h : c.answer o = .error .unauthorized) :
    ∃ reply, o = .ok reply ∧ reply.status = .unauthorized := by
  cases o with
  | error cause => cases h
  | ok reply =>
    unfold Call.answer at h
    by_cases rejected : reply.status = .unauthorized
    · exact ⟨reply, rfl, rejected⟩
    · simp only [if_neg rejected] at h
      exact (Call.read_heard h).elim

/-! ## Exchanges -/

variable {js : List Outside.Event}

theorem runs_send {o : Http.Outcome} (h : (Outside.send r).Runs js o) :
    (∃ cause, r.defect? = some cause ∧ o = .error cause ∧ js = []) ∨
      r.defect? = none ∧ js = [⟨.exchange r, o⟩] := by
  unfold Outside.send at h
  cases hd : r.defect? with
  | some cause =>
    rw [hd] at h
    obtain ⟨rfl, rfl⟩ := h.of_done
    exact .inl ⟨cause, rfl, rfl, rfl⟩
  | none =>
    rw [hd] at h
    exact .inr ⟨rfl, h.of_query⟩

/-- A call is one exchange of its request, or a failure that nobody outside notices. -/
theorem Call.runs_perform {a : Except ProviderError c.Answer}
    (h : (c.perform base token).Runs js a) :
    (js = [] ∧ (∀ r, c.request base token = .ok r → r.defect? ≠ none) ∧ ∀ v, a ≠ .ok v) ∨
      ∃ r o, c.request base token = .ok r ∧ r.defect? = none ∧ js = [⟨.exchange r, o⟩] ∧
        a = c.answer o := by
  unfold Call.perform at h
  cases hr : c.request base token with
  | error e =>
    rw [hr] at h
    obtain ⟨rfl, rfl⟩ := h.of_done
    refine .inl ⟨rfl, fun _ he => ?_, fun _ he => ?_⟩ <;> cases he
  | ok r =>
    rw [hr] at h
    obtain ⟨js₁, js₂, o, rfl, sent, rest⟩ := Program.Runs.of_bind h
    obtain ⟨rfl, rfl⟩ := rest.of_done
    rw [List.append_nil]
    rcases runs_send sent with ⟨cause, defect, rfl, rfl⟩ | ⟨fine, rfl⟩
    · exact .inl ⟨rfl, fun r' he => by cases he; simp [defect], fun _ he => by cases he⟩
    · exact .inr ⟨r, o, rfl, fine, rfl, rfl⟩

/-! ## The realm of a name -/

/-- The calls of which a retirement is made: the realm of a name is looked for, and it is removed. -/
def Retires (name : String) (c : Call) : Prop := c = .findRealm name ∨ c = .deleteRealm name

variable {name : String}

theorem Retires.draft (h : Retires name c) : ∃ d, c.draft = .ok d ∧
    d.path = ["admin", "realms", name] ∧ d.field = none ∧ d.method ≠ .post := by
  rcases h with rfl | rfl
  · exact ⟨_, rfl, rfl, rfl, nofun⟩
  · exact ⟨_, rfl, rfl, rfl, nofun⟩

theorem Retires.requested (h : Retires name c) (request : c.request base token = .ok r) :
    ∃ d, Requested base token d r ∧
      d.path = ["admin", "realms", name] ∧ d.field = none ∧ d.method ≠ .post := by
  obtain ⟨d, draft, about⟩ := h.draft
  obtain ⟨d', draft', made⟩ := Call.requested request
  obtain rfl : d = d' := Except.ok.inj (draft.symm.trans draft')
  exact ⟨d, made, about⟩

/-- Both calls are made at one URL. -/
theorem Retires.joined (h : Retires name c) (request : c.request base token = .ok r) :
    base.join? ["admin", "realms", name] = some r.url := by
  obtain ⟨d, made, path, field, _⟩ := h.requested request
  obtain ⟨u, joined, plain⟩ := made.url
  rw [plain field, ← path, joined]

/-- Such a call gets out if its token can. -/
theorem Retires.request (h : Retires name c) (serves : base.ServesRealm name)
    (usable : Http.isHeaderValue ("Bearer " ++ token) = true) :
    ∃ r, c.request base token = .ok r ∧ r.defect? = none ∧ r.method ≠ .post := by
  obtain ⟨d, draft, path, _⟩ := h.draft
  obtain ⟨u, joined, requestable⟩ := serves
  have joins : (base.join? d.path).isSome := by rw [path, joined]; rfl
  obtain ⟨r, request⟩ : ∃ r, c.request base token = .ok r := Call.request_of_join draft joins
  obtain ⟨_, made, _, _, method⟩ := h.requested request
  obtain rfl : u = r.url := Option.some.inj (joined.symm.trans (h.joined request))
  exact ⟨r, request, made.sendable.mpr ⟨usable, requestable⟩, made.method ▸ method⟩

/-- Where such a call succeeded, the other one gets out as well. -/
theorem Retires.serves (h : Retires name c) {v : c.Answer}
    (run : (c.perform base token).Runs js (.ok v)) : base.ServesRealm name := by
  rcases Call.runs_perform run with ⟨_, _, failed⟩ | ⟨r, o, request, fine, _, _⟩
  · exact (failed v rfl).elim
  · exact ⟨r.url, h.joined request, (Http.Request.defect?_eq_none.mp fine).2⟩

namespace Login

variable {l : Login}

/-- An exchange in which a token was requested and granted. -/
def Grants (l : Login) (t : Token) (j : Outside.Event) : Prop :=
  ∃ secret password reply, j = ⟨.exchange (l.request secret password), .ok reply⟩ ∧
    read reply = .ok t

/-- What requesting a token may ask: for secrets, or for the token itself. -/
def Asks (l : Login) (j : Outside.Event) : Prop :=
  (∃ key, j.query = .readSecret key) ∨
    ∃ secret password, j.query = .exchange (l.request secret password)

theorem runs_lookup {key : String} {v : Option String} (h : (lookup key).Runs js v) :
    ∀ j ∈ js, l.Asks j := by
  obtain ⟨js₁, js₂, a, rfl, asked, rest⟩ := Program.Runs.of_bind h
  obtain rfl := asked.of_query
  have nothing : js₂ = [] := by cases a <;> exact rest.of_done.1
  rw [nothing]
  intro j hj
  obtain rfl := List.mem_singleton.mp hj
  exact .inl ⟨key, rfl⟩

/-- What a request for a token comes to. -/
def ask (l : Login) (secret password : Option String) :
    Program Outside (Except ProviderError Token) := do
  match ← Outside.send (l.request secret password) with
  | .error cause => return .error (.transport cause)
  | .ok r => return read r

theorem runs_ask {secret password : Option String} {a : Except ProviderError Token}
    (h : (l.ask secret password).Runs js a) :
    (∀ j ∈ js, l.Asks j) ∧ ∀ t, a = .ok t → ∃ j ∈ js, l.Grants t j := by
  obtain ⟨js₁, js₂, o, rfl, sent, rest⟩ := Program.Runs.of_bind h
  rcases runs_send sent with ⟨cause, _, rfl, rfl⟩ | ⟨_, rfl⟩
  · obtain ⟨rfl, rfl⟩ := rest.of_done
    exact ⟨fun j hj => (List.not_mem_nil hj).elim, fun t ht => by cases ht⟩
  cases o with
  | error cause =>
    obtain ⟨rfl, rfl⟩ := rest.of_done
    refine ⟨fun j hj => ?_, fun t ht => by cases ht⟩
    obtain rfl := List.mem_singleton.mp hj
    exact .inr ⟨secret, password, rfl⟩
  | ok reply =>
    obtain ⟨rfl, rfl⟩ := rest.of_done
    refine ⟨fun j hj => ?_, fun t ht => ?_⟩
    · obtain rfl := List.mem_singleton.mp hj
      exact .inr ⟨secret, password, rfl⟩
    · exact ⟨_, List.mem_cons_self, secret, password, reply, rfl, ht⟩

theorem runs_issue {a : Except ProviderError Token} (h : l.issue.Runs js a) :
    (∀ j ∈ js, l.Asks j) ∧ ∀ t, a = .ok t → ∃ j ∈ js, l.Grants t j := by
  have after {js₁ js₂ : List Outside.Event} {secret password : Option String}
      (before : ∀ j ∈ js₁, l.Asks j) (run : (l.ask secret password).Runs js₂ a) :
      (∀ j ∈ js₁ ++ js₂, l.Asks j) ∧ ∀ t, a = .ok t → ∃ j ∈ js₁ ++ js₂, l.Grants t j := by
    obtain ⟨asks, granted⟩ := runs_ask run
    refine ⟨fun j hj => (List.mem_append.mp hj).elim (before j) (asks j), fun t ht => ?_⟩
    obtain ⟨j, hj, grants⟩ := granted t ht
    exact ⟨j, List.mem_append_right _ hj, grants⟩
  obtain ⟨js₁, js₂, secret, rfl, first, rest⟩ := Program.Runs.of_bind h
  have secrets := runs_lookup (l := l) first
  cases hg : l.settings.grantType with
  | clientCredentials =>
    rw [hg] at rest
    exact after secrets rest
  | password =>
    rw [hg] at rest
    obtain ⟨js₃, js₄, password, rfl, second, rest⟩ := Program.Runs.of_bind rest
    rw [← List.append_assoc]
    refine after (fun j hj => ?_) rest
    exact (List.mem_append.mp hj).elim (secrets j) (runs_lookup second j)

theorem Asks.unauthorized {r : Http.Request} {o : Http.Outcome} (h : l.Asks ⟨.exchange r, o⟩) :
    r.header? "authorization" = none := by
  rcases h with ⟨key, hq⟩ | ⟨secret, password, hq⟩
  · cases hq
  · cases hq
    rfl

end Login

/-- An exchange whose request carries a token is the one exchange of a call. -/
theorem Endpoint.runs_exchange {e : Endpoint} {ev : Facility.Event} {o : Http.Outcome}
    (h : (e.find ev.query).Runs js ev.answer) (hj : ⟨.exchange r, o⟩ ∈ js)
    (carries : r.header? "authorization" ≠ none) :
    ∃ token c, ev = ⟨.call token c, c.answer o⟩ ∧ c.request e.base token = .ok r ∧
      r.defect? = none ∧ js = [⟨.exchange r, o⟩] := by
  obtain ⟨q, a⟩ := ev
  cases q with
  | call token c =>
    rcases Call.runs_perform h with ⟨rfl, _⟩ | ⟨r', o', hr, fine, rfl, ha⟩
    · cases hj
    · cases List.mem_singleton.mp hj
      exact ⟨token, c, by rw [← ha], hr, fine, rfl⟩
  | issueToken => exact (carries ((Login.runs_issue h).1 _ hj).unauthorized).elim
  | readSecret key =>
    obtain rfl := Program.Runs.of_query h
    cases List.mem_singleton.mp hj
  | writeSecret key value =>
    obtain rfl := Program.Runs.of_query h
    cases List.mem_singleton.mp hj
  | entropy =>
    obtain rfl := Program.Runs.of_query h
    cases List.mem_singleton.mp hj
  | now =>
    obtain rfl := Program.Runs.of_query h
    cases List.mem_singleton.mp hj

end Provider

end Tenancy
