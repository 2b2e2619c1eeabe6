import Tenancy.Proofs.Json.Reading
import Tenancy.Proofs.Provider.Requests
import Tenancy.Proofs.Wire.RoundTrip

/-!
# What exchanges say

A call that succeeds is one exchange, and its value stands in the reply. Two kinds of exchanges are
told from all others by their requests alone: clients are looked up by the only requests with a query
of their own, and a permission is updated by a PUT whose body can be read as a policy, which the body
of the PUT that enables permissions cannot.
-/

namespace Tenancy

namespace Url

theorem withField_query (u : Url) (name value : String) :
    (u.withField name value).query ≠ u.query := by
  have length {text text' : String} (same : text = text') : text.length = text'.length := by rw [same]
  intro same
  cases h : u.query with
  | none => simp [withField, h] at same
  | some q =>
    simp only [withField, h] at same
    split at same
    · next empty =>
      have grown := length (Option.some.inj same)
      rw [String.isEmpty_iff.mp empty] at grown
      simp [Form.encodeField, String.length_append] at grown
    · have grown := length (Option.some.inj same)
      have mark : "&".length = 1 := rfl
      simp only [String.length_append] at grown
      omega

theorem join_query {base u : Url} {segments : List String} (h : base.join? segments = some u) :
    u.query = base.query := by
  unfold join? at h
  split at h
  · cases h
  · obtain rfl := Option.some.inj h
    rfl

end Url

namespace Provider

open Json (Codec)

variable {base : Url} {e : Endpoint} {t t' : Token} {c : Call} {r : Http.Request}
  {js : List Outside.Event} {es : List Facility.Event} {j : Outside.Event}

/-! ## Replies to calls -/

/-- In the exchange the request of the call was answered by the reply. -/
def Answered (base : Url) (t : Token) (c : Call) (reply : Http.Reply) (j : Outside.Event) : Prop :=
  ∃ r, c.request base t = .ok r ∧ j = ⟨.exchange r, .ok reply⟩

/-- The reply is a success whose body spells the value. -/
def Spells {α : Type} (codec : Codec α) (reply : Http.Reply) (v : α) : Prop :=
  reply.status.isSuccess = true ∧
    ∃ bytes, reply.body = .ok bytes ∧ codec.read (Utf8.glyphs bytes) = .ok v

theorem value_eq_ok {α : Type} {codec : Codec α} {reply : Http.Reply} {v : α} :
    value codec reply = .ok v ↔ Spells codec reply v := by
  unfold value success content Spells
  cases reply.status.isSuccess with
  | false => simp [bind, Except.bind]
  | true =>
    cases body : reply.body with
    | error cause => simp [bind, Except.bind, body]
    | ok bytes =>
      cases read : codec.read (Utf8.glyphs bytes) <;>
        simp [bind, Except.bind, Except.mapError, body, read]

theorem updatePermission_accepted {realm server : String} {permission : Wire.Policy}
    {reply : Http.Reply} {v : Unit}
    (h : (Call.updatePermission realm server permission).read reply = .ok v) :
    reply.status.isSuccess = true := by
  simp only [Call.read, success] at h
  split at h
  · next accepted => exact accepted
  · cases h

theorem success_unrejected {s : Status} (h : s.isSuccess = true) : s ≠ .unauthorized := by
  rintro rfl
  cases h

theorem Call.answer_ok {o : Http.Outcome} {v : c.Answer} (h : c.answer o = .ok v) :
    ∃ reply, o = .ok reply ∧ c.read reply = .ok v := by
  cases o with
  | error cause => cases h
  | ok reply =>
    unfold Call.answer at h
    by_cases rejected : reply.status = .unauthorized
    · simp [rejected] at h
    · exact ⟨reply, rfl, by simpa [rejected] using h⟩

/-- A call that succeeds is one exchange, whose reply spells its value. -/
theorem Call.runs_perform_ok {v : c.Answer} (h : (c.perform base t).Runs js (.ok v)) :
    ∃ reply j, js = [j] ∧ Answered base t c reply j ∧ c.read reply = .ok v := by
  rcases Call.runs_perform h with ⟨_, _, failed⟩ | ⟨r, o, hr, _, rfl, answered⟩
  · exact (failed v rfl).elim
  · obtain ⟨reply, rfl, read⟩ := Call.answer_ok answered.symm
    exact ⟨reply, _, rfl, ⟨r, hr, rfl⟩, read⟩

/-- What a call was told over calls, it was told in an exchange. -/
theorem carried_told {v : c.Answer} (carried : Program.Carried e.find es js)
    (told : ⟨.call t c, .ok v⟩ ∈ es) :
    ∃ reply, ∃ j ∈ js, Answered e.base t c reply j ∧ c.read reply = .ok v := by
  obtain ⟨ks, run, within⟩ := carried.sink told
  obtain ⟨reply, j, rfl, answered, read⟩ := Call.runs_perform_ok run
  exact ⟨reply, j, within j List.mem_cons_self, answered, read⟩

/-! ## Lookups of clients -/

theorem Call.request_query (h : c.request base t = .ok r) :
    r.url.query = base.query ∨ ∃ realm clientId, c = .findClients realm clientId := by
  obtain ⟨d, draft, requested⟩ := Call.requested h
  obtain ⟨u, joined, plain⟩ := requested.url
  have unasked (field : d.field = none) : r.url.query = base.query := by
    rw [plain field, Url.join_query joined]
  cases c with
  | findClients realm clientId => exact .inr ⟨realm, clientId, rfl⟩
  | updatePermission realm server permission =>
    simp only [Call.draft] at draft
    split at draft
    · cases draft; exact .inl (unasked rfl)
    · cases draft
  | _ => cases draft; exact .inl (unasked rfl)

/-- No other call has the request of a lookup of clients. -/
theorem Call.of_findClients {realm clientId : String}
    (h : (Call.findClients realm clientId).request base t = .ok r)
    (h' : c.request base t' = .ok r) : ∃ realm' clientId', c = .findClients realm' clientId' := by
  rcases Call.request_query h' with same | found
  · unfold Call.request Call.draft Draft.request at h
    simp only [bind, Except.bind] at h
    split at h
    · cases h
    · next u joined =>
      cases h
      exact (u.withField_query _ _ (same.trans (Url.join_query joined).symm)).elim
  · exact found

/-- What a lookup comes to if it succeeds. -/
theorem findClients_read {realm clientId : String} {reply : Http.Reply} {found : List Wire.Client}
    (h : (Call.findClients realm clientId).read reply = .ok found) :
    ∃ clients, Spells (.list Wire.Client.codec) reply clients ∧
      clients.filter (fun c => c.clientId = clientId) = found := by
  cases read : value (Codec.list Wire.Client.codec) reply with
  | error err =>
    simp only [Call.read, read, Except.map] at h
    cases h
  | ok clients =>
    simp only [Call.read, read, Except.map] at h
    exact ⟨clients, value_eq_ok.mp read, Except.ok.inj h⟩

theorem findClients_answer {realm clientId : String} {reply : Http.Reply}
    {clients : List Wire.Client} (spells : Spells (.list Wire.Client.codec) reply clients) :
    (Call.findClients realm clientId).answer (.ok reply) =
      .ok (clients.filter fun c => c.clientId = clientId) := by
  have heard := success_unrejected spells.1
  simp only [Call.answer, if_neg heard, Call.read, value_eq_ok.mpr spells, Except.map]

/-- The exchange of a lookup carried out a lookup. -/
theorem carried_lookup {realm clientId : String} {reply : Http.Reply}
    (carried : Program.Carried e.find es js) (hj : j ∈ js)
    (answered : Answered e.base t (.findClients realm clientId) reply j) :
    ∃ t' realm' clientId', ⟨.call t' (.findClients realm' clientId'),
      (Call.findClients realm' clientId').answer (.ok reply)⟩ ∈ es := by
  obtain ⟨r, requested, rfl⟩ := answered
  obtain ⟨ev, hev, ks, run, hk⟩ := carried.source hj
  have carries : r.header? "authorization" ≠ none := by
    obtain ⟨d, _, request⟩ := Call.requested requested
    rw [request.authorized]
    nofun
  obtain ⟨t', c, rfl, requested', _, _⟩ := Endpoint.runs_exchange run hk carries
  obtain ⟨realm', clientId', rfl⟩ := Call.of_findClients requested requested'
  exact ⟨t', realm', clientId', hev⟩

/-! ## Updates of permissions -/

open Json in
theorem policy_numberless : Wire.Policy.codec.Numberless := by
  have texts := Codec.string_numberless.list
  refine Record.numberless fun f hf => ?_
  simp only [Wire.Policy.record, List.mem_cons, List.not_mem_nil, or_false] at hf
  rcases hf with rfl | rfl | rfl | rfl | rfl | rfl | rfl | rfl | rfl
  · exact Field.present_numberless Codec.string_numberless
  · exact Field.required_numberless Codec.string_numberless
  · exact Field.present_numberless Codec.string_numberless
  · exact Field.required_numberless Codec.string_numberless
  · exact Field.defaulted_numberless (Codec.choice_numberless _)
  · exact Field.defaulted_numberless (Codec.choice_numberless _)
  · exact Field.omitted_numberless Codec.string_numberless.dict
  · exact Field.present_numberless texts
  · exact Field.present_numberless texts

/-- A policy is read back from its text. -/
theorem policy_encoded (p : Wire.Policy) :
    Wire.Policy.codec.readText (Wire.Policy.codec.encode p).compact = .ok p :=
  (Json.readText_numberless _ (policy_numberless p)).trans <|
    Wire.Policy.codec_solid.toSound.reads p _ .text (Wire.Policy.codec_solid.toSound.shaped p)

/-- What is sent when permissions are to be enabled is no policy. -/
theorem enabling_unread (p : Wire.Policy) :
    Wire.Policy.codec.readText (Json.obj [("enabled", .bool true)]).compact ≠ .ok p := by
  rw [Json.readText_numberless _ (by simp)]
  nofun

/-- The request that puts a permission in place at a resource server. -/
structure Puts (base : Url) (t : Token) (realm server : String) (permission : Wire.Policy)
    (r : Http.Request) : Prop where
  method : r.method = .put
  url : ∃ id, permission.id = some id ∧
    base.join? (serverPath realm server ["permission", "scope", id]) = some r.url
  token : r.header? "authorization" = some ("Bearer " ++ t)
  body : ∃ text, r.body = some text ∧ Wire.Policy.codec.readText text = .ok permission

theorem Call.puts {realm server : String} {permission : Wire.Policy}
    (h : (Call.updatePermission realm server permission).request base t = .ok r) :
    Puts base t realm server permission r := by
  cases named : permission.id with
  | none =>
    simp only [Call.request, Call.draft, named, bind, Except.bind] at h
    cases h
  | some id =>
    simp only [Call.request, Call.draft, named, bind, Except.bind, Draft.request] at h
    split at h
    · cases h
    · next u joined =>
      cases h
      exact ⟨rfl, ⟨id, named, joined⟩, rfl, _, rfl, policy_encoded permission⟩

/-- The exchange of a request that puts some permission in place. -/
def Updates (base : Url) (j : Outside.Event) : Prop :=
  ∃ t realm server permission r, Puts base t realm server permission r ∧ j.query = .exchange r

/-- Whether a call puts something in place that was there before. -/
def Call.amends : Call → Bool
  | .updateRealm _ | .updatePermission _ _ _ => true
  | _ => false

theorem Call.of_puts {realm server : String} {permission : Wire.Policy}
    (puts : Puts base t realm server permission r) (h : c.request base t' = .ok r) :
    c.amends = true := by
  obtain ⟨d, draft, requested⟩ := Call.requested h
  have method : d.method = .put := requested.method ▸ puts.method
  cases c with
  | updateRealm | updatePermission => rfl
  | enablePermissions realm =>
    obtain ⟨text, body, policy⟩ := puts.body
    simp only [Call.request, Call.draft, bind, Except.bind, Draft.request] at h
    split at h
    · cases h
    · cases h
      cases body
      exact (enabling_unread permission policy).elim
  | _ => cases draft; cases method

theorem Answered.quiet {reply : Http.Reply} (answered : Answered base t c reply j)
    (amends : c.amends = false) : ¬ Updates base j := by
  rintro ⟨t', realm, server, permission, r', puts, asked⟩
  obtain ⟨r, requested, rfl⟩ := answered
  cases asked
  exact Bool.false_ne_true (amends.symm.trans (Call.of_puts puts requested))

/-- Nothing but a call that amends something is carried out by an update of a permission. -/
theorem Endpoint.runs_updates {ev : Facility.Event} (run : (e.find ev.query).Runs js ev.answer)
    (hj : j ∈ js) (updates : Updates e.base j) : ∃ t c, c.amends = true ∧ ev.query = .call t c := by
  obtain ⟨t, realm, server, permission, r, puts, asked⟩ := updates
  obtain ⟨q, o⟩ := j
  cases asked
  have carries : r.header? "authorization" ≠ none := by
    rw [puts.token]
    nofun
  obtain ⟨token, c, rfl, requested, _, _⟩ := Endpoint.runs_exchange run hj carries
  exact ⟨token, c, Call.of_puts puts requested, rfl⟩

theorem carried_updates (carried : Program.Carried e.find es js)
    (spares : ∀ ev ∈ es, ∀ t c, ev.query = .call t c → c.amends = false) :
    ∀ j ∈ js, ¬ Updates e.base j := by
  intro j hj updates
  obtain ⟨ev, hev, ks, run, hk⟩ := carried.source hj
  obtain ⟨t, c, amends, asked⟩ := Endpoint.runs_updates run hk updates
  exact Bool.false_ne_true ((spares ev hev t c asked).symm.trans amends)

end Provider

end Tenancy
