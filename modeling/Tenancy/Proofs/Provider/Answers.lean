import Tenancy.Proofs.Provider.Requests
import Tenancy.Proofs.Service.Construction

/-!
# What calls make of replies

A call is received in one of three ways: by handing over whatever came back, by its success alone, or
by what the body of a success spells. Some calls take a 404 for the absence of what they are about.
Which call is received how is one table, and all else about replies is said once for each way. A call
gets as far as a reply if its URL can be requested.
-/

namespace Tenancy

theorem Url.join_isSome_of_hierarchical {base : Url} (h : base.isHierarchical = true)
    (segments : List String) : (base.join? segments).isSome := by
  unfold Url.isHierarchical at h
  unfold Url.join?
  split at h <;> simp_all

theorem Url.hierarchical_of_join {base u : Url} {segments : List String}
    (h : base.join? segments = some u) : base.isHierarchical = true := by
  unfold Url.join? at h
  unfold Url.isHierarchical
  split at h <;> simp_all

theorem Http.isHeaderValue_bearer {token : Token} (h : Http.isHeaderValue token = true) :
    Http.isHeaderValue ("Bearer " ++ token) = true := by
  have front : ("Bearer ".toList.all fun c => c = '\t' || !(c.toNat < 32 || c.toNat = 127)) = true :=
    rfl
  simp only [Http.isHeaderValue, String.toList_append, List.all_append, Bool.and_eq_true] at h ⊢
  exact ⟨front, h⟩

namespace Provider

open Json (Codec)

/-- The ways in which the reply to a call is received. -/
inductive Reception (α : Type) : Type 1 where
  /-- Whatever came back is handed over. -/
  | whole (answer : Receipt → α)
  /-- A success is all that is wanted. -/
  | blind (absent : Option α) (answer : α)
  /-- The body of a success has to spell a value. -/
  | spelt {β : Type} (absent : Option α) (codec : Codec β) (view : β → α)

/-- Whether whatever came back is handed over. -/
def Reception.isWhole {α : Type} : Reception α → Bool
  | .whole _ => true
  | _ => false

/-- How each call is received. -/
def Call.reception : (c : Call) → Reception c.Answer
  | .findRealm _ => .spelt (some none) Wire.Realm.codec some
  | .createRealm _ => .whole id
  | .updateRealm _ => .blind none ()
  | .deleteRealm _ => .blind (some false) true
  | .createRole _ _ => .whole id
  | .findRole _ _ => .spelt (some none) Wire.Role.codec some
  | .createClient _ _ => .whole id
  | .findClients _ clientId =>
    .spelt none (.list Wire.Client.codec) (List.filter fun c => c.clientId = clientId)
  | .serviceAccount _ _ => .spelt none Wire.User.codec id
  | .addRoles _ _ _ => .blind none ()
  | .enablePermissions _ => .spelt none Wire.PermissionReference.codec id
  | .createPolicy _ _ _ => .whole id
  | .findPermission _ _ _ => .spelt none Wire.Policy.codec id
  | .findPolicies _ _ _ => .spelt none (.list Wire.Policy.codec) id
  | .updatePermission _ _ _ => .blind none ()
  | .serverInfo => .spelt none Wire.ServerInfo.codec id

namespace Reception

variable {α β : Type} {read : Http.Reply → Except ProviderError α}

/-- What is read of replies that are no success: that there is nothing, where this is an answer, or
else a failure that tells the status and the body. -/
structure Judges (nothing : Option α) (read : Http.Reply → Except ProviderError α) : Prop where
  absent : ∀ a, nothing = some a → ∀ r, r.status.code = 404 → read r = .ok a
  refused : ∀ r, r.status.code ≠ 401 → (r.status.code = 404 → nothing = none) →
    r.status.isSuccess = false → read r = .error (.status r.status r.diagnostic)

/-- A reply is handed over with its status, its first location if that is plain text, and its body if
that is JSON. -/
def Delivers (answer : Receipt → α) (read : Http.Reply → Except ProviderError α) : Prop :=
  ∀ r bytes, r.status.code ≠ 401 → r.body = .ok bytes → ∃ receipt, read r = .ok (answer receipt) ∧
    receipt.status = r.status ∧
    (∀ v, receipt.location = some v ↔ r.headers.lookup "location" = some v ∧
      ∀ x ∈ v.toList, x = '\t' ∨ 32 ≤ x.toNat ∧ x.toNat < 127) ∧
    ∀ j, receipt.body = some j ↔ Codec.value.read (Utf8.glyphs bytes) = .ok j

/-- The rule for the replies that do not reject the token. -/
def Rules : Reception α → (Http.Reply → Except ProviderError α) → Prop
  | .whole answer, read => Delivers answer read
  | .blind nothing answer, read =>
    Judges nothing read ∧ ∀ r, r.status.isSuccess = true → read r = .ok answer
  | .spelt nothing codec view, read =>
    Judges nothing read ∧ ∀ r bytes, r.status.isSuccess = true → r.body = .ok bytes →
      (∀ v, codec.read (Utf8.glyphs bytes) = .ok v → read r = .ok (view v)) ∧
      ∀ e, codec.read (Utf8.glyphs bytes) = .error e → read r = .error (.unreadable e.message)

/-- What is made of all that can come of a request. -/
structure Classifies (k : Reception α) (answer : Http.Outcome → Except ProviderError α) : Prop where
  lost : ∀ cause, answer (.error cause) = .error (.transport cause)
  rejected : ∀ r, r.status.code = 401 → answer (.ok r) = .error .unauthorized
  heard : k.Rules fun r => answer (.ok r)

/-! ## Replies without a token's rejection -/

theorem not_rejected {s : Status} (h : s.isSuccess = true) : s.code ≠ 401 ∧ s.code ≠ 404 := by
  simp only [Status.isSuccess, Bool.and_eq_true, decide_eq_true_eq] at h
  omega

theorem notFound_iff {s : Status} : s = .notFound ↔ s.code = 404 := by
  obtain ⟨code⟩ := s
  simp [Status.notFound]

theorem unauthorized_iff {s : Status} : s = .unauthorized ↔ s.code = 401 := by
  obtain ⟨code⟩ := s
  simp [Status.unauthorized]

theorem judges_success (f : Http.Reply → α) : Judges none fun r => (success r).map f where
  absent _ h := by cases h
  refused r _ _ failed := by simp [success, failed, Except.map]

theorem judges_value (codec : Codec β) (view : β → α) :
    Judges none fun r => (value codec r).map view where
  absent _ h := by cases h
  refused r _ _ failed := by simp [value, success, failed, bind, Except.bind, Except.map]

theorem rules_blind (answer : α) :
    (Reception.blind none answer).Rules fun r => (success r).map fun _ => answer :=
  ⟨judges_success _, fun r h => by simp [success, h, Except.map]⟩

theorem rules_spelt (codec : Codec β) (view : β → α) :
    (Reception.spelt none codec view).Rules fun r => (value codec r).map view := by
  refine ⟨judges_value codec view, fun r bytes success body => ⟨fun v spells => ?_, fun e flaw => ?_⟩⟩
  · simp only [value, Provider.success, success, content, body, spells, bind, Except.bind, if_true]
    rfl
  · simp only [value, Provider.success, success, content, body, flaw, bind, Except.bind, if_true]
    rfl

theorem Judges.orAbsent (h : Judges none read) (a : α) :
    Judges (some a) fun r => if r.status = .notFound then .ok a else read r where
  absent a' same r missing := by
    cases same
    simp [notFound_iff, missing]
  refused r known there failed := by
    by_cases missing : r.status.code = 404
    · cases there missing
    · simp [notFound_iff, missing, h.refused r known (fun _ => rfl) failed]

theorem Rules.orAbsent_blind {answer : α} (h : (Reception.blind none answer).Rules read) (a : α) :
    (Reception.blind (some a) answer).Rules fun r =>
      if r.status = .notFound then .ok a else read r := by
  refine ⟨h.1.orAbsent a, fun r success => ?_⟩
  simp [notFound_iff, (not_rejected success).2, h.2 r success]

theorem Rules.orAbsent_spelt {codec : Codec β} {view : β → α}
    (h : (Reception.spelt none codec view).Rules read) (a : α) :
    (Reception.spelt (some a) codec view).Rules fun r =>
      if r.status = .notFound then .ok a else read r := by
  refine ⟨h.1.orAbsent a, fun r bytes success body => ?_⟩
  simpa [notFound_iff, (not_rejected success).2] using h.2 r bytes success body

theorem location_iff {r : Http.Reply} {v : String} :
    location? r = some v ↔ r.headers.lookup "location" = some v ∧
      ∀ x ∈ v.toList, x = '\t' ∨ 32 ≤ x.toNat ∧ x.toNat < 127 := by
  simp only [location?, Http.Reply.header?, Option.bind_eq_some_iff]
  constructor
  · rintro ⟨w, here, plain⟩
    split at plain
    · next visible =>
      cases plain
      exact ⟨here, by simpa using visible⟩
    · cases plain
  · rintro ⟨here, visible⟩
    refine ⟨v, here, if_pos ?_⟩
    simpa using visible

theorem rules_whole : (Reception.whole id).Rules receipt := by
  intro r bytes _ body
  refine ⟨⟨r.status, location? r, (Codec.value.read (Utf8.glyphs bytes)).toOption⟩, ?_, rfl,
    fun v => location_iff, fun j => ?_⟩
  · simp only [receipt, body, id]
  · cases Codec.value.read (Utf8.glyphs bytes) <;> simp [Except.toOption]

theorem rules_value (codec : Codec α) : (Reception.spelt none codec id).Rules (value codec) := by
  have same : (fun r => (value codec r).map id) = value codec := by
    funext r
    cases value codec r <;> rfl
  exact same ▸ rules_spelt codec id

/-- What holds of the replies that do not reject the token is not changed by those that do. -/
theorem Rules.heard {k : Reception α} {answer : Http.Reply → Except ProviderError α}
    (h : k.Rules read) (same : ∀ r, r.status.code ≠ 401 → answer r = read r) : k.Rules answer := by
  have judged {nothing : Option α} (h : Judges nothing read) : Judges nothing answer := by
    refine ⟨fun a there r missing => ?_, fun r known there failed => ?_⟩
    · rw [same r (by omega)]
      exact h.absent a there r missing
    · rw [same r known]
      exact h.refused r known there failed
  cases k with
  | whole receive =>
    intro r _ known
    rw [same r known]
    exact h r _ known
  | blind nothing done =>
    refine ⟨judged h.1, fun r success => ?_⟩
    rw [same r (not_rejected success).1]
    exact h.2 r success
  | spelt nothing codec view =>
    refine ⟨judged h.1, fun r bytes success body => ?_⟩
    rw [same r (not_rejected success).1]
    exact h.2 r bytes success body

end Reception

/-! ## Calls -/

open Reception

variable {c : Call} {base : Url} {token : Token}

theorem Call.read_rules (c : Call) : c.reception.Rules c.read := by
  cases c with
  | findRealm | findRole => exact (rules_spelt _ some).orAbsent_spelt none
  | createRealm | createRole | createClient | createPolicy => exact rules_whole
  | deleteRealm => exact (rules_blind true).orAbsent_blind false
  | updateRealm | addRoles | updatePermission => exact rules_blind ()
  | findClients => exact rules_spelt _ _
  | serviceAccount | enablePermissions | findPermission | findPolicies | serverInfo =>
    exact rules_value _

theorem Call.answer_classifies (c : Call) : c.reception.Classifies c.answer where
  lost _ := rfl
  rejected _ h := if_pos (unauthorized_iff.mpr h)
  heard := c.read_rules.heard fun _ known => if_neg (mt unauthorized_iff.mp known)

/-- A receipt that is handed over is not that of a rejected token. -/
theorem Call.receipt_known {answer : Receipt → c.Answer} (whole : c.reception = .whole answer)
    {o : Http.Outcome} {receipt : Receipt} (h : c.answer o = .ok (answer receipt)) :
    receipt.status.code ≠ 401 := by
  cases o with
  | error cause => cases h
  | ok r =>
    by_cases rejected : r.status.code = 401
    · rw [c.answer_classifies.rejected r rejected] at h
      cases h
    · have read : c.read r = .ok (answer receipt) := by
        rwa [Call.answer, if_neg (mt unauthorized_iff.mp rejected)] at h
      -- Of all calls only the creations hand over receipts, and all four are read in the same way.
      have same : Provider.receipt r = .ok receipt := by
        cases c <;> first | (cases whole; exact read) | cases whole
      unfold Provider.receipt at same
      split at same <;> cases same
      exact rejected

/-! ## Requests -/

/-- A permission that is to be updated, although it has no id. -/
def Call.Updates (c : Call) (permission : Wire.Policy) : Prop :=
  permission.id = none ∧ ∃ realm server, c = .updatePermission realm server permission

theorem Call.draft_of_updates {permission : Wire.Policy} (h : c.Updates permission) :
    c.draft = .error (.unreadable ("permission '" ++ permission.name ++ "' has no id")) := by
  obtain ⟨nameless, realm, server, rfl⟩ := h
  simp [Call.draft, nameless]

theorem Call.exists_draft (h : ∀ permission, ¬ c.Updates permission) : ∃ d, c.draft = .ok d := by
  cases hd : c.draft with
  | ok d => exact ⟨d, rfl⟩
  | error e =>
    cases c with
    | updatePermission realm server permission =>
      simp only [Call.draft] at hd
      split at hd
      · cases hd
      · next nameless => exact (h permission ⟨nameless, realm, server, rfl⟩).elim
    | _ => cases hd

theorem Call.perform_eq {r : Http.Request} (h : c.request base token = .ok r)
    (sendable : r.defect? = none) :
    c.perform base token = .ask (.exchange r) fun o => .done (c.answer o) := by
  simp only [Call.perform, h, Outside.send, sendable]
  rfl

theorem Call.perform_defect {r : Http.Request} {cause : Chain} (h : c.request base token = .ok r)
    (defect : r.defect? = some cause) : c.perform base token = .done (.error (.transport cause)) := by
  simp only [Call.perform, h, Outside.send, defect]
  rfl

/-- What a call amounts to at a base URL that was accepted. -/
theorem calls_classified {field raw : String} {base : Url} {token : Token}
    (accepted : baseUrl field raw = .ok base) (valid : Http.isHeaderValue token = true) (c : Call) :
    ∃ answer, c.reception.Classifies answer ∧
      (∀ receive, c.reception = .whole receive → ∀ o receipt, answer o = .ok (receive receipt) →
        receipt.status.code ≠ 401) ∧
      (∀ permission, c.Updates permission → c.perform base token =
        .done (.error (.unreadable ("permission '" ++ permission.name ++ "' has no id")))) ∧
      ((∀ permission, ¬ c.Updates permission) → ∃ r, c.request base token = .ok r ∧
        (r.url.Requestable →
          c.perform base token = .ask (.exchange r) fun o => .done (answer o)) ∧
        (¬ r.url.Requestable → ∃ why, r.url.obstacle? = some why ∧
          c.perform base token = .done (.error (.transport (Http.unrequestable r.url why))))) := by
  refine ⟨c.answer, c.answer_classifies, fun receive whole o receipt => Call.receipt_known whole,
    fun permission h => ?_, fun h => ?_⟩
  · simp only [Call.perform, Call.request, Call.draft_of_updates h, bind, Except.bind]
  obtain ⟨d, draft⟩ := Call.exists_draft h
  have joins := Url.join_isSome_of_hierarchical (baseUrl_eq_ok.mp accepted).2 d.path
  obtain ⟨r, request⟩ : ∃ r, c.request base token = .ok r := Call.request_of_join draft joins
  obtain ⟨d', _, requested⟩ := Call.requested request
  have headers := requested.headers_valid.mpr (Http.isHeaderValue_bearer valid)
  refine ⟨r, request, fun web => ?_, fun web => ?_⟩
  · exact Call.perform_eq request (Http.Request.defect?_eq_none.mpr ⟨headers, web⟩)
  · obtain ⟨why, stuck⟩ := Url.exists_obstacle web
    have defect := Http.Request.defect?_of_obstacle headers stuck
    exact ⟨why, stuck, Call.perform_defect request defect⟩

/-- A provider on this machine. -/
def near : Url :=
  ⟨"http", none, some (.ipv6 [0, 0, 0, 0, 0, 0, 0, 1]), some 8080, .segments [""], none, none, false⟩

/-- Clients are looked up; the list is empty, or the realm is not there. -/
theorem clients_classified :
    baseUrl "base" "http://[::1]:8080" = .ok near ∧ Http.isHeaderValue "tok" = true ∧
      ∃ (r : Http.Request) (answer : Http.Outcome → Except ProviderError (List Wire.Client)),
        (Call.findClients "acme" "app").perform near "tok" =
          .ask (.exchange r) (fun o => .done (answer o)) ∧
        answer (.ok ⟨.ok, [], .ok (Utf8.encode "[]")⟩) = .ok [] ∧
        answer (.ok ⟨.notFound, [], .ok (Utf8.encode "gone")⟩) =
          .error (.status .notFound "gone") := by
  have accepted : baseUrl "base" "http://[::1]:8080" = .ok near := rfl
  have valid : Http.isHeaderValue "tok" = true := rfl
  let asked : Url := { near with
    path := .segments ["admin", "realms", "acme", "clients"], query := some "clientId=app" }
  obtain ⟨answer, classifies, _, _, sent⟩ :=
    calls_classified accepted valid (.findClients "acme" "app")
  obtain ⟨r, request, asks, _⟩ := sent (by rintro _ ⟨_, _, _, h⟩; cases h)
  have url : asked = r.url := congrArg Http.Request.url (Except.ok.inj request)
  have web : r.url.Requestable := by
    rw [← url]
    decide
  obtain ⟨judges, spells⟩ := classifies.heard
  refine ⟨accepted, valid, r, answer, asks web, (spells _ _ rfl rfl).1 [] rfl, ?_⟩
  exact judges.refused ⟨.notFound, [], .ok (Utf8.encode "gone")⟩ (by decide) (fun _ => rfl) rfl

/-- A directory that is no web server. -/
def directory : Url :=
  ⟨"ldap", none, some (.name "kc"), none, .segments [""], none, none, false⟩

/-- A base URL that is accepted need not be one that can be requested. -/
theorem accepted_not_requested : ¬ ∀ (field raw : String) (base : Url) (token : Token) (c : Call),
    baseUrl field raw = .ok base → Http.isHeaderValue token = true →
    (∀ permission, ¬ c.Updates permission) →
    ∃ (r : Http.Request) (answer : Http.Outcome → Except ProviderError c.Answer),
      c.perform base token = .ask (.exchange r) fun o => .done (answer o) := by
  intro all
  obtain ⟨r, answer, asks⟩ := all "base" "ldap://kc/" directory "tok" (.findRealm "acme") rfl rfl
    (by rintro _ ⟨_, _, _, h⟩; cases h)
  have nothing : (Call.findRealm "acme").perform directory "tok" =
      .done (.error (.transport (Http.unrequestable
        { directory with path := .segments ["admin", "realms", "acme"] }
        "URL scheme is not allowed"))) := rfl
  rw [nothing] at asks
  cases asks

end Provider

end Tenancy
