import Tenancy.Proofs.Provider.Requests
import Tenancy.Proofs.Realm.Rollback

/-!
# Realms that are left behind

Over the network, what the provider has done and what the caller makes of its reply are two things.
A realm whose creation the provider accepted is removed again after a failure exactly if the reply
could be read and says which id the realm has. With a reply that breaks off, or that names no id,
establishing the realm fails at its creation, and the realm stays.
-/

namespace Tenancy

open Work Session

/-- A receipt of something that was created, under an id. -/
def Receipt.Identified (receipt : Receipt) : Prop :=
  receipt.status.isSuccess = true ∧ receipt.id?.isSome = true

theorem Receipt.outcome_ok_iff {receipt : Receipt} {context : String} :
    (∃ id, receipt.outcome context = .ok id) ↔ receipt.Identified := by
  simp only [Receipt.outcome_eq_ok, Receipt.Identified, exists_and_left, Option.isSome_iff_exists]

/-- A reply that could be read to its end and says which id the new thing has. -/
def Provider.Identified (reply : Http.Reply) : Prop :=
  ∃ receipt, Provider.receipt reply = .ok receipt ∧ receipt.id?.isSome = true

theorem Provider.receipt_status {reply : Http.Reply} {receipt : Receipt}
    (h : Provider.receipt reply = .ok receipt) : receipt.status = reply.status := by
  unfold Provider.receipt at h
  split at h
  · cases h
  · cases h; rfl

theorem Provider.answer_accepted (realm : Wire.Realm) {reply : Http.Reply}
    (accepted : reply.status.isSuccess = true) :
    (Call.createRealm realm).answer (.ok reply) = receipt reply := by
  have heard : reply.status ≠ .unauthorized := by
    intro h
    rw [h] at accepted
    cases accepted
  simp only [Call.answer, heard, if_false]
  rfl

theorem Provider.identified_iff {reply : Http.Reply} (accepted : reply.status.isSuccess = true) :
    (∃ receipt, Provider.receipt reply = .ok receipt ∧ receipt.Identified) ↔
      Provider.Identified reply := by
  refine exists_congr fun receipt => and_congr_right fun read => ?_
  unfold Receipt.Identified
  rw [Provider.receipt_status read, accepted]
  simp

namespace Realm

/-! ## The call that creates the realm -/

/-- An event that asks for a realm to be created. -/
def Creates (e : Facility.Event) : Prop :=
  ∃ token realm, e.query = .call token (.createRealm realm)

variable {d : Design} {t : Tenant} {slot slot' : TokenSlot} {es : List Facility.Event}

theorem step_creates {s : Step} {r : Except Fault s.Result} (run : s.work.Runs slot es r slot')
    (other : ∀ realm, ¬ s.Makes (.createRealm realm)) : ∀ e ∈ es, ¬ Creates e := by
  rintro e he ⟨token, realm, asked⟩
  exact other realm (step_makes run he asked)

theorem lookup_creates {r : Except Fault (Option Wire.Realm)}
    (run : (lookup t.name).Runs slot es r slot') : ∀ e ∈ es, ¬ Creates e :=
  step_creates (s := looks t) run fun _ made => by cases made

theorem removal_creates {r : Except Fault Bool} {name : String}
    (run : (remove name).Runs slot es r slot') : ∀ e ∈ es, ¬ Creates e :=
  step_creates (s := .call ("Failed to delete realm: " ++ name) (.deleteRealm name)) run
    fun _ made => by cases made

theorem filling_creates {r : Except Fault Unit}
    (run : (d.plan.fill t.name).Runs slot es r slot') : ∀ e ∈ es, ¬ Creates e := by
  obtain ⟨later, logged, rfl, fills⟩ := (fill_loggable d.plan t.name).log run
  intro e he
  obtain ⟨s, hs, he⟩ := List.mem_flatMap.mp he
  obtain ⟨slot₁, slot₂, run⟩ := logged.runs hs
  exact step_creates run (fun _ made => (fills s hs).inside made) e he

/-- Whether a creation that was decided by an answer succeeded. -/
theorem decided_iff {realm : Wire.Realm} {a : Except ProviderError Receipt} :
    (∃ id, (((a.mapError Setback.raw).mapError (Setback.fault (Resource.context realm))) >>=
        fun receipt => receipt.outcome (Resource.context realm)) = .ok id) ↔
      ∃ receipt, a = .ok receipt ∧ receipt.Identified := by
  cases a with
  | error e =>
    constructor
    · rintro ⟨id, h⟩
      cases h
    · rintro ⟨receipt, h, _⟩
      cases h
  | ok receipt =>
    refine Iff.trans Receipt.outcome_ok_iff ⟨fun h => ⟨receipt, rfl, h⟩, ?_⟩
    rintro ⟨receipt', h, identified⟩
    cases h
    exact identified

theorem obtained_calls {token token' : Token} {c : Provider.Call} {a : Except ProviderError c.Answer}
    (h : Obtained Facility.issue slot es token) : ⟨.call token' c, a⟩ ∉ es := by
  intro he
  cases h with
  | kept => cases he
  | issued run =>
    rw [issue_runs run] at he
    cases List.mem_singleton.mp he

/-- A call within a creation whose token was not rejected decides it, and its token is kept. -/
theorem creation_heard {realm realm' : Wire.Realm} {r : Except Fault String} {token : Token}
    {a : Except ProviderError Receipt}
    (created : (Creation.realm realm).work.Runs slot es r slot')
    (he : ⟨.call token (.createRealm realm'), a⟩ ∈ es) (heard : a ≠ .error .unauthorized) :
    slot' = ⟨some token⟩ ∧
      ((∃ id, r = .ok id) ↔ ∃ receipt, a = .ok receipt ∧ receipt.Identified) := by
  obtain ⟨_, run, rfl⟩ := runs_create created
  cases run with
  | tokenless issued =>
    rw [issue_runs issued] at he
    cases List.mem_singleton.mp he
  | once obtained tried _ =>
    obtain ⟨b, rfl, rfl⟩ := Attempt.runs_call tried
    rcases List.mem_append.mp he with he | he
    · exact (obtained_calls obtained he).elim
    · cases List.mem_singleton.mp he
      exact ⟨rfl, decided_iff⟩
  | unrenewed obtained tried renewed =>
    obtain ⟨b, rfl, hb⟩ := Attempt.runs_call tried
    rw [issue_runs renewed] at he
    rcases List.mem_append.mp he with he | he
    · exact (obtained_calls obtained he).elim
    rcases List.mem_append.mp he with he | he
    · cases List.mem_singleton.mp he
      exact (heard (mapError_raw_unauthorized hb.symm)).elim
    · cases List.mem_singleton.mp he
  | twice obtained tried renewed retried =>
    obtain ⟨b, rfl, hb⟩ := Attempt.runs_call tried
    obtain ⟨b', rfl, rfl⟩ := Attempt.runs_call retried
    rw [issue_runs renewed] at he
    rcases List.mem_append.mp he with he | he
    · exact (obtained_calls obtained he).elim
    rcases List.mem_append.mp he with he | he
    · cases List.mem_singleton.mp he
      exact (heard (mapError_raw_unauthorized hb.symm)).elim
    rcases List.mem_append.mp he with he | he
    · cases List.mem_singleton.mp he
    · cases List.mem_singleton.mp he
      exact ⟨rfl, decided_iff⟩

theorem step_removes {s : Step} {r : Except Fault s.Result} (run : s.work.Runs slot es r slot')
    (spares : Spares s) : ∀ e ∈ es, ¬ Removes e := by
  rintro e he ⟨token, name, asked⟩
  exact spares name (step_makes run he asked)

/-- What comes at the end of a list comes after everything that is not in it. -/
theorem suffix_of_not_mem {α : Type} {xs ys before after : List α} {x : α}
    (h : xs ++ ys = before ++ x :: after) (out : x ∉ ys) : ys <:+ after := by
  have first : ys <:+ before ++ x :: after := ⟨xs, h⟩
  have second : x :: after <:+ before ++ x :: after := ⟨before, rfl⟩
  rcases List.suffix_or_suffix_of_suffix first second with within | beyond
  · rcases List.suffix_cons_iff.mp within with rfl | within
    · exact (out List.mem_cons_self).elim
    · exact within
  · exact (out (beyond.subset List.mem_cons_self)).elim

/-- A realm that was looked for was asked for, and the answer is what was found. -/
theorem lookup_asks {name : String} {found : Option Wire.Realm}
    (run : (lookup name).Runs slot es (.ok found) slot') :
    ∃ token, ⟨.call token (.findRealm name), .ok found⟩ ∈ es :=
  (accessed_ok_iff (Runs.of_access run) found).mp rfl

/-- What follows the call by which a realm was created, in a run that fails: its removal, if the
call had an answer by which the realm can be known, and no removal otherwise. The removal is for a
realm that was looked for before. -/
theorem after_creation {es₁ es₂ : List Facility.Event} {token : Token} {realm : Wire.Realm}
    {a : Except ProviderError Receipt} {f : Fault}
    (run : (d.establish t).Runs slot (es₁ ++ ⟨.call token (.createRealm realm), a⟩ :: es₂) (.error f)
      slot') (heard : a ≠ .error .unauthorized) :
    ((∃ receipt, a = .ok receipt ∧ receipt.Identified) ∧
      (∃ token₀ found, ⟨.call token₀ (.findRealm t.name), .ok found⟩ ∈
        es₁ ++ ⟨.call token (.createRealm realm), a⟩ :: es₂) ∧
      ∃ token' rollback, rollback <:+ es₂ ∧ Called (.deleteRealm t.name) token' rollback ∧
        (token' = token ∨ ⟨.issueToken, .ok token'⟩ ∈ es₂)) ∨
    ((¬ ∃ receipt, a = .ok receipt ∧ receipt.Identified) ∧ ∀ e ∈ es₂, ¬ Removes e) := by
  have came := runs_establish run
  let call : Facility.Event := ⟨.call token (.createRealm realm), a⟩
  have creates : Creates call := ⟨token, realm, rfl⟩
  have made : call ∈ es₁ ++ call :: es₂ := by simp
  generalize hes : es₁ ++ call :: es₂ = es at came made
  generalize hr : (Except.error f : Except Fault Wire.Realm) = r at came
  cases came with
  | ineligible => cases made
  | unseen _ looked => exact (lookup_creates looked _ made creates).elim
  | found => cases hr
  | filled => cases hr
  | uncreated _ looked created =>
    rcases List.mem_append.mp made with made | made
    · exact (lookup_creates looked _ made creates).elim
    obtain ⟨_, succeeded⟩ := creation_heard created made heard
    refine .inr ⟨fun identified => ?_, fun e he => ?_⟩
    · obtain ⟨id, hid⟩ := succeeded.mpr identified
      cases hid
    · have he : e ∈ es₁ ++ call :: es₂ := List.mem_append_right _ (List.mem_cons_of_mem _ he)
      rw [hes] at he
      rcases List.mem_append.mp he with he | he
      · exact step_removes (s := looks t) looked spares_looks e he
      · exact step_removes (s := .create (.realm _)) created (spares_create _) e he
  | @removed _ _ _ _ es₃ es₄ es₅ es₆ _ _ _ _ _ looked created failed removal =>
    have out : call ∉ es₅ ++ es₆ := by
      intro he
      rcases List.mem_append.mp he with he | he
      · exact filling_creates failed _ he creates
      · exact removal_creates removal _ he creates
    have suffix : es₅ ++ es₆ <:+ es₂ := by
      have parts : (es₃ ++ es₄) ++ (es₅ ++ es₆) = es₁ ++ call :: es₂ := by
        rw [hes, List.append_assoc]
      exact suffix_of_not_mem parts out
    rcases List.mem_append.mp made with made | made
    · exact (lookup_creates looked _ made creates).elim
    rcases List.mem_append.mp made with made | made
    · obtain ⟨rfl, succeeded⟩ := creation_heard created made heard
      obtain ⟨later, filling, rfl, _⟩ := (fill_loggable d.plan t.name).log failed
      obtain ⟨token', rfl, source⟩ := filling.kept.some
      obtain ⟨token₀, asked⟩ := lookup_asks looked
      refine .inl ⟨succeeded.mp ⟨_, rfl⟩, ⟨token₀, none, List.mem_append_left _ asked⟩, token', es₆,
        ?_, called_of_kept removal, ?_⟩
      · exact (List.suffix_append _ _).trans suffix
      · refine source.imp id fun issued => ?_
        exact suffix.subset (List.mem_append_left _ issued)
    · exact (out made).elim

/-! ## Over the network -/

/-- An exchange that asks for the realm of a name to be removed. -/
def Deletes (base : Url) (name : String) (j : Outside.Event) : Prop :=
  ∃ token r, (Provider.Call.deleteRealm name).request base token = .ok r ∧ j.query = .exchange r

theorem deletes_removes {e : Provider.Endpoint} {name : String} {js : List Outside.Event}
    (carried : Program.Carried e.find es js) {j : Outside.Event} (hj : j ∈ js)
    (deletes : Deletes e.base name j) : ∃ ev ∈ es, Removes ev := by
  obtain ⟨token, r, hr, asked⟩ := deletes
  obtain ⟨q, o⟩ := j
  cases asked
  obtain ⟨_, hd, requested⟩ := Provider.Call.requested hr
  cases hd
  obtain ⟨ev, hev, ks, run, hj⟩ := carried.source hj
  have carries : r.header? "authorization" ≠ none := by simp [requested.authorized]
  obtain ⟨token', c, rfl, hc, _, _⟩ := Provider.Endpoint.runs_exchange run hj carries
  obtain ⟨name', rfl⟩ := Provider.Call.of_delete hc requested.method
  exact ⟨_, hev, token', name', rfl⟩

/-- A removal is sent if its token can be. -/
theorem removal_sent {e : Provider.Endpoint} {name : String} {js : List Outside.Event} {token : Token}
    {a : Except ProviderError Bool} (carried : Program.Carried e.find es js)
    (he : ⟨.call token (.deleteRealm name), a⟩ ∈ es)
    (serves : e.base.ServesRealm name) (usable : Http.isHeaderValue ("Bearer " ++ token) = true) :
    ∃ j ∈ js, Deletes e.base name j := by
  obtain ⟨ks, run, kept⟩ := carried.sink he
  obtain ⟨r, hr, fine, _⟩ := Provider.Retires.request (.inr rfl) serves usable
  rcases Provider.Call.runs_perform run with ⟨_, unsent, _⟩ | ⟨r', o, hr', _, rfl, _⟩
  · exact (unsent r hr fine).elim
  · exact ⟨_, kept _ (List.mem_singleton.mpr rfl), token, r', hr', rfl⟩

/-- A realm that the provider has accepted, in a run that fails, is removed afterwards exactly if
the reply could be read to its end and names an id, as long as the tokens that are granted meanwhile
can be sent. -/
theorem accepted_realm_removed_iff (e : Provider.Endpoint) (d : Design) (t : Tenant)
    {slot slot' : TokenSlot} {before after : List Outside.Event} {realm : Wire.Realm} {token : Token}
    {r : Http.Request} {reply : Http.Reply} {f : Fault}
    (run : ((d.establish t).through e).Runs slot (before ++ ⟨.exchange r, .ok reply⟩ :: after)
      (.error f) slot')
    (posted : (Provider.Call.createRealm realm).request e.base token = .ok r)
    (accepted : reply.status.isSuccess = true)
    (usable : ∀ j ∈ after, ∀ granted, e.login.Grants granted j →
      Http.isHeaderValue ("Bearer " ++ granted) = true) :
    (∃ j ∈ after, Deletes e.base t.name j) ↔ Provider.Identified reply := by
  obtain ⟨es, work, carried⟩ := runs_through run
  obtain ⟨es₁, ev, es₂, js₁, ks, ks', js₂, rfl, rfl, hafter, performed, _, rest⟩ := carried.split
  obtain ⟨_, hd, requested⟩ := Provider.Call.requested posted
  cases hd
  have carries : r.header? "authorization" ≠ none := by simp [requested.authorized]
  obtain ⟨token', c, rfl, hc, fine, alone⟩ :=
    Provider.Endpoint.runs_exchange performed (List.mem_append_right _ List.mem_cons_self) carries
  obtain ⟨realm', rfl⟩ := Provider.Call.of_createRealm posted hc
  obtain ⟨_, _, requested'⟩ := Provider.Call.requested hc
  obtain ⟨usable', _⟩ := requested'.sendable.mp fine
  obtain rfl : after = js₂ := by
    have short := congrArg List.length alone
    simp only [List.length_append, List.length_cons, List.length_nil] at short
    have nothing : ks' = [] := List.length_eq_zero_iff.mp (by omega)
    rw [hafter, nothing, List.nil_append]
  rw [← Provider.identified_iff accepted]
  have answer := Provider.answer_accepted realm' accepted
  rw [answer] at work
  rcases after_creation work Provider.receipt_heard with
    ⟨identified, ⟨token₀, found, sought⟩, token₂, rollback, suffix, called, source⟩ |
      ⟨unknown, spared⟩
  · refine ⟨fun _ => identified, fun _ => ?_⟩
    have usable₂ : Http.isHeaderValue ("Bearer " ++ token₂) = true := by
      rcases source with rfl | issued
      · exact usable'
      · obtain ⟨ks₂, run₂, kept⟩ := rest.sink issued
        obtain ⟨j, hj, grants⟩ := (Provider.Login.runs_issue run₂).2 token₂ rfl
        exact usable j (kept j hj) token₂ grants
    have serves : e.base.ServesRealm t.name := by
      rw [← answer] at sought
      obtain ⟨ks₀, run₀, _⟩ := carried.sink sought
      exact Provider.Retires.serves (.inl rfl) run₀
    obtain ⟨a, asked⟩ := called_asks called
    exact removal_sent rest (suffix.subset asked) serves usable₂
  · refine ⟨fun ⟨j, hj, deletes⟩ => ?_, fun identified => (unknown identified).elim⟩
    obtain ⟨ev, hev, removes⟩ := deletes_removes rest hj deletes
    exact (spared ev hev removes).elim

/-! ## Two runs -/

/-- A provider on the network. -/
def kc : Provider.Endpoint :=
  let base : Url := ⟨"http", none, some (.name "kc"), none, .segments [""], none, none, false⟩
  ⟨base, ⟨base, .default⟩⟩

/-- A request to the provider with a kept token. -/
def kcRequest (method : Http.Method) (path : List String) : Http.Request :=
  ⟨method, { kc.base with path := .segments path }, [("authorization", "Bearer t")], none⟩

/-- The realm of a tenant is looked up and not found. -/
def unfound : Outside.Event :=
  ⟨.exchange (kcRequest .get ["admin", "realms", "acme"]), .ok ⟨.notFound, [], .ok []⟩⟩

/-- The request that creates the realm. -/
def creation : Http.Request :=
  (kcRequest .post ["admin", "realms"]).withBody "application/json"
    (Wire.Realm.codec.encode (usual.blueprint.realm usual.lifetimes .nil acme)).compact

theorem creation_requests : (Provider.Call.createRealm
    (usual.blueprint.realm usual.lifetimes .nil acme)).request kc.base "t" = .ok creation := rfl

/-- A reply that says where the new realm is. -/
def locating : Http.Reply := ⟨.created, [("location", "http://kc/admin/realms/acme")], .ok []⟩

/-- After the creation the first role is refused, and the realm is removed. -/
def refusedAfterwards : List Outside.Event :=
  [⟨.exchange ((kcRequest .post ["admin", "realms", "acme", "roles"]).withBody "application/json"
      (Wire.Role.codec.encode ⟨none, "System", some "Role of module service accounts"⟩).compact),
    .ok ⟨⟨403⟩, [], .ok []⟩⟩,
   ⟨.exchange (kcRequest .delete ["admin", "realms", "acme"]), .ok ⟨.noContent, [], .ok []⟩⟩]

theorem located_realm_removed :
    Provider.Identified locating ∧ ∃ j ∈ refusedAfterwards, Deletes kc.base "acme" j := by
  have run : ((usual.establish acme).through kc).Runs ⟨some "t"⟩
      ([unfound] ++ ⟨.exchange creation, .ok locating⟩ :: refusedAfterwards)
      (.error (.provider "Failed to create role 'System': 403 Forbidden"
        (some (.status ⟨403⟩ "")))) ⟨some "t"⟩ :=
    .ask (.ask (.ask (.ask (.done _))))
  have ungranted : ∀ j ∈ refusedAfterwards, ∀ granted, kc.login.Grants granted j →
      Http.isHeaderValue ("Bearer " ++ granted) = true := by
    have carries : ∀ j ∈ refusedAfterwards, ∃ r, j.query = .exchange r ∧
        r.header? "authorization" = some "Bearer t" := by
      intro j hj
      rcases List.mem_cons.mp hj with rfl | hj
      · exact ⟨_, rfl, rfl⟩
      · obtain rfl := List.mem_singleton.mp hj
        exact ⟨_, rfl, rfl⟩
    rintro j hj granted ⟨secret, password, reply, rfl, _⟩
    obtain ⟨r, asked, authorized⟩ := carries _ hj
    cases asked
    have without : (kc.login.request secret password).header? "authorization" = none := rfl
    rw [without] at authorized
    cases authorized
  have identified : Provider.Identified locating := ⟨⟨.created, _, _⟩, rfl, rfl⟩
  exact ⟨identified,
    (accepted_realm_removed_iff kc usual acme run creation_requests rfl ungranted).mpr identified⟩

/-- An accepted realm is not always removed: a plain success that names no id leaves it behind. -/
theorem accepted_realm_not_always_removed :
    ¬ ∀ (e : Provider.Endpoint) (d : Design) (t : Tenant) (slot slot' : TokenSlot)
      (before after : List Outside.Event) (realm : Wire.Realm) (token : Token) (r : Http.Request)
      (reply : Http.Reply) (f : Fault),
      ((d.establish t).through e).Runs slot (before ++ ⟨.exchange r, .ok reply⟩ :: after) (.error f)
        slot' →
      (Provider.Call.createRealm realm).request e.base token = .ok r →
      reply.status.isSuccess = true →
      (∀ j ∈ after, ∀ granted, e.login.Grants granted j →
        Http.isHeaderValue ("Bearer " ++ granted) = true) →
      ∃ j ∈ after, Deletes e.base t.name j := by
  intro removed
  have run : ((usual.establish acme).through kc).Runs ⟨some "t"⟩
      ([unfound] ++ [⟨.exchange creation, .ok ⟨.created, [], .ok []⟩⟩])
      (.error (.provider "Failed to create realm 'acme': response carries no id" none))
      ⟨some "t"⟩ :=
    .ask (.ask (.done _))
  obtain ⟨j, hj, _⟩ := removed kc usual acme _ _ _ [] _ _ _ _ _ run creation_requests rfl
    (fun j hj => (List.not_mem_nil hj).elim)
  cases hj

end Realm

end Tenancy
