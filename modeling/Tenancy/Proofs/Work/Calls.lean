import Tenancy.Proofs.Work.Attempt

/-!
# The calls of a step

What a step asks is settled by what it is: it makes no calls, or it is an access to the provider with
attempts at its duties, and `step_acts` says so once for all that is proved about the calls of steps.
The token that a step leaves in the slot is the one that it found there or one that was issued while
it ran.
-/

namespace Tenancy

open Facility Session Provider

/-- The calls that a step may make. -/
def Step.Makes : Step → Provider.Call → Prop
  | .call _ c', c => c = c'
  | .create cr, c => c = cr.call
  | .grantRole realm client _ role, c =>
    c = .serviceAccount realm client ∨ c = .findRole realm role ∨
      ∃ user roles, c = .addRoles realm user roles
  | .bindPolicy realm server permission _, c =>
    c = .findPermission realm server permission ∨ c = .findPolicies realm server permission ∨
      ∃ updated, c = .updatePermission realm server updated
  | _, _ => False

/-- A step that neither uses the secret store nor creates a client. -/
def Step.Quiet : Step → Prop
  | .readSecret _ => False
  | .writeSecret _ _ => False
  | s => ∀ realm client, ¬ s.Makes (.createClient realm client)

/-- What a step is there to call, in order. -/
def Step.duties : Step → List Duty
  | .call _ c => [c.duty]
  | .create c => [c.call.duty]
  | .grantRole realm _ _ role => [.serviceAccount realm, .findRole realm role, .addRoles realm]
  | .bindPolicy realm _ _ _ => [.findPermission realm, .findPolicies realm, .updatePermission realm]
  | _ => []

variable {α : Type} {t : Token} {slot slot' : TokenSlot} {es : List Facility.Event}

/-- Work that was carried out over the network ran as itself, and each of its questions was answered
over the network. -/
theorem Work.runs_through {e : Provider.Endpoint} {work : Work α} {js : List Outside.Event}
    {r : Except Fault α} (h : (work.through e).Runs slot js r slot') :
    ∃ es, work.Runs slot es r slot' ∧ Program.Carried e.find es js :=
  Program.Runs.of_via h

theorem issue_runs {r : Except ProviderError Token} (h : issue.Runs es r) :
    es = [⟨.issueToken, r⟩] := h.of_query

namespace Work

/-! ## Events that are no calls -/

/-- An event that is not a call. -/
def Waits (e : Facility.Event) : Prop := ∀ t c, e.query ≠ .call t c

theorem waits_alone {e : Facility.Event} (h : Waits e) : ∀ e' ∈ [e], Waits e' :=
  fun _ he => List.mem_singleton.mp he ▸ h

theorem issue_waits {r : Except ProviderError Token} (h : issue.Runs es r) : ∀ e ∈ es, Waits e := by
  rw [issue_runs h]
  exact waits_alone fun _ _ hq => by cases hq

theorem obtained_waits (h : Obtained issue slot es t) : ∀ e ∈ es, Waits e := by
  cases h with
  | kept => exact fun e he => (List.not_mem_nil he).elim
  | issued run => exact issue_waits run

/-! ## How a step goes -/

theorem runs_create {ρ : Type} [Resource ρ] {thing : ρ} {r : Except Fault String}
    {attempt : Token → Program Facility (Except ProviderError Receipt)}
    (h : (Work.create thing attempt).Runs slot es r slot') :
    ∃ a, Accessed issue (Resource.context thing) (fun t => (·.mapError Setback.raw) <$> attempt t)
        slot es a slot' ∧
      r = a >>= fun receipt => receipt.outcome (Resource.context thing) :=
  Runs.of_create h

/-- A creation is an access whose attempts are its call. It succeeds only if the access does. -/
theorem creation_accessed {c : Creation} {r : Except Fault String}
    (h : c.work.Runs slot es r slot') :
    ∃ context, ∃ a : Except Fault c.call.Answer,
      Accessed issue context (fun t => (Attempt.call c.call t).run) slot es a slot' ∧
        ∀ v, r = .ok v → ∃ u, a = .ok u := by
  have decided {context : String} {a : Except Fault Receipt} {v : String}
      (h : (a >>= fun receipt => receipt.outcome context) = .ok v) : ∃ u, a = .ok u := by
    cases a with
    | ok u => exact ⟨u, rfl⟩
    | error f => cases h
  cases c with
  | realm =>
    obtain ⟨a, run, rfl⟩ := runs_create h
    exact ⟨_, a, run, fun _ => decided⟩
  | role =>
    obtain ⟨a, run, rfl⟩ := runs_create h
    exact ⟨_, a, run, fun _ => decided⟩
  | client =>
    obtain ⟨a, run, rfl⟩ := runs_create h
    exact ⟨_, a, run, fun _ => decided⟩
  | policy =>
    obtain ⟨a, run, rfl⟩ := runs_create h
    exact ⟨_, a, run, fun _ => decided⟩

/-- How a step goes: it makes no calls and leaves the token alone, or it is an access to the provider
with attempts at its duties. -/
inductive Acts (s : Step) : TokenSlot → List Facility.Event → Except Fault s.Result → TokenSlot → Prop
  | aside {slot : TokenSlot} {es : List Facility.Event} {r : Except Fault s.Result}
      (idle : s.duties = []) (waits : ∀ e ∈ es, Waits e) : Acts s slot es r slot
  | access {slot slot' : TokenSlot} {es : List Facility.Event} {r : Except Fault s.Result} {α : Type}
      {context : String} {attempt : Token → Attempt α} {a : Except Fault α}
      (accessed : Accessed issue context (fun t => (attempt t).run) slot es a slot')
      (goes : ∀ t, Attempt.Goes s.Makes s.duties t (attempt t))
      (decided : ∀ v, r = .ok v → ∃ u, a = .ok u) : Acts s slot es r slot'

theorem step_acts {s : Step} {r : Except Fault s.Result} (run : s.work.Runs slot es r slot') :
    Acts s slot es r slot' := by
  cases s with
  | check =>
    obtain ⟨checked, rfl⟩ := Runs.of_lift run
    obtain ⟨rfl, _⟩ := checked.of_done
    exact .aside rfl fun e he => (List.not_mem_nil he).elim
  | call context c => exact .access (Runs.of_access run) (fun t => .call c rfl) fun v hv => ⟨v, hv⟩
  | create c =>
    obtain ⟨_, _, accessed, decided⟩ := creation_accessed run
    exact .access accessed (fun t => .call c.call rfl) decided
  | grantRole realm client clientId role =>
    refine .access (Runs.of_access run) (fun t => ?_) fun v hv => ⟨v, hv⟩
    refine Attempt.Goes.bind (.call (.serviceAccount realm client) (.inl rfl)) fun user => ?_
    refine Attempt.Goes.bind (.call (.findRole realm role) (.inr (.inl rfl))) fun found => ?_
    cases (found : Option Wire.Role) with
    | none => exact .refuse _
    | some found => exact .call (.addRoles realm _ _) (.inr (.inr ⟨_, _, rfl⟩))
  | bindPolicy realm server permission policy =>
    refine .access (Runs.of_access run) (fun t => ?_) fun v hv => ⟨v, hv⟩
    refine Attempt.Goes.bind (.call (.findPermission realm server permission) (.inl rfl))
      fun found => ?_
    refine Attempt.Goes.bind (.call (.findPolicies realm server permission) (.inr (.inl rfl)))
      fun policies => ?_
    exact .call (.updatePermission realm server _) (.inr (.inr ⟨_, rfl⟩))
  | readSecret =>
    obtain ⟨asked, rfl⟩ := Runs.of_lift run
    obtain rfl := asked.of_query
    exact .aside rfl (waits_alone fun _ _ hq => by cases hq)
  | writeSecret =>
    obtain ⟨asked, rfl⟩ := Runs.of_lift run
    obtain rfl := asked.of_query
    exact .aside rfl (waits_alone fun _ _ hq => by cases hq)
  | entropy =>
    obtain ⟨asked, rfl⟩ := Runs.of_lift run
    obtain ⟨_, _, asked⟩ := asked.of_map
    obtain rfl := asked.of_query
    exact .aside rfl (waits_alone fun _ _ hq => by cases hq)
  | now =>
    obtain ⟨asked, rfl⟩ := Runs.of_lift run
    obtain ⟨_, _, asked⟩ := asked.of_map
    obtain rfl := asked.of_query
    exact .aside rfl (waits_alone fun _ _ hq => by cases hq)
  | refuse =>
    obtain ⟨rfl, _, rfl⟩ := Runs.of_throw run
    exact .aside rfl fun e he => (List.not_mem_nil he).elim

/-- In an access, tokens are issued and the calls of its attempts are made, and that is all. -/
theorem accessed_asks {P : Call → Prop} {ds : List Duty} {context : String}
    {attempt : Token → Attempt α} {r : Except Fault α}
    (h : Accessed issue context (fun t => (attempt t).run) slot es r slot')
    (goes : ∀ t, Attempt.Goes P ds t (attempt t)) {e : Facility.Event} (he : e ∈ es) :
    e.query = .issueToken ∨ ∃ t, Event.IsCall P t e := by
  have tried {t : Token} {es : List Facility.Event} {a : Except Setback α}
      (run : (attempt t).run.Runs es a) (he : e ∈ es) :
      e.query = .issueToken ∨ ∃ t, Event.IsCall P t e := .inr ⟨t, (goes t _ _ run).fits e he⟩
  have renewed {es : List Facility.Event} {a : Except ProviderError Token}
      (run : issue.Runs es a) (he : e ∈ es) : e.query = .issueToken ∨ ∃ t, Event.IsCall P t e := by
    rw [issue_runs run] at he
    exact .inl (List.mem_singleton.mp he ▸ rfl)
  have obtained {es : List Facility.Event} {t : Token} (token : Obtained issue slot es t)
      (he : e ∈ es) : e.query = .issueToken ∨ ∃ t, Event.IsCall P t e := by
    cases token with
    | kept => cases he
    | issued run => exact renewed run he
  cases h with
  | tokenless run => exact renewed run he
  | once token first _ =>
    rcases List.mem_append.mp he with he | he
    · exact obtained token he
    · exact tried first he
  | unrenewed token first run =>
    rcases List.mem_append.mp he with he | he
    · exact obtained token he
    rcases List.mem_append.mp he with he | he
    · exact tried first he
    · exact renewed run he
  | twice token first run second =>
    rcases List.mem_append.mp he with he | he
    · exact obtained token he
    rcases List.mem_append.mp he with he | he
    · exact tried first he
    rcases List.mem_append.mp he with he | he
    · exact renewed run he
    · exact tried second he

/-- The calls of an access are those of its attempts. -/
theorem accessed_makes {P : Call → Prop} {ds : List Duty} {context : String}
    {attempt : Token → Attempt α} {r : Except Fault α}
    (h : Accessed issue context (fun t => (attempt t).run) slot es r slot')
    (goes : ∀ t, Attempt.Goes P ds t (attempt t)) {e : Facility.Event} (he : e ∈ es) {c : Call}
    (hc : e.query = .call t c) : P c := by
  rcases accessed_asks h goes he with issued | ⟨t', c', fits, asked⟩
  · rw [hc] at issued
    cases issued
  · rw [hc] at asked
    cases asked
    exact fits

/-- Every call that a step makes is one of those that it is there for. -/
theorem step_makes {s : Step} {r : Except Fault s.Result} (run : s.work.Runs slot es r slot')
    {e : Facility.Event} (he : e ∈ es) {c : Provider.Call} (hc : e.query = .call t c) :
    s.Makes c := by
  cases step_acts run with
  | aside _ waits => exact (waits e he t c hc).elim
  | access accessed goes _ => exact accessed_makes accessed goes he hc

/-! ## Steps that leave client secrets alone -/

/-- An event that neither uses the secret store nor creates a client. -/
inductive Quiet : Facility.Event → Prop
  | issue (a : Except ProviderError Token) : Quiet ⟨.issueToken, a⟩
  | call {t : Token} {c : Call} (spares : ∀ realm client, c ≠ .createClient realm client)
      (a : Except ProviderError c.Answer) : Quiet ⟨.call t c, a⟩
  | entropy (n : Nat) : Quiet ⟨.entropy, n⟩
  | now (n : Nat) : Quiet ⟨.now, n⟩

/-- In a step that calls the provider, tokens are issued and its calls are made, and that is all. -/
theorem step_asks {s : Step} {r : Except Fault s.Result} (busy : s.duties ≠ [])
    (run : s.work.Runs slot es r slot') {e : Facility.Event} (he : e ∈ es) :
    e.query = .issueToken ∨ ∃ t, Event.IsCall s.Makes t e := by
  cases step_acts run with
  | aside idle _ => exact (busy idle).elim
  | access accessed goes _ => exact accessed_asks accessed goes he

theorem step_quiet {s : Step} {r : Except Fault s.Result} (quiet : s.Quiet)
    (run : s.work.Runs slot es r slot') : ∀ e ∈ es, Quiet e := by
  rintro ⟨q, a⟩ he
  have access (busy : s.duties ≠ [])
      (spares : ∀ realm client, ¬ s.Makes (.createClient realm client)) : Quiet ⟨q, a⟩ := by
    rcases step_asks busy run he with rfl | ⟨t, c, made, rfl⟩
    · exact .issue a
    · exact .call (fun realm client same => spares realm client (same ▸ made)) a
  cases s with
  | check =>
    obtain ⟨checked, _⟩ := Runs.of_lift run
    obtain ⟨rfl, _⟩ := checked.of_done
    cases he
  | call | create | grantRole | bindPolicy => exact access (by simp [Step.duties]) quiet
  | readSecret | writeSecret => exact quiet.elim
  | entropy =>
    obtain ⟨n, _, asked⟩ := (Runs.of_lift run).1.of_map
    obtain rfl := asked.of_query
    cases List.mem_singleton.mp he
    exact .entropy n
  | now =>
    obtain ⟨n, _, asked⟩ := (Runs.of_lift run).1.of_map
    obtain rfl := asked.of_query
    cases List.mem_singleton.mp he
    exact .now n
  | refuse =>
    obtain ⟨rfl, _, rfl⟩ := Runs.of_throw run
    cases he

/-! ## What becomes of the kept token -/

/-- The slot is as it was, or it holds a token that was issued meanwhile. -/
def Kept (slot : TokenSlot) (es : List Facility.Event) (slot' : TokenSlot) : Prop :=
  slot' = slot ∨ ∃ t, slot' = ⟨some t⟩ ∧ (⟨.issueToken, .ok t⟩ : Facility.Event) ∈ es

theorem Kept.append {slot₁ : TokenSlot} {es' : List Facility.Event} (h : Kept slot es slot₁)
    (h' : Kept slot₁ es' slot') : Kept slot (es ++ es') slot' := by
  rcases h' with rfl | ⟨t, rfl, issued⟩
  · rcases h with rfl | ⟨t, rfl, issued⟩
    · exact .inl rfl
    · exact .inr ⟨t, rfl, List.mem_append_left _ issued⟩
  · exact .inr ⟨t, rfl, List.mem_append_right _ issued⟩

/-- A slot that holds a token never loses it for nothing. -/
theorem Kept.some {t : Token} (h : Kept ⟨some t⟩ es slot') :
    ∃ t', slot' = ⟨some t'⟩ ∧ (t' = t ∨ (⟨.issueToken, .ok t'⟩ : Facility.Event) ∈ es) := by
  rcases h with rfl | ⟨t', rfl, issued⟩
  · exact ⟨t, rfl, .inl rfl⟩
  · exact ⟨t', rfl, .inr issued⟩

theorem obtained_kept {issued : Token} (h : Obtained issue slot es issued) :
    Kept slot es ⟨some issued⟩ := by
  cases h with
  | kept => exact .inl rfl
  | issued run =>
    rw [issue_runs run]
    exact .inr ⟨issued, rfl, List.mem_singleton.mpr rfl⟩

variable {context : String} {attempt : Token → Program Facility (Except Setback α)}

theorem accessed_kept {r : Except Fault α} (h : Accessed issue context attempt slot es r slot') :
    Kept slot es slot' := by
  cases h with
  | tokenless => exact .inl rfl
  | once token _ _ => exact (obtained_kept token).append (.inl rfl)
  | unrenewed token _ _ => exact (obtained_kept token).append (.inl rfl)
  | twice token _ renewed _ =>
    refine .inr ⟨_, rfl, ?_⟩
    rw [issue_runs renewed]
    simp

/-- An access that succeeds leaves a token in the slot. -/
theorem accessed_ok_token {v : α} (h : Accessed issue context attempt slot es (.ok v) slot') :
    ∃ t, slot' = ⟨some t⟩ := by
  generalize hr : Except.ok v = r at h
  cases h with
  | tokenless => cases hr
  | once => exact ⟨_, rfl⟩
  | unrenewed => exact ⟨_, rfl⟩
  | twice => exact ⟨_, rfl⟩

theorem step_kept (s : Step) {r : Except Fault s.Result} (run : s.work.Runs slot es r slot') :
    Kept slot es slot' := by
  cases step_acts run with
  | aside => exact .inl rfl
  | access accessed _ _ => exact accessed_kept accessed

theorem Logged.kept {x : Work α} {log : List Stage} {r : Except Fault α}
    (h : Logged x slot log r slot') : Kept slot (Stage.trace log) slot' :=
  h.induct (fun _ => .inl rfl) Kept.append fun s => step_kept s

/-! ## One call with a kept token -/

/-- How a single call goes when a token is kept: it is made once, or, if the token is rejected and
renewed, once more. -/
inductive Called (c : Provider.Call) (t : Token) : List Facility.Event → Prop
  | once (a : Except ProviderError c.Answer) (heard : a ≠ .error .unauthorized) :
      Called c t [⟨.call t c, a⟩]
  | unrenewed (e : ProviderError) :
      Called c t [⟨.call t c, .error .unauthorized⟩, ⟨.issueToken, .error e⟩]
  | twice (t' : Token) (a : Except ProviderError c.Answer) :
      Called c t [⟨.call t c, .error .unauthorized⟩, ⟨.issueToken, .ok t'⟩, ⟨.call t' c, a⟩]

/-- A call that is made with a kept token is made with that one first. -/
theorem called_asks {c : Provider.Call} (h : Called c t es) : ∃ a, ⟨.call t c, a⟩ ∈ es := by
  cases h with
  | once => exact ⟨_, List.mem_cons_self⟩
  | unrenewed => exact ⟨_, List.mem_cons_self⟩
  | twice => exact ⟨_, List.mem_cons_self⟩

theorem mapError_raw_unauthorized {a : Except ProviderError α}
    (h : a.mapError Setback.raw = .error (.raw .unauthorized)) : a = .error .unauthorized := by
  cases a with
  | ok v => cases h
  | error e => cases h; rfl

/-- An access to one call succeeds exactly if the call was answered so. -/
theorem accessed_ok_iff {c : Provider.Call} {r : Except Fault c.Answer}
    (h : Accessed issue context (fun t => (Attempt.call c t).run) slot es r slot') (v : c.Answer) :
    r = .ok v ↔ ∃ t, ⟨.call t c, .ok v⟩ ∈ es := by
  have waited {es : List Facility.Event} {t : Token} (waits : ∀ e ∈ es, Waits e)
      (he : ⟨.call t c, .ok v⟩ ∈ es) : False := waits _ he t c rfl
  have unheard {a : Except ProviderError c.Answer} {t t' : Token}
      (ha : (.error (.raw .unauthorized) : Except Setback c.Answer) = a.mapError .raw)
      (he : ⟨.call t' c, .ok v⟩ ∈ [(⟨.call t c, a⟩ : Facility.Event)]) : False := by
    rw [mapError_raw_unauthorized ha.symm] at he
    cases List.mem_singleton.mp he
  have decided (a : Except ProviderError c.Answer)
      (ha : (a.mapError Setback.raw).mapError (Setback.fault context) = .ok v) : a = .ok v := by
    cases a with
    | ok u => cases ha; rfl
    | error e => cases ha
  constructor
  · intro hr
    cases h with
    | tokenless => cases hr
    | once token tried _ =>
      obtain ⟨a, rfl, rfl⟩ := Attempt.runs_call tried
      obtain rfl := decided a hr
      exact ⟨_, List.mem_append_right _ (List.mem_singleton.mpr rfl)⟩
    | unrenewed => cases hr
    | @twice _ _ _ _ _ _ t' _ token tried renewed retried =>
      obtain ⟨b, rfl, rfl⟩ := Attempt.runs_call retried
      obtain rfl := decided b hr
      refine ⟨t', List.mem_append_right _ (List.mem_append_right _ (List.mem_append_right _ ?_))⟩
      exact List.mem_singleton.mpr rfl
  · rintro ⟨t, he⟩
    cases h with
    | tokenless issued => exact (waited (issue_waits issued) he).elim
    | once token tried _ =>
      obtain ⟨a, rfl, rfl⟩ := Attempt.runs_call tried
      rcases List.mem_append.mp he with he | he
      · exact (waited (obtained_waits token) he).elim
      · cases List.mem_singleton.mp he
        rfl
    | unrenewed token tried renewed =>
      obtain ⟨a, rfl, ha⟩ := Attempt.runs_call tried
      rcases List.mem_append.mp he with he | he
      · exact (waited (obtained_waits token) he).elim
      rcases List.mem_append.mp he with he | he
      · exact (unheard ha he).elim
      · exact (waited (issue_waits renewed) he).elim
    | twice token tried renewed retried =>
      obtain ⟨a, rfl, ha⟩ := Attempt.runs_call tried
      obtain ⟨b, rfl, rfl⟩ := Attempt.runs_call retried
      rcases List.mem_append.mp he with he | he
      · exact (waited (obtained_waits token) he).elim
      rcases List.mem_append.mp he with he | he
      · exact (unheard ha he).elim
      rcases List.mem_append.mp he with he | he
      · exact (waited (issue_waits renewed) he).elim
      · cases List.mem_singleton.mp he
        rfl

theorem called_of_kept {c : Provider.Call} {r : Except Fault c.Answer}
    (h : (Work.call context c).Runs ⟨some t⟩ es r slot') : Called c t es := by
  cases Runs.of_access h with
  | once token tried heard =>
    cases token
    obtain ⟨a, rfl, rfl⟩ := Attempt.runs_call tried
    exact .once a fun ha => heard (by rw [ha]; rfl)
  | unrenewed token tried renewed =>
    cases token
    obtain ⟨a, rfl, ha⟩ := Attempt.runs_call tried
    rw [mapError_raw_unauthorized ha.symm, issue_runs renewed]
    exact .unrenewed _
  | twice token tried renewed retried =>
    cases token
    obtain ⟨a, rfl, ha⟩ := Attempt.runs_call tried
    obtain ⟨b, rfl, _⟩ := Attempt.runs_call retried
    rw [mapError_raw_unauthorized ha.symm, issue_runs renewed]
    exact .twice _ _

end Work

end Tenancy
