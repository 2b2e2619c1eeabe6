import Tenancy.Proofs.Provider.Answers
import Tenancy.Proofs.Session.Agreement
import Tenancy.Proofs.Work.Log

/-!
# Work that does not show bodies

Two outcomes of one request are alike if they are the same, or the same but for the delivered bodies
of two answers that are no success. What a call makes of such outcomes is alike in turn: the same
answer, errors that differ in the body only, or receipts that say the same of a failure. Work is
discreet if it agrees with itself under such answers and ends with the same value. Steps that look at
a receipt look at its body only if it is a success.
-/

namespace Tenancy

/-- Answers that are the same but for what a failure's body says. -/
inductive Outside.Alike : (q : Outside.Query) → q.Answer → q.Answer → Prop
  | same {q : Outside.Query} (a : q.Answer) : Alike q a a
  | body {r : Http.Request} {s : Status} (failed : s.isSuccess = false)
      (headers : List (String × String)) (bytes bytes' : Bytes) :
      Alike (.exchange r) (.ok ⟨s, headers, .ok bytes⟩) (.ok ⟨s, headers, .ok bytes'⟩)

/-- Answers to provisioning that are the same but for what a failure's body says. -/
inductive Facility.Alike : (q : Facility.Query) → q.Answer → q.Answer → Prop
  | same {q : Facility.Query} (a : q.Answer) : Alike q a a
  | failed {t : Token} {c : Provider.Call} {e e' : ProviderError} (h : e.Alike e') :
      Alike (.call t c) (.error e) (.error e')
  | unissued {e e' : ProviderError} (h : e.Alike e') : Alike .issueToken (.error e) (.error e')
  | received {t : Token} {c : Provider.Call} {receive : Receipt → c.Answer}
      (whole : c.reception = .whole receive) {s : Status} (failed : s.isSuccess = false)
      (location : Option String) (body body' : Option Json) :
      Alike (.call t c) (.ok (receive ⟨s, location, body⟩)) (.ok (receive ⟨s, location, body'⟩))

namespace Provider

/-! ## Answers -/

/-- Whatever is read of failures is the same, or says the same status. -/
theorem Reception.Judges.alike {α : Type} {nothing : Option α}
    {read : Http.Reply → Except ProviderError α} (h : Judges nothing read) {r r' : Http.Reply}
    (status : r'.status = r.status) (known : r.status.code ≠ 401)
    (failed : r.status.isSuccess = false) : Matched ProviderError.Alike Eq (read r) (read r') := by
  have refused (there : r.status.code = 404 → nothing = none) :
      Matched ProviderError.Alike Eq (read r) (read r') := by
    rw [h.refused r known there failed, h.refused r' (status ▸ known) (status ▸ there)
      (status ▸ failed), status]
    exact .error (.status ..)
  cases nothing with
  | none => exact refused fun _ => rfl
  | some a =>
    by_cases missing : r.status.code = 404
    · rw [h.absent a rfl r missing, h.absent a rfl r' (status ▸ missing)]
      exact .ok rfl
    · exact refused fun there => (missing there).elim

/-- Whatever is handed over of answers that differ in the body says the same otherwise. -/
theorem Reception.Delivers.alike {α : Type} {receive : Receipt → α}
    {read : Http.Reply → Except ProviderError α} (h : Delivers receive read) {s : Status}
    (known : s.code ≠ 401) (headers : List (String × String)) (bytes bytes' : Bytes) :
    ∃ location body body', read ⟨s, headers, .ok bytes⟩ = .ok (receive ⟨s, location, body⟩) ∧
      read ⟨s, headers, .ok bytes'⟩ = .ok (receive ⟨s, location, body'⟩) := by
  obtain ⟨⟨t, location, body⟩, read, status, place, _⟩ := h ⟨s, headers, .ok bytes⟩ bytes known rfl
  obtain ⟨⟨t', location', body'⟩, read', status', place', _⟩ :=
    h ⟨s, headers, .ok bytes'⟩ bytes' known rfl
  have same : location' = location := Option.ext fun v => (place' v).trans (place v).symm
  simp only at status status'
  subst status status' same
  exact ⟨_, body, body', read, read'⟩

theorem alike_of_received {t : Token} {c : Call} {receive : Receipt → c.Answer} {s : Status}
    {location : Option String} {body body' : Option Json} {a a' : Except ProviderError c.Answer}
    (whole : c.reception = .whole receive) (failed : s.isSuccess = false)
    (h : a = .ok (receive ⟨s, location, body⟩)) (h' : a' = .ok (receive ⟨s, location, body'⟩)) :
    Facility.Alike (.call t c) a a' := by
  subst h h'
  exact .received whole failed location body body'

theorem alike_of_matched {t : Token} {c : Call} {a a' : Except ProviderError c.Answer}
    (h : Matched ProviderError.Alike Eq a a') : Facility.Alike (.call t c) a a' := by
  cases h with
  | ok same => exact same ▸ .same _
  | error h => exact .failed h

theorem Call.answer_alike (t : Token) (c : Call) {r : Http.Request} {o o' : Http.Outcome}
    (h : Outside.Alike (.exchange r) o o') : Facility.Alike (.call t c) (c.answer o) (c.answer o') := by
  cases h with
  | same => exact .same _
  | @body _ s failed headers bytes bytes' =>
    have classified := c.answer_classifies
    by_cases rejected : s.code = 401
    · rw [classified.rejected _ rejected, classified.rejected _ rejected]
      exact .same _
    have heard := classified.heard
    cases hk : c.reception with
    | blind nothing answer =>
      rw [hk] at heard
      exact alike_of_matched (heard.1.alike rfl rejected failed)
    | spelt nothing codec view =>
      rw [hk] at heard
      exact alike_of_matched (heard.1.alike rfl rejected failed)
    | whole receive =>
      rw [hk] at heard
      obtain ⟨location, body, body', read, read'⟩ := heard.alike rejected headers bytes bytes'
      exact alike_of_received hk failed read read'

/-! ## Programs -/

open Program (Agrees)

theorem agrees_ask (q : Outside.Query) :
    Agrees Outside.Alike (Outside.Alike q) (Outside.ask q) (Outside.ask q) := .query (I := Outside) q

theorem agrees_send (r : Http.Request) :
    Agrees Outside.Alike (Outside.Alike (.exchange r)) (Outside.send r) (Outside.send r) := by
  unfold Outside.send
  cases r.defect? with
  | none => exact agrees_ask _
  | some c => exact .done (.same _)

theorem Call.agrees_perform (base : Url) (t : Token) (c : Call) :
    Agrees Outside.Alike (Facility.Alike (.call t c)) (c.perform base t) (c.perform base t) := by
  unfold Call.perform
  cases c.request base t with
  | error e => exact .done (.same _)
  | ok r => exact (agrees_send r).bind fun o o' h => .done (c.answer_alike t h)

theorem Login.read_alike {r r' : Http.Reply} (status : r'.status = r.status)
    (failed : r.status.isSuccess = false) : Matched ProviderError.Alike Eq (read r) (read r') := by
  unfold read
  rw [status, failed]
  by_cases rejected : r.status = .unauthorized
  · rw [if_pos rejected, if_pos rejected]
    exact .error (.same _)
  · rw [if_neg rejected, if_neg rejected]
    exact .error (.status ..)

theorem Login.agrees_lookup (key : String) :
    Agrees Outside.Alike Eq (lookup key) (lookup key) := by
  refine (agrees_ask _).bind fun a a' h => ?_
  cases h
  cases a <;> exact .done rfl

theorem Login.agrees_asked (l : Login) (secret password : Option String) :
    Agrees Outside.Alike (Matched ProviderError.Alike Eq) (l.ask secret password)
      (l.ask secret password) := by
  refine (agrees_send _).bind fun o o' h => ?_
  cases h with
  | same =>
    cases o with
    | error cause => exact .done (.error (.same _))
    | ok r => exact .done (.refl .same (fun _ => rfl) _)
  | body failed => exact .done (read_alike rfl failed)

theorem Login.agrees_issue (l : Login) :
    Agrees Outside.Alike (Matched ProviderError.Alike Eq) l.issue l.issue := by
  refine (agrees_lookup _).bind fun secret _ same => ?_
  cases same
  cases l.settings.grantType with
  | clientCredentials => exact l.agrees_asked secret none
  | password =>
    refine (agrees_lookup _).bind fun password _ same => ?_
    cases same
    exact l.agrees_asked secret password

/-- Each question of provisioning is answered alike over the network. -/
theorem Endpoint.agrees_find (e : Endpoint) (q : Facility.Query) :
    Agrees Outside.Alike (Facility.Alike q) (e.find q) (e.find q) := by
  have passed {q' : Outside.Query} {q : Facility.Query} (same : q'.Answer = q.Answer)
      (alike : ∀ a a' : q'.Answer, Outside.Alike q' a a' → a = a') :
      ∀ a a' : q'.Answer, Outside.Alike q' a a' → Facility.Alike q (cast same a) (cast same a') := by
    intro a a' h
    cases alike a a' h
    exact .same _
  cases q with
  | call t c => exact c.agrees_perform e.base t
  | issueToken =>
    refine e.login.agrees_issue.mono fun a a' h => ?_
    cases h with
    | ok same => exact same ▸ .same _
    | error h => exact .unissued h
  | readSecret key => exact (agrees_ask (.readSecret key)).mono (passed rfl fun _ _ h => by cases h; rfl)
  | writeSecret key value =>
    exact (agrees_ask (.writeSecret key value)).mono (passed rfl fun _ _ h => by cases h; rfl)
  | entropy => exact (agrees_ask .entropy).mono (passed rfl fun _ _ h => by cases h; rfl)
  | now => exact (agrees_ask .now).mono (passed rfl fun _ _ h => by cases h; rfl)

end Provider

/-! ## Work -/

namespace Work

open Session (Agrees)

variable {α β : Type}

/-- The work asks the same and ends with the same value and token if what it is told differs in the
bodies of failures only; its own failures then differ in no more than that. -/
def Discreet (w : Work α) : Prop := Agrees Facility.Alike Fault.Alike Eq w w

theorem Discreet.pure (v : α) : Discreet (Pure.pure v : Work α) := Agrees.pure rfl

theorem Discreet.refuse (f : Fault) : Discreet (throw f : Work α) := Agrees.throw (.same f)

theorem Discreet.bind {w : Work α} {f : α → Work β} (h : Discreet w) (rest : ∀ v, Discreet (f v)) :
    Discreet (w >>= f) := by
  refine Agrees.bind h fun v v' same => ?_
  cases same
  exact rest v

theorem agrees_issue : Program.Agrees Facility.Alike (Matched ProviderError.Alike Eq)
    Facility.issue Facility.issue := by
  refine .ask fun a a' h => .done ?_
  cases h with
  | same => exact .refl .same (fun _ => rfl) a
  | unissued h => exact .error h

/-- Whether a question neither makes a call nor requests a token. -/
def isAside : Facility.Query → Bool
  | .call _ _ => false
  | .issueToken => false
  | _ => true

theorem alike_aside {q : Facility.Query} {a a' : q.Answer} (h : Facility.Alike q a a')
    (aside : isAside q = true) : a = a' := by
  cases h with
  | same => rfl
  | failed => cases aside
  | unissued => cases aside
  | received => cases aside

theorem agrees_aside {q : Facility.Query} (aside : isAside q = true) :
    Program.Agrees Facility.Alike Eq (Facility.ask q) (Facility.ask q) :=
  .ask fun _ _ h => .done (alike_aside h aside)

theorem Discreet.lift {x : Program Facility (Except Fault α)}
    (h : Program.Agrees Facility.Alike Eq x x) : Discreet (Session.lift x) :=
  Agrees.lift (h.mono fun a _ same => same ▸ .refl .same (fun _ => rfl) a)

theorem Discreet.ask {q : Facility.Query} (aside : isAside q = true) : Discreet (Work.ask q) :=
  .lift ((agrees_aside aside).map fun _ _ same => congrArg Except.ok same)

theorem Discreet.now : Discreet (Work.ask .now) := .ask rfl

theorem Discreet.entropy : Discreet (Work.ask .entropy) := .ask rfl

theorem Discreet.readSecret (key : String) :
    Discreet (Session.lift (Facility.ask (.readSecret key))) :=
  .lift (agrees_aside (q := .readSecret key) rfl)

theorem Discreet.writeSecret (key value : String) :
    Discreet (Session.lift (Facility.ask (.writeSecret key value))) :=
  .lift (agrees_aside (q := .writeSecret key value) rfl)

/-! ### Attempts -/

/-- The attempt ends with the same value, or with setbacks that differ in a failure's body only. -/
def Attempt.Discreet (x : Attempt α) : Prop :=
  Program.Agrees Facility.Alike (Matched Setback.Alike Eq) x.run x.run

theorem Attempt.Discreet.bind {x : Attempt α} {f : α → Attempt β} (h : x.Discreet)
    (rest : ∀ v, (f v).Discreet) : (x >>= f).Discreet := by
  refine Program.Agrees.bind h fun r r' matched => ?_
  cases matched with
  | ok same =>
    cases same
    exact rest _
  | error h => exact .done (.error h)

theorem Attempt.Discreet.refuse (f : Fault) : (throw (.settled f) : Attempt α).Discreet :=
  .done (.error (.settled (.same f)))

theorem agrees_call {c : Provider.Call} (judged : c.reception.isWhole = false)
    (t : Token) : Program.Agrees Facility.Alike (Matched ProviderError.Alike Eq) (Facility.call c t)
      (Facility.call c t) := by
  refine .ask fun a a' h => .done ?_
  cases h with
  | same => exact .refl .same (fun _ => rfl) a
  | failed h => exact .error h
  | received whole =>
    rw [whole] at judged
    cases judged

theorem Attempt.Discreet.call {c : Provider.Call} (judged : c.reception.isWhole = false)
    (t : Token) : (Attempt.call c t).Discreet :=
  (agrees_call judged t).map fun _ _ matched => matched.mapError fun _ _ h => .raw h

theorem Discreet.calls {context : String} {attempt : Token → Attempt α}
    (h : ∀ t, (attempt t).Discreet) : Discreet (Work.calls context attempt) :=
  Agrees.access agrees_issue h

theorem Discreet.call {c : Provider.Call} (judged : c.reception.isWhole = false)
    (context : String) : Discreet (Work.call context c) :=
  Agrees.access agrees_issue (Attempt.Discreet.call judged)

/-! ### Creations -/

/-- Receipts that are the same, or say the same of a failure but for its body. -/
inductive Receipt.Alike : Receipt → Receipt → Prop
  | same (r : Receipt) : Alike r r
  | body {s : Status} (failed : s.isSuccess = false) (location : Option String)
      (body body' : Option Json) : Alike ⟨s, location, body⟩ ⟨s, location, body'⟩

theorem outcome_alike {r r' : Receipt} (h : Receipt.Alike r r') (context : String) :
    Matched Fault.Alike Eq (r.outcome context) (r'.outcome context) := by
  cases h with
  | same => exact .refl .same (fun _ => rfl) _
  | body failed =>
    simp only [Receipt.outcome, failed, Bool.false_eq_true, if_false]
    exact .error (.provider _ (.status ..))

theorem Discreet.created {ρ : Type} [Resource ρ] (thing : ρ)
    {attempt : Token → Program Facility (Except ProviderError Receipt)}
    (tried : ∀ t, Program.Agrees Facility.Alike (Matched ProviderError.Alike Receipt.Alike)
      (attempt t) (attempt t)) : Discreet (Work.create thing attempt) := by
  refine Agrees.bind (Agrees.access agrees_issue fun t => ?_) fun r r' h =>
    .lift (.done (outcome_alike h (Resource.context thing)))
  exact (tried t).map fun _ _ matched => matched.mapError fun _ _ h => Setback.Alike.raw h

theorem Discreet.create (c : Creation) : Discreet c.work := by
  -- A receipt of a failure shows its body, so receipts are alike where other answers are equal.
  have tried {c : Provider.Call} {receive : Receipt → c.Answer} (whole : c.reception = .whole receive)
      {R : c.Answer → c.Answer → Prop} (same : ∀ a, R a a)
      (alike : ∀ r r', Receipt.Alike r r' → R (receive r) (receive r')) (t : Token) :
      Program.Agrees Facility.Alike (Matched ProviderError.Alike R) (Facility.call c t)
        (Facility.call c t) := by
    refine .ask fun a a' h => .done ?_
    cases h with
    | same => exact .refl .same same a
    | failed h => exact .error h
    | received whole' failed location body body' =>
      cases whole.symm.trans whole'
      exact .ok (alike _ _ (.body failed location body body'))
  cases c with
  | realm r => exact .created r (tried (c := .createRealm r) rfl .same fun _ _ h => h)
  | role name r => exact .created r (tried (c := .createRole name r) rfl .same fun _ _ h => h)
  | client name r => exact .created r (tried (c := .createClient name r) rfl .same fun _ _ h => h)
  | policy name server r =>
    exact .created r (tried (c := .createPolicy name server r) rfl .same fun _ _ h => h)

end Work

end Tenancy
