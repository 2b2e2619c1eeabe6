import Tenancy.Proofs.Work.Log

/-!
# Attempts

An attempt is made of calls with one token. What it is there to call is a list of duties: the calls
follow the list, and the first one that fails is the last one. `Went` says this of one run, and
`Attempt.Goes` of all of them, which follows the attempt as it is put together.
-/

namespace Tenancy

namespace Provider

/-- What a call is made for: the call without what the provider assigned or answered before. -/
inductive Duty where
  | findRealm (realm : String)
  | createRealm (realm : String)
  | updateRealm (realm : String)
  | deleteRealm (realm : String)
  | createRole (realm name : String) (description : Option String)
  | findRole (realm name : String)
  | createClient (realm clientId : String) (description : Option String)
  | findClients (realm clientId : String)
  | serviceAccount (realm : String)
  | addRoles (realm : String)
  | enablePermissions (realm : String)
  | createPolicy (realm : String)
  | findPermission (realm : String)
  | findPolicies (realm : String)
  | updatePermission (realm : String)
  | serverInfo
  deriving DecidableEq, Repr

/-- The duty that a call serves. -/
def Call.duty : Call → Duty
  | .findRealm realm => .findRealm realm
  | .createRealm realm => .createRealm realm.realm
  | .updateRealm realm => .updateRealm realm.realm
  | .deleteRealm realm => .deleteRealm realm
  | .createRole realm role => .createRole realm role.name role.description
  | .findRole realm name => .findRole realm name
  | .createClient realm client => .createClient realm client.clientId client.description
  | .findClients realm clientId => .findClients realm clientId
  | .serviceAccount realm _ => .serviceAccount realm
  | .addRoles realm _ _ => .addRoles realm
  | .enablePermissions realm => .enablePermissions realm
  | .createPolicy realm _ _ => .createPolicy realm
  | .findPermission realm _ _ => .findPermission realm
  | .findPolicies realm _ _ => .findPolicies realm
  | .updatePermission realm _ _ => .updatePermission realm
  | .serverInfo => .serverInfo

end Provider

/-- Whether an event is a call, with its token, of one of the given kind. -/
def Facility.Event.IsCall (P : Provider.Call → Prop) (t : Token) (e : Facility.Event) : Prop :=
  ∃ c, P c ∧ e.query = .call t c

open Facility Provider

namespace Work

variable {α β : Type} {P : Call → Prop} {t : Token} {ds ds' : List Duty}
  {es es' : List Facility.Event}

/-- A run of an attempt at a list of duties, by calls of the given kind: one for each duty, until one
fails or what was found does not allow for the next. -/
inductive Went {α : Type} (P : Call → Prop) (t : Token) :
    List Duty → List Facility.Event → Except Setback α → Prop
  | done (v : α) : Went P t [] [] (.ok v)
  | refused (ds : List Duty) (f : Fault) : Went P t ds [] (.error (.settled f))
  | failed (c : Call) (fits : P c) (e : ProviderError) (ds : List Duty) :
      Went P t (c.duty :: ds) [⟨.call t c, .error e⟩] (.error (.raw e))
  | next {ds : List Duty} {es : List Facility.Event} {r : Except Setback α} (c : Call) (fits : P c)
      (v : c.Answer) (rest : Went P t ds es r) :
      Went P t (c.duty :: ds) (⟨.call t c, .ok v⟩ :: es) r

theorem Went.append {v : α} {r : Except Setback β} (h : Went P t ds es (.ok v))
    (h' : Went P t ds' es' r) : Went P t (ds ++ ds') (es ++ es') r := by
  generalize hr : Except.ok v = r₁ at h
  induction h with
  | done => exact h'
  | refused => cases hr
  | failed => cases hr
  | next c fits u _ ih => exact .next c fits u (ih hr)

theorem Went.stop {s : Setback} (h : Went (α := α) P t ds es (.error s)) :
    Went (α := β) P t (ds ++ ds') es (.error s) := by
  generalize hr : Except.error s = r at h
  induction h with
  | done => cases hr
  | refused => cases hr; exact .refused _ _
  | failed c fits => cases hr; exact .failed c fits _ _
  | next c fits u _ ih => exact .next c fits u (ih hr)

theorem Went.fits {r : Except Setback α} (h : Went P t ds es r) : ∀ e ∈ es, Event.IsCall P t e := by
  induction h with
  | done => exact fun e he => (List.not_mem_nil he).elim
  | refused => exact fun e he => (List.not_mem_nil he).elim
  | failed c fits e ds =>
    intro e he
    obtain rfl := List.mem_singleton.mp he
    exact ⟨c, fits, rfl⟩
  | next c fits v _ ih =>
    intro e he
    rcases List.mem_cons.mp he with rfl | he
    · exact ⟨c, fits, rfl⟩
    · exact ih e he

/-! ## Putting attempts together -/

theorem Attempt.runs_call {c : Call} {a : Except Setback c.Answer}
    (h : (Attempt.call c t).run.Runs es a) :
    ∃ ans, es = [⟨.call t c, ans⟩] ∧ a = ans.mapError Setback.raw := by
  obtain ⟨ans, rfl, run⟩ := Program.Runs.of_map h
  exact ⟨ans, run.of_query, rfl⟩

/-- Every run of the attempt goes by the duties. -/
def Attempt.Goes (P : Call → Prop) (ds : List Duty) (t : Token) (x : Attempt α) : Prop :=
  ∀ es r, x.run.Runs es r → Went P t ds es r

theorem Attempt.Goes.call (c : Call) (fits : P c) :
    Attempt.Goes P [c.duty] t (Attempt.call c t) := by
  intro es r run
  obtain ⟨a, rfl, rfl⟩ := Attempt.runs_call run
  cases a with
  | ok v => exact .next c fits v (.done v)
  | error e => exact .failed c fits e []

theorem Attempt.Goes.refuse (f : Fault) :
    Attempt.Goes P ds t (throw (.settled f) : Attempt α) := by
  intro es r run
  obtain ⟨rfl, rfl⟩ := Program.Runs.of_done run
  exact .refused ds f

theorem Attempt.Goes.bind {x : Attempt α} {f : α → Attempt β} (hx : Attempt.Goes P ds t x)
    (hf : ∀ v, Attempt.Goes P ds' t (f v)) : Attempt.Goes P (ds ++ ds') t (x >>= f) := by
  intro es r run
  rcases run.of_exceptBind with ⟨s, first, rfl⟩ | ⟨v, es₁, es₂, rfl, first, second⟩
  · exact (hx _ _ first).stop
  · exact (hx _ _ first).append (hf v _ _ second)

end Work

end Tenancy
