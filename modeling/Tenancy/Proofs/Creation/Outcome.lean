import Tenancy.Proofs.Creation.Location
import Tenancy.Proofs.Session.Conduct
import Tenancy.Work

/-!
# What a creation comes to

A creation asks for a receipt by a call with a token and then judges it. Any receipt ends the call,
one with the status of a rejected token included, for a receipt is a value and not a failure. It makes
a success if its status is one and it names an id; otherwise the failure says what was to be created
and what is wrong with the receipt, or passes on why there is none.
-/

namespace Tenancy

/-- A status that says that something was done. -/
def Status.Succeeds (s : Status) : Prop := 200 ≤ s.code ∧ s.code < 300

theorem Status.isSuccess_iff {s : Status} : s.isSuccess = true ↔ s.Succeeds := by
  simp [isSuccess, Succeeds]

namespace Session

variable {I : Interface} {ρ : Type} [Resource ρ] {thing : ρ}
  {issue : Program I (Except ProviderError Token)}
  {attempt : Token → Program I (Except ProviderError Receipt)} {slot slot' : TokenSlot}
  {es : List I.Event}

/-- What a creation comes to under a text that says what was attempted, given the moves of its call and
what these reported. -/
structure Concluded (context : String) (slot : TokenSlot) (moves : List (Moves Receipt).Event)
    (reported : Except Fault Receipt) (r : Except Fault String) : Prop where
  conducted : Conducted context slot moves reported
  /-- A receipt of whatever status is the end of the call. -/
  answered : ∀ before t receipt after, moves = before ++ attempted t (.ok receipt) :: after →
    after = [] ∧ reported = .ok receipt
  succeeds : ∀ id, r = .ok id ↔
    ∃ receipt, reported = .ok receipt ∧ receipt.status.Succeeds ∧ receipt.Names id
  /-- Whatever stands in front of it and however many slashes behind it, a part behind a slash is the
  id. -/
  ends : ∀ receipt front part n, reported = .ok receipt → receipt.status.Succeeds →
    receipt.location = some (String.ofList (front ++ '/' :: part ++ List.replicate n '/')) →
    part ≠ [] → '/' ∉ part → r = .ok (String.ofList part)
  nameless : ∀ receipt, reported = .ok receipt → receipt.status.Succeeds →
    (∀ id, ¬ receipt.Names id) →
    r = .error (.provider (context ++ ": response carries no id") none)
  refused : ∀ receipt, reported = .ok receipt → ¬ receipt.status.Succeeds →
    r = .error (.provider
      (context ++ ": " ++
        (toString receipt.status.code ++ " " ++ receipt.status.reason?.getD "Unknown"))
      (some (.status receipt.status ((receipt.body.map Json.compact).getD ""))))
  /-- Without a receipt the error of the last move is the source. -/
  failed : ∀ f, reported = .error f → ∃ before e,
    (moves = before ++ [issued (.error e)] ∨
      ∃ t, moves = before ++ [attempted t (.error (.raw e))]) ∧
    r = .error (.provider context (some e))

/-- The attempts of a creation do not fail in their own right. -/
theorem carried_unsettled {moves : List (Moves Receipt).Event} {t : Token} {f : Fault}
    (made : Program.Carried
      (Move.make issue fun t => (·.mapError Setback.raw) <$> attempt t) moves es)
    (asked : attempted t (.error (.settled f)) ∈ moves) : False := by
  obtain ⟨ks, run, _⟩ := made.sink asked
  have tried : ((·.mapError Setback.raw) <$> attempt t).Runs ks (.error (.settled f)) := run
  obtain ⟨a, settled, _⟩ := tried.of_map
  cases a <;> cases settled

section Judging

variable {receipt : Receipt} {context : String}

theorem outcome_nameless (success : receipt.status.Succeeds) (nameless : ∀ id, ¬ receipt.Names id) :
    receipt.outcome context = .error (.provider (context ++ ": response carries no id") none) := by
  have none : receipt.id? = none := by
    cases h : receipt.id? with
    | none => rfl
    | some id => exact (nameless id (Receipt.id?_iff.mp h)).elim
  simp only [Receipt.outcome, Status.isSuccess_iff.mpr success, if_true, none]

theorem outcome_refused (refused : ¬ receipt.status.Succeeds) :
    receipt.outcome context = .error (.provider
      (context ++ ": " ++
        (toString receipt.status.code ++ " " ++ receipt.status.reason?.getD "Unknown"))
      (some (.status receipt.status ((receipt.body.map Json.compact).getD "")))) := by
  have unsuccessful : receipt.status.isSuccess = false :=
    Bool.eq_false_iff.mpr fun success => refused (Status.isSuccess_iff.mp success)
  simp only [Receipt.outcome, unsuccessful, Bool.false_eq_true, if_false, Receipt.statusText]

theorem outcome_named {id : String} :
    receipt.outcome context = .ok id ↔ receipt.status.Succeeds ∧ receipt.Names id := by
  rw [Receipt.outcome_eq_ok, Status.isSuccess_iff, Receipt.id?_iff]

end Judging

/-- Whatever tokens and answers it gets, a creation is a call with a token that is conducted like any
other one, and it succeeds exactly if this reports a receipt of success that names an id. A failure
names what was to be created and says why. -/
theorem create_concluded {r : Except Fault String}
    (run : (create issue thing attempt).Runs slot es r slot') :
    ∃ moves reported,
      Program.Carried (Move.make issue fun t => (·.mapError Setback.raw) <$> attempt t) moves es ∧
      Concluded ("Failed to create " ++ Resource.kind ρ ++ " '" ++ Resource.label thing ++ "'") slot
        moves reported r := by
  obtain ⟨reported, accessed, rfl⟩ := Runs.of_create run
  obtain ⟨before, last, made, course, settles⟩ := accessed_course accessed
  have conducted := course.conducted settles
  refine ⟨before ++ [last], reported, made, conducted, ?answered, ?succeeds, ?ends, ?nameless,
    ?refused, ?failed⟩
  case answered =>
    intro before' t receipt after cut
    exact conducted.final _ _ _ _ cut (.succeeded t receipt) (by rintro _ ⟨⟩)
  case succeeds =>
    intro id
    cases reported with
    | error f => exact iff_of_false (by rintro ⟨⟩) (by rintro ⟨_, ⟨⟩, _⟩)
    | ok receipt =>
      refine Iff.trans outcome_named ⟨fun named => ⟨receipt, rfl, named⟩, ?_⟩
      rintro ⟨_, ⟨⟩, named⟩
      exact named
  case ends =>
    rintro receipt front part n rfl success located full slashless
    have ends := EndsIn.after_slash full slashless front n
    exact outcome_named.mpr ⟨success, .located located (by simpa using ends)⟩
  case nameless =>
    rintro receipt rfl success nameless
    exact outcome_nameless success nameless
  case refused =>
    rintro receipt rfl refused
    exact outcome_refused refused
  case failed =>
    rintro f rfl
    cases settles with
    | unissued e => exact ⟨before, e, .inl rfl, rfl⟩
    | failed t e => exact ⟨before, e, .inr ⟨t, rfl⟩, rfl⟩
    | settled t f => exact (carried_unsettled made (t := t) (f := f) (by simp)).elim

/-- A role. -/
def auditor : Wire.Role := ⟨none, "auditor", none⟩

/-- Its creation, with a first attempt whose token is rejected. -/
def auditorEvents : List Facility.Event :=
  [⟨.call "a" (.createRole "acme" auditor), .error .unauthorized⟩, ⟨.issueToken, .ok "b"⟩,
   ⟨.call "b" (.createRole "acme" auditor),
    .ok (.created "http://kc/admin/realms/acme/roles-by-id/7f3c-11//")⟩]

theorem auditor_concluded :
    (create Facility.issue auditor (Facility.call (.createRole "acme" auditor))).Runs ⟨some "a"⟩
      auditorEvents (.ok "7f3c-11") ⟨some "b"⟩ ∧
    ∃ moves reported,
      Program.Carried (Move.make Facility.issue fun t =>
        (·.mapError Setback.raw) <$> Facility.call (.createRole "acme" auditor) t) moves
        auditorEvents ∧
      Concluded "Failed to create role 'auditor'" ⟨some "a"⟩ moves reported (.ok "7f3c-11") := by
  have run : (create Facility.issue auditor (Facility.call (.createRole "acme" auditor))).Runs
      ⟨some "a"⟩ auditorEvents (.ok "7f3c-11") ⟨some "b"⟩ := .ask (.ask (.ask (.done _)))
  exact ⟨run, create_concluded run⟩

end Session

end Tenancy
