import Tenancy.Proofs.Realm.Filling
import Tenancy.Proofs.Work.Past

/-!
# Taking back a realm that could not be filled

Establishing a realm is a plain sequence of steps, in which nothing is ever removed, with one
removal put after it. The removal comes exactly if the realm was absent, was created under an id and
then a later step failed. It is one call for the tenant's own realm, it is the last thing that
happens, and nothing that becomes of it is heard of: the failure is the one that the plain sequence
has, which is that of its first step that failed.
-/

namespace Tenancy.Realm

open Provider Work Session

/-! ## What establishing comes to -/

/-- What establishing a realm comes to. -/
inductive Established (d : Design) (t : Tenant) :
    TokenSlot → List Facility.Event → Except Fault Wire.Realm → TokenSlot → Prop
  | ineligible {slot : TokenSlot} {f : Fault} (checked : eligible t = .error f) :
      Established d t slot [] (.error f) slot
  | unseen {slot slot' : TokenSlot} {es : List Facility.Event} {id : Uuid} {f : Fault}
      (checked : eligible t = .ok id) (looked : (lookup t.name).Runs slot es (.error f) slot') :
      Established d t slot es (.error f) slot'
  | found {slot slot' : TokenSlot} {es : List Facility.Event} {id : Uuid} {realm : Wire.Realm}
      (checked : eligible t = .ok id)
      (looked : (lookup t.name).Runs slot es (.ok (some realm)) slot') :
      Established d t slot es (.ok realm) slot'
  | uncreated {slot slot₁ slot' : TokenSlot} {es₁ es₂ : List Facility.Event} {id : Uuid} {f : Fault}
      (checked : eligible t = .ok id) (looked : (lookup t.name).Runs slot es₁ (.ok none) slot₁)
      (created : (Creation.realm (d.blueprint.realm d.lifetimes id t)).work.Runs slot₁ es₂ (.error f)
        slot') :
      Established d t slot (es₁ ++ es₂) (.error f) slot'
  | filled {slot slot₁ slot₂ slot' : TokenSlot} {es₁ es₂ es₃ : List Facility.Event} {id : Uuid}
      {realmId : String} (checked : eligible t = .ok id)
      (looked : (lookup t.name).Runs slot es₁ (.ok none) slot₁)
      (created : (Creation.realm (d.blueprint.realm d.lifetimes id t)).work.Runs slot₁ es₂
        (.ok realmId) slot₂)
      (filled : (d.plan.fill t.name).Runs slot₂ es₃ (.ok ()) slot') :
      Established d t slot (es₁ ++ (es₂ ++ es₃)) (.ok (d.blueprint.realm d.lifetimes id t)) slot'
  | removed {slot slot₁ slot₂ slot₃ slot' : TokenSlot} {es₁ es₂ es₃ es₄ : List Facility.Event}
      {id : Uuid} {realmId : String} {f : Fault} {a : Except Fault Bool}
      (checked : eligible t = .ok id) (looked : (lookup t.name).Runs slot es₁ (.ok none) slot₁)
      (created : (Creation.realm (d.blueprint.realm d.lifetimes id t)).work.Runs slot₁ es₂
        (.ok realmId) slot₂)
      (failed : (d.plan.fill t.name).Runs slot₂ es₃ (.error f) slot₃)
      (removal : (remove t.name).Runs slot₃ es₄ a slot') :
      Established d t slot (es₁ ++ (es₂ ++ (es₃ ++ es₄))) (.error f) slot'

variable {d : Design} {t : Tenant} {slot slot' : TokenSlot} {es : List Facility.Event}

/-- The work goes well and is all there is, or it fails and the removal follows, whose result is not
looked at. -/
theorem runs_orRemove {name : String} {work : Work Unit} {r : Except Fault Unit}
    (h : (orRemove name work).Runs slot es r slot') :
    (r = .ok () ∧ work.Runs slot es (.ok ()) slot') ∨
      ∃ f es₁ es₂ slot₁ a, es = es₁ ++ es₂ ∧ r = .error f ∧ work.Runs slot es₁ (.error f) slot₁ ∧
        (remove name).Runs slot₁ es₂ a slot' := by
  obtain ⟨es₁, es₂, ⟨u, slot₁⟩, rfl, first, second⟩ := Program.Runs.of_bind h
  cases u with
  | ok v =>
    obtain ⟨rfl, he⟩ := second.of_done
    cases he
    exact .inl ⟨rfl, by rwa [List.append_nil]⟩
  | error f =>
    obtain ⟨es₃, es₄, ⟨a, slot₂⟩, rfl, removal, rest⟩ := Program.Runs.of_bind second
    obtain ⟨rfl, he⟩ := rest.of_done
    cases he
    exact .inr ⟨f, es₁, es₃, slot₁, a, by rw [List.append_nil], rfl, first, removal⟩

theorem runs_establish {r : Except Fault Wire.Realm}
    (h : (d.establish t).Runs slot es r slot') : Established d t slot es r slot' := by
  rcases Runs.of_bind h with ⟨f, first, rfl⟩ | ⟨id, es₁, es₂, slot₁, rfl, first, rest⟩
  · obtain ⟨run, rfl⟩ := Runs.of_lift first
    obtain ⟨rfl, checked⟩ := run.of_done
    exact .ineligible checked.symm
  obtain ⟨run, rfl⟩ := Runs.of_lift first
  obtain ⟨rfl, checked⟩ := run.of_done
  rw [List.nil_append]
  rcases Runs.of_bind rest with ⟨f, looked, rfl⟩ | ⟨seen, es₃, es₄, slot₂, rfl, looked, rest⟩
  · exact .unseen checked.symm looked
  cases seen with
  | some realm =>
    obtain ⟨rfl, rfl, rfl⟩ := Runs.of_pure rest
    rw [List.append_nil]
    exact .found checked.symm looked
  | none =>
    rcases Runs.of_bind rest with ⟨f, created, rfl⟩ | ⟨realmId, es₅, es₆, slot₃, rfl, created, rest⟩
    · exact .uncreated checked.symm looked created
    rcases Runs.of_bind rest with ⟨f, filling, rfl⟩ | ⟨_, es₇, es₈, slot₄, rfl, filling, rest⟩
    · rcases runs_orRemove filling with ⟨hr, _⟩ | ⟨f, es₇, es₈, slot₄, a, rfl, hr, failed, removal⟩
      · cases hr
      · cases hr
        exact .removed checked.symm looked created failed removal
    · obtain ⟨rfl, rfl, rfl⟩ := Runs.of_pure rest
      rcases runs_orRemove filling with ⟨_, filled⟩ | ⟨f, _, _, _, _, _, hr, _⟩
      · rw [List.append_nil]
        exact .filled checked.symm looked created filled
      · cases hr

/-- A rule is heeded by all of establishing if its parts heed it, with what is known between them. -/
theorem establish_follows {Ok : List Facility.Event → Facility.Event → Prop}
    {known : List Facility.Event → Prop} {r : Except Fault Wire.Realm}
    (looks : Heeds Ok [] (lookup t.name) fun _ => known)
    (creates : ∀ past id, known past →
      Heeds Ok past (Creation.realm (d.blueprint.realm d.lifetimes id t)).work fun _ => known)
    (fills : ∀ past, known past → Heeds Ok past (d.plan.fill t.name) fun _ _ => True)
    (removes : ∀ past, Heeds Ok past (remove t.name) fun _ _ => True)
    (run : (d.establish t).Runs slot es r slot') : Follows Ok [] es := by
  cases runs_establish run with
  | ineligible => exact .nil []
  | unseen _ looked => exact (looks looked).1
  | found _ looked => exact (looks looked).1
  | uncreated _ looked created =>
    obtain ⟨first, ready⟩ := looks looked
    exact follows_append.mpr ⟨first, (creates _ _ (ready _ rfl) created).1⟩
  | filled _ looked created filled =>
    obtain ⟨first, ready⟩ := looks looked
    obtain ⟨second, ready'⟩ := creates _ _ (ready _ rfl) created
    have rest := (fills _ (ready' _ rfl) filled).1
    exact follows_append.mpr ⟨first, follows_append.mpr ⟨second, rest⟩⟩
  | removed _ looked created failed removal =>
    obtain ⟨first, ready⟩ := looks looked
    obtain ⟨second, ready'⟩ := creates _ _ (ready _ rfl) created
    have rest := follows_append.mpr ⟨(fills _ (ready' _ rfl) failed).1, (removes _ removal).1⟩
    exact follows_append.mpr ⟨first, follows_append.mpr ⟨second, rest⟩⟩

/-! ## The plain sequence -/

/-- A realm is established as it is in `establish`, but never removed again. -/
def Design.unguarded (d : Design) (t : Tenant) : Work Wire.Realm := do
  let id ← Session.lift (pure (eligible t))
  match ← lookup t.name with
  | some found => return found
  | none =>
    let realm := d.blueprint.realm d.lifetimes id t
    let _ ← Work.create realm (Facility.call (.createRealm realm))
    d.plan.fill t.name
    return realm

/-- The step that looks for the realm of a tenant. -/
abbrev looks (t : Tenant) : Step :=
  .call ("Failed to look up realm: " ++ t.name) (.findRealm t.name)

/-- The realm was absent and was created under an id. -/
def opening (d : Design) (t : Tenant) (id : Uuid) (es₁ es₂ : List Facility.Event)
    (realmId : String) : List Stage :=
  [⟨.check t, [], .ok id⟩, ⟨looks t, es₁, .ok none⟩,
   ⟨.create (.realm (d.blueprint.realm d.lifetimes id t)), es₂, .ok realmId⟩]

/-- The realm was absent, was created under an id, and then a later step failed. -/
def LeftBehind (d : Design) (t : Tenant) (log : List Stage) : Prop :=
  ∃ id es₁ es₂ realmId later, log = opening d t id es₁ es₂ realmId ++ later ∧
    ∃ s ∈ later, s.failure.isSome

/-- The calls by which a realm is established, in order. -/
def Design.duties (d : Design) (t : Tenant) : List Duty :=
  .findRealm t.name :: .createRealm t.name :: d.plan.duties t.name

/-- What the plain sequence comes to if it succeeds: the realm was found and nothing else was done,
or all was done. -/
def Complete (d : Design) (t : Tenant) (log : List Stage) (v : Wire.Realm) : Prop :=
  (Stage.duties log = [.findRealm t.name] ∧ ∃ es, ⟨looks t, es, .ok (some v)⟩ ∈ log) ∨
    Stage.duties log = d.duties t

theorem runs_check {r : Except Fault Uuid} (checked : eligible t = r) :
    (Step.check t).work.Runs slot [] r slot := by
  subst checked
  exact .done _

theorem logged_ineligible {f : Fault} (checked : eligible t = .error f) :
    Logged (d.unguarded t) slot [⟨.check t, [], .error f⟩] (.error f) slot :=
  .stop (.step (.check t) (runs_check checked))

theorem logged_unseen {id : Uuid} {f : Fault} (checked : eligible t = .ok id)
    (looked : (lookup t.name).Runs slot es (.error f) slot') :
    Logged (d.unguarded t) slot [⟨.check t, [], .ok id⟩, ⟨looks t, es, .error f⟩] (.error f) slot' :=
  .bind (.step (.check t) (runs_check checked)) (.stop (.step (looks t) looked))

theorem logged_found {id : Uuid} {realm : Wire.Realm} (checked : eligible t = .ok id)
    (looked : (lookup t.name).Runs slot es (.ok (some realm)) slot') :
    Logged (d.unguarded t) slot [⟨.check t, [], .ok id⟩, ⟨looks t, es, .ok (some realm)⟩]
      (.ok realm) slot' :=
  .bind (.step (.check t) (runs_check checked))
    (.bind (.step (looks t) looked) (.pure slot' realm))

variable {slot₁ slot₂ : TokenSlot} {es₁ es₂ : List Facility.Event} {id : Uuid}

theorem logged_uncreated {f : Fault} (checked : eligible t = .ok id)
    (looked : (lookup t.name).Runs slot es₁ (.ok none) slot₁)
    (created : (Creation.realm (d.blueprint.realm d.lifetimes id t)).work.Runs slot₁ es₂ (.error f)
      slot') :
    Logged (d.unguarded t) slot
      [⟨.check t, [], .ok id⟩, ⟨looks t, es₁, .ok none⟩,
       ⟨.create (.realm (d.blueprint.realm d.lifetimes id t)), es₂, .error f⟩] (.error f) slot' :=
  .bind (.step (.check t) (runs_check checked))
    (.bind (.step (looks t) looked) (.stop (.step (.create (.realm _)) created)))

theorem logged_opened {realmId : String} {later : List Stage} {r : Except Fault Unit}
    (checked : eligible t = .ok id) (looked : (lookup t.name).Runs slot es₁ (.ok none) slot₁)
    (created : (Creation.realm (d.blueprint.realm d.lifetimes id t)).work.Runs slot₁ es₂
      (.ok realmId) slot₂)
    (filling : Logged (d.plan.fill t.name) slot₂ later r slot') :
    Logged (d.unguarded t) slot (opening d t id es₁ es₂ realmId ++ later)
      (r.map fun _ => d.blueprint.realm d.lifetimes id t) slot' := by
  show Logged _ slot ([_] ++ ([_] ++ ([_] ++ later))) _ slot'
  refine .bind (.step (.check t) (runs_check checked)) ?_
  refine .bind (.step (looks t) looked) ?_
  refine .bind (.step (.create (.realm _)) created) ?_
  cases r with
  | error f => exact .stop filling
  | ok _ =>
    rw [← List.append_nil later]
    exact .bind filling (.pure slot' _)

theorem not_leftBehind_of_short {log : List Stage} (short : log.length ≤ 3) :
    ¬ LeftBehind d t log := by
  rintro ⟨id, es₁, es₂, realmId, later, rfl, s, hs, _⟩
  have length_pos : 0 < later.length := List.length_pos_of_mem hs
  rw [List.length_append] at short
  simp only [opening, List.length_cons, List.length_nil] at short
  omega

theorem not_leftBehind_of_fine {log : List Stage} (fine : ∀ s ∈ log, s.failure = none) :
    ¬ LeftBehind d t log := by
  rintro ⟨id, es₁, es₂, realmId, later, rfl, s, hs, failed⟩
  rw [fine s (List.mem_append_right _ hs)] at failed
  cases failed

/-! ## Removals -/

/-- An event that asks for a realm to be removed. -/
def Removes (e : Facility.Event) : Prop :=
  ∃ token name, e.query = .call token (.deleteRealm name)

/-- A step that removes no realm. -/
def Spares (s : Step) : Prop := ∀ name, ¬ s.Makes (.deleteRealm name)

/-- A call that neither looks for a realm nor creates or removes one. -/
def Inside : Provider.Call → Prop
  | .findRealm _ => False
  | .createRealm _ => False
  | .deleteRealm _ => False
  | _ => True

/-- Filling a realm stays inside of it. -/
theorem Fills.inside {realm : String} {s : Step} (h : Fills realm s) {c : Provider.Call}
    (made : s.Makes c) : Inside c := by
  cases h with
  | grantRole => rcases made with rfl | rfl | ⟨_, _, rfl⟩ <;> trivial
  | bindPolicy => rcases made with rfl | rfl | ⟨_, rfl⟩ <;> trivial
  | _ => cases made <;> trivial

theorem Fills.spares {realm : String} {s : Step} (h : Fills realm s) : Spares s :=
  fun _ made => h.inside made

theorem spares_check : Spares (.check t) := fun _ made => made

theorem spares_looks : Spares (looks t) := by
  intro name made
  cases made

theorem spares_create (c : Creation) : Spares (.create c) := by
  intro name made
  cases c <;> cases made

theorem trace_spares {α : Type} {x : Work α} {log : List Stage} {r : Except Fault α}
    (logged : Logged x slot log r slot') (spares : ∀ s ∈ log, Spares s.step) :
    ∀ e ∈ Stage.trace log, ¬ Removes e := by
  rintro e he ⟨token, name, asked⟩
  obtain ⟨s, hs, he⟩ := List.mem_flatMap.mp he
  obtain ⟨slot₁, slot₂, run⟩ := logged.runs hs
  exact spares s hs name (step_makes run he asked)

theorem called_removes {token : Token} {name : String} (h : Called (.deleteRealm name) token es) :
    ∃ e ∈ es, Removes e := by
  obtain ⟨a, asked⟩ := called_asks h
  exact ⟨_, asked, token, name, rfl⟩

theorem mem_opening {realmId : String} {s : Stage} :
    s ∈ opening d t id es₁ es₂ realmId ↔
      s = ⟨.check t, [], .ok id⟩ ∨ s = ⟨looks t, es₁, .ok none⟩ ∨
        s = ⟨.create (.realm (d.blueprint.realm d.lifetimes id t)), es₂, .ok realmId⟩ := by
  simp [opening]

theorem found_not_mem_opening {realmId context : String} {es : List Facility.Event}
    {found : Wire.Realm} :
    ⟨.call context (.findRealm t.name), es, .ok (some found)⟩ ∉
      opening d t id es₁ es₂ realmId := by
  intro hs
  rcases mem_opening.mp hs with hs | hs | hs <;> cases hs

theorem uncreated_not_mem_opening {realmId : String} {es : List Facility.Event}
    {realm : Wire.Realm} {f : Fault} :
    ⟨.create (.realm realm), es, .error f⟩ ∉ opening d t id es₁ es₂ realmId := by
  intro hs
  rcases mem_opening.mp hs with hs | hs | hs <;> cases hs

/-! ## The removal -/

/-- The plain sequence goes through; what happens is no more and no less, or else the realm was left
behind and the removal follows. -/
inductive Guarded (d : Design) (t : Tenant) (log : List Stage) : List Facility.Event → Prop
  | spared (kept : ¬ LeftBehind d t log) : Guarded d t log []
  | removed {rollback : List Facility.Event} {id : Uuid} {es₁ es₂ : List Facility.Event}
      {realmId : String} {later : List Stage} {token : Token}
      (shape : log = opening d t id es₁ es₂ realmId ++ later)
      (fills : ∀ s ∈ later, Fills t.name s.step) (failed : ∃ s ∈ later, s.failure.isSome)
      (called : Called (.deleteRealm t.name) token rollback) : Guarded d t log rollback

/-- A realm that was just created leaves a token for what comes after it. -/
theorem creation_token {realm : Wire.Realm} {realmId : String}
    (created : (Creation.realm realm).work.Runs slot es (.ok realmId) slot') :
    ∃ token, slot' = ⟨some token⟩ := by
  obtain ⟨a, run, ha⟩ := runs_create created
  cases a with
  | error f => cases ha
  | ok receipt => exact accessed_ok_token run

theorem opening_spares {realmId : String} {later : List Stage}
    (fills : ∀ s ∈ later, Fills t.name s.step) :
    ∀ s ∈ opening d t id es₁ es₂ realmId ++ later, Spares s.step := by
  intro s hs
  rcases List.mem_append.mp hs with hs | hs
  · rcases mem_opening.mp hs with rfl | rfl | rfl
    · exact spares_check
    · exact spares_looks
    · exact spares_create _
  · exact (fills s hs).spares

theorem trace_opening {realmId : String} {later : List Stage} :
    Stage.trace (opening d t id es₁ es₂ realmId ++ later) = es₁ ++ (es₂ ++ Stage.trace later) := by
  simp [Stage.trace, opening]

theorem duties_opening {realmId : String} {later : List Stage} :
    Stage.duties (opening d t id es₁ es₂ realmId ++ later) =
      .findRealm t.name :: .createRealm t.name :: Stage.duties later := by
  rw [Stage.duties_append]
  rfl

/-- A log of the plain sequence: its steps remove nothing, and what they are there to call is a first
part of what establishing takes. -/
structure Course (d : Design) (t : Tenant) (slot : TokenSlot) (log : List Stage)
    (r : Except Fault Wire.Realm) (slot' : TokenSlot) : Prop where
  logged : Logged (d.unguarded t) slot log r slot'
  spares : ∀ s ∈ log, Spares s.step
  led : Stage.duties log <+: d.duties t
  complete : ∀ v, r = .ok v → Complete d t log v

theorem Course.opened {realmId : String} {later : List Stage} {r : Except Fault Unit}
    (logged : Logged (d.unguarded t) slot (opening d t id es₁ es₂ realmId ++ later)
      (r.map fun _ => d.blueprint.realm d.lifetimes id t) slot')
    (fills : ∀ s ∈ later, Fills t.name s.step) (led : Stage.duties later <+: d.plan.duties t.name)
    (whole : ∀ v, r = .ok v → Stage.duties later = d.plan.duties t.name) :
    Course d t slot (opening d t id es₁ es₂ realmId ++ later)
      (r.map fun _ => d.blueprint.realm d.lifetimes id t) slot' where
  logged := logged
  spares := opening_spares fills
  led := by
    rw [duties_opening]
    exact (List.prefix_cons_inj _).mpr ((List.prefix_cons_inj _).mpr led)
  complete v hv := by
    cases r with
    | error f => cases hv
    | ok u =>
      refine .inr ?_
      rw [duties_opening, whole u rfl]
      rfl

/-- A run is the plain sequence, with the removal after it or not. -/
theorem establish_course {r : Except Fault Wire.Realm} (run : (d.establish t).Runs slot es r slot') :
    ∃ log rollback slot₁, es = Stage.trace log ++ rollback ∧ Course d t slot log r slot₁ ∧
      Guarded d t log rollback := by
  cases runs_establish run with
  | ineligible checked =>
    refine ⟨_, [], _, ?_, ⟨logged_ineligible checked, ?_, List.nil_prefix, fun v hv => by cases hv⟩,
      .spared (not_leftBehind_of_short ?_)⟩
    · simp [Stage.trace]
    · simp [spares_check]
    · simp
  | unseen checked looked =>
    refine ⟨_, [], _, ?_, ⟨logged_unseen checked looked, ?_, ⟨_, rfl⟩, fun v hv => by cases hv⟩,
      .spared (not_leftBehind_of_short ?_)⟩
    · simp [Stage.trace]
    · simp [spares_check, spares_looks]
    · simp
  | found checked looked =>
    refine ⟨_, [], _, ?_, ⟨logged_found checked looked, ?_, ⟨_, rfl⟩, fun v hv => ?_⟩,
      .spared (not_leftBehind_of_short ?_)⟩
    · simp [Stage.trace]
    · simp [spares_check, spares_looks]
    · cases hv
      exact .inl ⟨rfl, es, by simp⟩
    · simp
  | uncreated checked looked created =>
    refine ⟨_, [], _, ?_, ⟨logged_uncreated checked looked created, ?_, ⟨_, rfl⟩,
      fun v hv => by cases hv⟩, .spared (not_leftBehind_of_short ?_)⟩
    · simp [Stage.trace]
    · simp [spares_check, spares_looks, spares_create]
    · simp
  | filled checked looked created filled =>
    obtain ⟨later, filling, rfl, fills, led, whole⟩ := (fill_orderly d.plan t.name).log filled
    have logged := logged_opened checked looked created filling
    refine ⟨_, [], _, ?_, .opened logged fills led whole,
      .spared (not_leftBehind_of_fine logged.ends.fine)⟩
    rw [List.append_nil, trace_opening]
  | removed checked looked created failed removal =>
    obtain ⟨later, filling, rfl, fills, led, whole⟩ := (fill_orderly d.plan t.name).log failed
    obtain ⟨token, rfl⟩ := creation_token created
    obtain ⟨token', rfl, _⟩ := filling.kept.some
    refine ⟨_, _, _, ?_, .opened (logged_opened checked looked created filling) fills led whole,
      .removed rfl fills ?_ (called_of_kept removal)⟩
    · rw [trace_opening, List.append_assoc, List.append_assoc]
    · obtain ⟨s, hs, failed⟩ := filling.ends.failed
      exact ⟨s, hs, by rw [failed]; rfl⟩

theorem establish_guarded {r : Except Fault Wire.Realm} (run : (d.establish t).Runs slot es r slot') :
    ∃ log rollback slot₁, es = Stage.trace log ++ rollback ∧
      Logged (d.unguarded t) slot log r slot₁ ∧ (∀ s ∈ log, Spares s.step) ∧
      Guarded d t log rollback := by
  obtain ⟨log, rollback, slot₁, he, course, guarded⟩ := establish_course run
  exact ⟨log, rollback, slot₁, he, course.logged, course.spares, guarded⟩

/-- Establishing a realm is the plain sequence of its steps, which removes nothing, and a removal
after it exactly if that sequence left a realm behind. The removal is one call for the tenant's own
realm and the last thing that happens; the failure is that of the first step that failed, whatever
becomes of the removal; and a realm that was found, or whose creation failed, is never removed. -/
theorem establish_rollback (d : Design) (t : Tenant) {slot slot' : TokenSlot}
    {es : List Facility.Event} {r : Except Fault Wire.Realm}
    (run : (d.establish t).Runs slot es r slot') :
    ∃ log rollback slot₁, es = Stage.trace log ++ rollback ∧
      Logged (d.unguarded t) slot log r slot₁ ∧
      (∀ e ∈ Stage.trace log, ¬ Removes e) ∧
      ((∃ e ∈ es, Removes e) ↔ LeftBehind d t log) ∧
      (LeftBehind d t log → ∃ token, Called (.deleteRealm t.name) token rollback) ∧
      (¬ LeftBehind d t log → rollback = []) ∧
      (∀ f, r = .error f ↔ Stage.firstFailure log = some f) ∧
      (∀ context es₁ found, ⟨.call context (.findRealm t.name), es₁, .ok (some found)⟩ ∈ log →
        ∀ e ∈ es, ¬ Removes e) ∧
      (∀ realm es₁ f, ⟨.create (.realm realm), es₁, .error f⟩ ∈ log → ∀ e ∈ es, ¬ Removes e) := by
  obtain ⟨log, rollback, slot₁, rfl, logged, spares, guarded⟩ := establish_guarded run
  have plain := trace_spares logged spares
  refine ⟨log, rollback, slot₁, rfl, logged, plain, ?_⟩
  cases guarded with
  | spared kept =>
    rw [List.append_nil]
    refine ⟨⟨fun ⟨e, he, removes⟩ => (plain e he removes).elim, fun left => (kept left).elim⟩,
      fun left => (kept left).elim, fun _ => rfl, logged.ends.failure_iff, ?_, ?_⟩
    · exact fun _ _ _ _ => plain
    · exact fun _ _ _ _ => plain
  | @removed _ id es₁ es₂ realmId later token shape fills failed called =>
    have left : LeftBehind d t log := ⟨id, es₁, es₂, realmId, later, shape, failed⟩
    obtain ⟨e, he, removes⟩ := called_removes called
    refine ⟨⟨fun _ => left, fun _ => ⟨e, List.mem_append_right _ he, removes⟩⟩,
      fun _ => ⟨token, called⟩, fun kept => (kept left).elim, logged.ends.failure_iff, ?_, ?_⟩
    · intro context es₃ found hs
      rcases List.mem_append.mp (shape ▸ hs) with hs | hs
      · exact (found_not_mem_opening hs).elim
      · cases fills _ hs
    · intro realm es₃ f hs
      rcases List.mem_append.mp (shape ▸ hs) with hs | hs
      · exact (uncreated_not_mem_opening hs).elim
      · cases fills _ hs

/-- The design of the default settings. -/
def usual : Design := .ofSettings .default .standard

/-- A tenant that may have a realm. -/
def acme : Tenant := ⟨some .nil, "acme", none⟩

/-- The realm of a tenant is created, its first role is refused, and the token with which the realm
is to be removed has expired and is not renewed. -/
def refusedEvents : List Facility.Event :=
  [⟨.call "t" (.findRealm "acme"), .ok none⟩,
   ⟨.call "t" (.createRealm (usual.blueprint.realm usual.lifetimes .nil acme)),
    .ok ⟨.created, none, some (.obj [("id", .str "r1")])⟩⟩,
   ⟨.call "t" (.createRole "acme" ⟨none, "System", some "Role of module service accounts"⟩),
    .error (.status ⟨403⟩ "")⟩,
   ⟨.call "t" (.deleteRealm "acme"), .error .unauthorized⟩,
   ⟨.issueToken, .error (.status ⟨503⟩ "")⟩]

/-- The failure of such a run. -/
def roleRefused : Fault :=
  .provider "Failed to create role 'System'" (some (.status ⟨403⟩ ""))

theorem refused_runs :
    (usual.establish acme).Runs ⟨some "t"⟩ refusedEvents (.error roleRefused) ⟨some "t"⟩ :=
  .ask (.ask (.ask (.ask (.ask (.done _)))))

theorem establish_rollback_refused :
    ∃ log rollback, refusedEvents = Stage.trace log ++ rollback ∧ LeftBehind usual acme log ∧
      (∃ token, Called (.deleteRealm "acme") token rollback) ∧
      Stage.firstFailure log = some roleRefused := by
  obtain ⟨log, rollback, _, he, _, _, removed, called, _, failure, _⟩ :=
    establish_rollback usual acme refused_runs
  have left : LeftBehind usual acme log := by
    refine removed.mp ⟨⟨.call "t" (.deleteRealm "acme"), .error .unauthorized⟩, ?_, "t", "acme", rfl⟩
    simp [refusedEvents]
  exact ⟨log, rollback, he, left, called left, (failure _).mp rfl⟩

end Tenancy.Realm
