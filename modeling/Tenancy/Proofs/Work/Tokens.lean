import Tenancy.Proofs.Work.Calls

/-!
# Which token is handed out

The kept token is used in four ways: calls are made with it, it is asked for, it is renewed, or it is
forgotten. A history is a sequence of such uses that begins with no token kept, against a source of
tokens and calls that answer as they like. At every moment of it the token that is handed out is the
one that the source issued last, and the slot holds that one or, after it was forgotten, none. The
source is asked only where a use begins without a token, where a renewal is wanted, and where a first
attempt found its token rejected.

A use is boiled down to its dealings: tokens issued, requests denied, tokens handed out. What one use
does is shown once, from the ways in which an access can go; all else is read off it by induction
along the history.
-/

namespace Tenancy.Work

open Facility Session Provider

/-! ## Uses of the kept token -/

/-- Calls that are made with the token handed to them, and with no other one. -/
structure Errand (α : Type) where
  attempt : Token → Attempt α
  own : ∀ t es r, (attempt t).run.Runs es r → ∀ e ∈ es, ∃ c, e.query = .call t c

/-- Attempts at duties are errands, so all accesses of provisioning are. -/
def Errand.ofGoes {α : Type} {P : Call → Prop} {ds : List Duty} (attempt : Token → Attempt α)
    (goes : ∀ t, Attempt.Goes P ds t (attempt t)) : Errand α where
  attempt := attempt
  own t es r run e he := by
    obtain ⟨c, _, hc⟩ := (goes t es r run).fits e he
    exact ⟨c, hc⟩

def Errand.call (c : Call) : Errand c.Answer :=
  .ofGoes (Attempt.call c) fun _ => .call (P := fun _ => True) c trivial

/-- What can be done with the kept token. -/
inductive Use : Type 1 where
  | access {α : Type} (context : String) (errand : Errand α)
  | current
  | renew
  | forget

namespace Use

def Failure : Use → Type
  | .access _ _ => Fault
  | .current => ProviderError
  | .renew => ProviderError
  | .forget => Fault

def Result : Use → Type
  | .access (α := α) _ _ => α
  | .current => Token
  | .renew => Token
  | .forget => Unit

def work : (u : Use) → Session (Program Facility) u.Failure u.Result
  | .access context errand => Session.access Facility.issue context fun t => (errand.attempt t).run
  | .current => Session.current Facility.issue
  | .renew => Session.renew Facility.issue
  | .forget => Session.forget

end Use

/-- A use as it went, with what was kept before and after it. -/
structure Turn where
  use : Use
  start : TokenSlot
  events : List Facility.Event
  result : Except use.Failure use.Result
  finish : TokenSlot

/-- Uses one after the other, from the moment at which nothing is kept. -/
inductive History : List Turn → TokenSlot → Prop
  | nil : History [] .empty
  | snoc {turns : List Turn} {turn : Turn} (before : History turns turn.start)
      (ran : turn.use.work.Runs turn.start turn.events turn.result turn.finish) :
      History (turns ++ [turn]) turn.finish

/-! ## Dealings -/

inductive Deal where
  | issued (token : Token)
  | denied (error : ProviderError)
  | handed (token : Token)

namespace Deal

/-- The dealing that an event is, if it is one: a call is handed its token. -/
def ofEvent? : Facility.Event → Option Deal
  | ⟨.call t _, _⟩ => some (.handed t)
  | ⟨.issueToken, .ok t⟩ => some (.issued t)
  | ⟨.issueToken, .error e⟩ => some (.denied e)
  | _ => none

/-- The token issued last, or the one given if none was. -/
def after (held : Option Token) (deals : List Deal) : Option Token :=
  deals.foldl (fun held d => match d with | .issued t => some t | _ => held) held

/-- The token issued last. -/
def latest (deals : List Deal) : Option Token := after none deals

/-- How often the source was asked for a token. -/
def requests (deals : List Deal) : Nat :=
  deals.countP fun d => match d with | .handed _ => false | _ => true

/-- Every token handed out is the one issued last, or the one held in the beginning. -/
def Fresh : Option Token → List Deal → Prop
  | _, [] => True
  | held, .handed t :: ds => held = some t ∧ Fresh held ds
  | _, .issued t :: ds => Fresh (some t) ds
  | held, .denied _ :: ds => Fresh held ds

end Deal

namespace Turn

def returned? : Turn → Option Token
  | ⟨.current, _, _, .ok t, _⟩ => some t
  | ⟨.renew, _, _, .ok t, _⟩ => some t
  | _ => none

/-- The dealings of a use: those of its events, and then the token that it returns. -/
def deals (turn : Turn) : List Deal :=
  turn.events.filterMap Deal.ofEvent? ++ (turn.returned?.map Deal.handed).toList

end Turn

/-- The token that stands after a use: the one issued last, unless it was forgotten. Requests that
were denied do not count. -/
def Turn.leaves (held : Option Token) (turn : Turn) : Option Token :=
  match turn.use with
  | .forget => none
  | _ => Deal.after held turn.deals

def dealings (turns : List Turn) : List Deal := turns.flatMap Turn.deals

/-- The token issued last since the beginning, or since the kept one was forgotten. -/
def standing (turns : List Turn) : Option Token := turns.foldl Turn.leaves none

/-- The first attempt of an access was made, with the token held or else with one issued for it, and
its token was rejected. -/
inductive Errand.Rejected {α : Type} (errand : Errand α) : Option Token → List Facility.Event → Prop
  | kept {t : Token} {tried rest : List Facility.Event}
      (first : (errand.attempt t).run.Runs tried (.error (.raw .unauthorized))) :
      Rejected errand (some t) (tried ++ rest)
  | issued {t : Token} {tried rest : List Facility.Event}
      (first : (errand.attempt t).run.Runs tried (.error (.raw .unauthorized))) :
      Rejected errand none (⟨.issueToken, .ok t⟩ :: (tried ++ rest))

open Classical in
/-- How often the source is to be asked in a turn that begins with the given token. -/
noncomputable def Turn.due (held : Option Token) (turn : Turn) : Nat :=
  match turn.use with
  | .access _ errand =>
    (if held = none then 1 else 0) + (if errand.Rejected held turn.events then 1 else 0)
  | .current => if held = none then 1 else 0
  | .renew => 1
  | .forget => 0

/-- A use that begins with a token at hand: an access makes its first attempt with it, and who asks
for the token is given it. -/
def Turn.Begins (turn : Turn) (t : Token) : Prop :=
  match turn.use with
  | .access _ errand =>
    ∃ tried rest a, turn.events = tried ++ rest ∧ (errand.attempt t).run.Runs tried a
  | .current => turn.deals = [.handed t]
  | _ => True

/-! ## Lists of dealings -/

namespace Deal

variable {held : Option Token} {t : Token} {ds ds' : List Deal}

theorem after_append : after held (ds ++ ds') = after (after held ds) ds' := List.foldl_append

theorem requests_append : requests (ds ++ ds') = requests ds + requests ds' := List.countP_append

theorem fresh_append : Fresh held (ds ++ ds') ↔ Fresh held ds ∧ Fresh (after held ds) ds' := by
  induction ds generalizing held with
  | nil => exact (and_iff_right trivial).symm
  | cons d ds ih =>
    cases d with
    | handed t =>
      show held = some t ∧ Fresh held (ds ++ ds') ↔ (held = some t ∧ Fresh held ds) ∧ _
      rw [ih, and_assoc]
      rfl
    | issued t => exact ih
    | denied e => exact ih

theorem Fresh.handed (h : Fresh held (ds ++ .handed t :: ds')) : after held ds = some t :=
  (fresh_append.mp h).2.1

/-- If nothing is held in the beginning, nothing is handed out before something is issued, so it
would not matter if something were held. -/
theorem Fresh.of_none (h : Fresh none ds) : Fresh held ds := by
  induction ds with
  | nil => trivial
  | cons d ds ih =>
    cases d with
    | handed t => cases h.1
    | issued t => exact h
    | denied e => exact ih h

theorem after_none (ds : List Deal) :
    after none ds = none ∨ ∀ held, after held ds = after none ds := by
  induction ds with
  | nil => exact .inl rfl
  | cons d ds ih =>
    cases d with
    | issued t => exact .inr fun _ => rfl
    | denied e => exact ih
    | handed t => exact ih

theorem after_eq_some (h : after held ds = some t) : held = some t ∨ .issued t ∈ ds := by
  induction ds generalizing held with
  | nil => exact .inl h
  | cons d ds ih =>
    cases d with
    | issued t' =>
      rcases ih h with same | later
      · exact .inr (Option.some.inj same ▸ List.mem_cons_self)
      · exact .inr (List.mem_cons_of_mem _ later)
    | denied e => exact (ih h).imp_right (List.mem_cons_of_mem _)
    | handed t' => exact (ih h).imp_right (List.mem_cons_of_mem _)

theorem own_deals {es : List Facility.Event} (own : ∀ e ∈ es, ∃ c, e.query = .call t c) :
    es.filterMap ofEvent? = List.replicate es.length (.handed t) := by
  induction es with
  | nil => rfl
  | cons e es ih =>
    obtain ⟨q, a⟩ := e
    obtain ⟨c, rfl⟩ := own _ List.mem_cons_self
    rw [List.length_cons, List.replicate_succ, ← ih fun e he => own e (List.mem_cons_of_mem _ he)]
    rfl

theorem after_replicate (n : Nat) : after held (List.replicate n (.handed t)) = held := by
  induction n with
  | zero => rfl
  | succ n ih => exact ih

theorem requests_replicate (n : Nat) : requests (List.replicate n (.handed t)) = 0 := by
  induction n with
  | zero => rfl
  | succ n ih => exact ih

theorem fresh_replicate (n : Nat) : Fresh (some t) (List.replicate n (.handed t)) := by
  induction n with
  | zero => trivial
  | succ n ih => exact ⟨rfl, ih⟩

end Deal

/-! ## One use -/

/-- What one use does: it hands out the token issued last, asks for tokens as often as is due, and
leaves the token issued last. -/
structure Turn.Does (turn : Turn) : Prop where
  fresh : Deal.Fresh turn.start.token turn.deals
  asked : Deal.requests turn.deals = turn.due turn.start.token
  left : turn.finish.token = turn.leaves turn.start.token
  begins : ∀ t, turn.start.token = some t → turn.Begins t

open Classical in
theorem obtained_deals {slot : TokenSlot} {es : List Facility.Event} {t : Token}
    (token : Obtained issue slot es t) :
    Deal.Fresh slot.token (es.filterMap Deal.ofEvent?) ∧
      Deal.after slot.token (es.filterMap Deal.ofEvent?) = some t ∧
      Deal.requests (es.filterMap Deal.ofEvent?) = if slot.token = none then 1 else 0 := by
  cases token with
  | kept t => exact ⟨trivial, rfl, (if_neg (by nofun)).symm⟩
  | issued run =>
    rw [issue_runs run]
    exact ⟨trivial, rfl, (if_pos rfl).symm⟩

theorem Errand.rejected_iff {α : Type} {errand : Errand α} {slot : TokenSlot} {t : Token}
    {es tried rest : List Facility.Event} {a : Except Setback α} (token : Obtained issue slot es t)
    (first : (errand.attempt t).run.Runs tried a) :
    errand.Rejected slot.token (es ++ (tried ++ rest)) ↔ a = .error (.raw .unauthorized) := by
  constructor
  · -- The rejected attempt begins the same events, so it is the one that was made first here.
    intro rejected
    cases token with
    | kept t =>
      generalize he : [] ++ (tried ++ rest) = events at rejected
      cases rejected with
      | kept first' => exact (first.unique_of_append first' he).2
    | issued run =>
      rw [issue_runs run] at rejected
      generalize he : [_] ++ (tried ++ rest) = events at rejected
      cases rejected with
      | issued first' =>
        obtain ⟨same, tail⟩ := List.cons.inj he
        cases same
        exact (first.unique_of_append first' tail).2
  · rintro rfl
    cases token with
    | kept t =>
      show errand.Rejected (some t) (tried ++ rest)
      exact .kept first
    | issued run =>
      rw [issue_runs run]
      show errand.Rejected none (_ :: (tried ++ rest))
      exact .issued first

section Access

variable {α : Type} {context : String} {errand : Errand α} {start finish : TokenSlot}
  {events : List Facility.Event} {result : Except Fault α}

abbrev accessTurn (context : String) (errand : Errand α) (start : TokenSlot)
    (events : List Facility.Event) (result : Except Fault α) (finish : TokenSlot) : Turn :=
  ⟨.access context errand, start, events, result, finish⟩

theorem accessTurn_deals : (accessTurn context errand start events result finish).deals =
    events.filterMap Deal.ofEvent? := List.append_nil _

open Classical in
/-- An access of which it is known what follows its first attempt. -/
theorem access_does_of {es tried rest : List Facility.Event} {t : Token} {a : Except Setback α}
    (token : Obtained issue start es t) (first : (errand.attempt t).run.Runs tried a)
    (fresh : Deal.Fresh (some t) (rest.filterMap Deal.ofEvent?))
    (asked : a = .error (.raw .unauthorized) ∧ Deal.requests (rest.filterMap Deal.ofEvent?) = 1 ∨
      a ≠ .error (.raw .unauthorized) ∧ Deal.requests (rest.filterMap Deal.ofEvent?) = 0)
    (left : finish.token = Deal.after (some t) (rest.filterMap Deal.ofEvent?)) :
    (accessTurn context errand start (es ++ (tried ++ rest)) result finish).Does := by
  obtain ⟨lead, held, lead_asked⟩ := obtained_deals token
  have deals : (accessTurn context errand start (es ++ (tried ++ rest)) result finish).deals =
      es.filterMap Deal.ofEvent? ++
        (List.replicate tried.length (.handed t) ++ rest.filterMap Deal.ofEvent?) := by
    rw [accessTurn_deals, List.filterMap_append, List.filterMap_append,
      Deal.own_deals (errand.own t _ _ first)]
  refine ⟨?_, ?_, ?_, fun t' ht' => ?_⟩
  · rw [deals, Deal.fresh_append, held, Deal.fresh_append, Deal.after_replicate]
    exact ⟨lead, Deal.fresh_replicate _, fresh⟩
  · rw [deals, Deal.requests_append, Deal.requests_append, Deal.requests_replicate, Nat.zero_add,
      lead_asked]
    show _ = (if _ then 1 else 0) + (if errand.Rejected start.token _ then 1 else 0)
    rcases asked with ⟨rejected, asked⟩ | ⟨heard, asked⟩
    · rw [asked, if_pos ((Errand.rejected_iff token first).mpr rejected)]
    · rw [asked, if_neg (mt (Errand.rejected_iff token first).mp heard)]
  · show finish.token = Deal.after start.token _
    rw [deals, Deal.after_append, held, Deal.after_append, Deal.after_replicate, left]
  · cases token with
    | kept t =>
      cases ht'
      exact ⟨tried, rest, a, rfl, first⟩
    | issued => cases ht'

open Classical in
theorem access_does (ran : (Use.access context errand).work.Runs start events result finish) :
    (accessTurn context errand start events result finish).Does := by
  have accessed : Accessed issue context (fun t => (errand.attempt t).run) start events result
      finish := Runs.of_access ran
  cases accessed with
  | @tokenless _ e issued =>
    obtain rfl := issue_runs issued
    refine ⟨trivial, ?_, rfl, fun t ht => by cases ht⟩
    have unmade : ¬ errand.Rejected none [⟨.issueToken, .error e⟩] := fun rejected => by
      generalize he : [(⟨.issueToken, .error e⟩ : Facility.Event)] = events at rejected
      cases rejected with
      | issued => cases (List.cons.inj he).1
    show 1 = (if _ then 1 else 0) + (if errand.Rejected none _ then 1 else 0)
    rw [if_pos rfl, if_neg unmade]
  | @once _ es tried _ _ token first heard =>
    rw [← List.append_nil tried]
    exact access_does_of token first trivial (.inr ⟨heard, rfl⟩) rfl
  | unrenewed token first renewed =>
    rw [issue_runs renewed]
    exact access_does_of token first trivial (.inl ⟨rfl, rfl⟩) rfl
  | @twice _ es tried _ again t t' _ token first renewed retried =>
    have own := Deal.own_deals (errand.own t' _ _ retried)
    have deals : (⟨.issueToken, .ok t'⟩ :: again : List Facility.Event).filterMap Deal.ofEvent? =
        .issued t' :: List.replicate again.length (.handed t') := by
      rw [← own]
      rfl
    rw [issue_runs renewed]
    refine access_does_of token first ?_ ?_ ?_
    · rw [List.singleton_append, deals]
      exact Deal.fresh_replicate _
    · rw [List.singleton_append, deals]
      exact .inl ⟨rfl,
        (List.countP_cons_of_pos rfl).trans (congrArg (· + 1) (Deal.requests_replicate _))⟩
    · rw [List.singleton_append, deals]
      exact (Deal.after_replicate again.length).symm

end Access

theorem turn_does {turn : Turn}
    (ran : turn.use.work.Runs turn.start turn.events turn.result turn.finish) : turn.Does := by
  obtain ⟨use, start, events, result, finish⟩ := turn
  replace ran : use.work.Runs start events result finish := ran
  cases use with
  | access context errand => exact access_does ran
  | current =>
    cases result with
    | ok t =>
      obtain ⟨rfl, token⟩ := Runs.of_current_ok ran
      obtain ⟨lead, held, asked⟩ := obtained_deals token
      refine ⟨?_, ?_, ?_, fun t' ht' => ?_⟩
      · exact Deal.fresh_append.mpr ⟨lead, held, trivial⟩
      · exact Deal.requests_append.trans asked
      · show some t = Deal.after start.token (events.filterMap Deal.ofEvent? ++ [.handed t])
        rw [Deal.after_append, held]
        rfl
      · cases token with
        | kept => cases ht'; rfl
        | issued => cases ht'
    | error e =>
      obtain ⟨rfl, rfl, issued⟩ := Runs.of_current_error ran
      obtain rfl := issue_runs issued
      refine ⟨trivial, ?_, rfl, fun t ht => by cases ht⟩
      show 1 = if (none : Option Token) = none then 1 else 0
      rw [if_pos rfl]
  | renew =>
    cases result with
    | ok t =>
      obtain ⟨issued, rfl⟩ := Runs.of_renew_ok ran
      obtain rfl := issue_runs issued
      exact ⟨⟨rfl, trivial⟩, rfl, rfl, fun _ _ => trivial⟩
    | error e =>
      obtain ⟨issued, rfl⟩ := Runs.of_renew_error ran
      obtain rfl := issue_runs issued
      exact ⟨trivial, rfl, rfl, fun _ _ => trivial⟩
  | forget =>
    obtain ⟨rfl, outcome⟩ := Program.Runs.of_done ran
    cases outcome
    exact ⟨trivial, rfl, rfl, fun _ _ => trivial⟩

/-! ## Histories -/

theorem dealings_concat (turns : List Turn) (turn : Turn) :
    dealings (turns ++ [turn]) = dealings turns ++ turn.deals := by
  simp [dealings]

theorem standing_concat (turns : List Turn) (turn : Turn) :
    standing (turns ++ [turn]) = turn.leaves (standing turns) := by
  simp [standing]

/-- What holds after a history: the slot holds the token that stands, which is the one issued last if
there is one, and nothing but the token issued last was ever handed out. -/
structure History.Sound (turns : List Turn) (slot : TokenSlot) : Prop where
  stands : slot.token = standing turns
  last : slot.token = none ∨ slot.token = Deal.latest (dealings turns)
  fresh : Deal.Fresh none (dealings turns)

/-- What is fresh after the token at hand is fresh after all that was issued before. -/
theorem History.Sound.onward {turns : List Turn} {slot : TokenSlot} (h : Sound turns slot)
    {ds : List Deal} (fresh : Deal.Fresh slot.token ds) :
    Deal.Fresh (Deal.latest (dealings turns)) ds := by
  rcases h.last with empty | last
  · rw [empty] at fresh
    exact fresh.of_none
  · rwa [last] at fresh

theorem History.Sound.next {turns : List Turn} {turn : Turn} (h : Sound turns turn.start)
    (does : turn.Does) : Sound (turns ++ [turn]) turn.finish := by
  refine ⟨?_, ?_, ?_⟩
  · rw [standing_concat, ← h.stands, does.left]
  · rw [does.left, dealings_concat]
    unfold Deal.latest Turn.leaves
    rw [Deal.after_append]
    split
    · exact .inl rfl
    · rcases h.last with empty | last
      · rw [empty]
        exact (Deal.after_none turn.deals).imp_right fun same => (same _).symm
      · exact .inr (congrArg (Deal.after · turn.deals) last)
  · rw [dealings_concat]
    exact Deal.fresh_append.mpr ⟨h.fresh, h.onward does.fresh⟩

theorem History.sound {turns : List Turn} {slot : TokenSlot} (h : History turns slot) :
    History.Sound turns slot := by
  induction h with
  | nil => exact ⟨rfl, .inl rfl, trivial⟩
  | snoc _ ran ih => exact ih.next (turn_does ran)

/-- A turn of a history came after a history of its own. -/
theorem History.turn {turns before after : List Turn} {turn : Turn} {slot : TokenSlot}
    (h : History turns slot) (place : turns = before ++ turn :: after) :
    History before turn.start ∧
      turn.use.work.Runs turn.start turn.events turn.result turn.finish := by
  induction h generalizing after with
  | nil => simp at place
  | @snoc turns last earlier ran ih =>
    -- Either the turn is the last one, or it lies in the history before that.
    rcases List.eq_nil_or_concat after with rfl | ⟨init, x, rfl⟩
    · obtain ⟨rfl, same⟩ := List.append_inj' place rfl
      cases same
      exact ⟨earlier, ran⟩
    · have parts : turns ++ [last] = (before ++ turn :: init) ++ [x] := by simp [place]
      exact ih (List.append_inj' parts rfl).1

/-- How a turn of a history is to go, after the turns before it. -/
structure Turn.Proper (before : List Turn) (turn : Turn) : Prop where
  /-- The token that a call is handed, or that is returned, is the one issued last. -/
  latest : ∀ ds t ds', turn.deals = ds ++ .handed t :: ds' →
    Deal.latest (dealings before ++ ds) = some t
  /-- The source is asked as often as is due, and no more. -/
  asked : Deal.requests turn.deals = turn.due (standing before)
  /-- The turn finds the token that stands, and if there is one, begins with it. -/
  start : turn.start.token = standing before
  begins : ∀ t, standing before = some t → turn.Begins t
  /-- What is kept changes by what is issued or forgotten, and by no request that is denied. -/
  finish : turn.finish.token = turn.leaves (standing before)

/-- In every history of uses, whatever the calls and the source answer, every token handed to a call
or returned is the one issued last; the source is asked once where a use begins without a token, once
for each renewal and once for each first attempt whose token was rejected, and never else; a denied
request changes nothing, so that later uses begin with the token issued last; and a token in whose
place another one was issued is never handed out again unless it is issued again. -/
theorem history_hands_latest {turns : List Turn} {slot : TokenSlot} (h : History turns slot) :
    (∀ before turn after, turns = before ++ turn :: after → turn.Proper before) ∧
      slot.token = standing turns ∧
      ∀ ds t' mid t ds', dealings turns = ds ++ .issued t' :: (mid ++ .handed t :: ds') →
        t = t' ∨ .issued t ∈ mid := by
  refine ⟨fun before turn after place => ?_, h.sound.stands, fun ds t' mid t ds' place => ?_⟩
  · obtain ⟨earlier, ran⟩ := h.turn place
    have sound := earlier.sound
    have does := turn_does ran
    refine ⟨fun ds t ds' within => ?_, sound.stands ▸ does.asked, sound.stands,
      sound.stands ▸ does.begins, sound.stands ▸ does.left⟩
    have fresh := sound.onward does.fresh
    rw [within] at fresh
    exact Deal.after_append.trans fresh.handed
  · have fresh := h.sound.fresh
    have parts : dealings turns = (ds ++ .issued t' :: mid) ++ .handed t :: ds' := by simp [place]
    rw [parts] at fresh
    have last : Deal.after (some t') mid = some t := Deal.after_append.symm.trans fresh.handed
    exact (Deal.after_eq_some last).imp_left fun same => (Option.some.inj same).symm

def acmeLookup : Use := .access "lookup" (.call (.findRealm "acme"))

/-- The first token is rejected, and no other one is issued for it. -/
def unrenewedTurn : Turn where
  use := acmeLookup
  start := .empty
  events :=
    [⟨.issueToken, .ok "t"⟩, ⟨.call "t" (.findRealm "acme"), .error .unauthorized⟩,
     ⟨.issueToken, .error (.status ⟨503⟩ "")⟩]
  result := .error (.provider "lookup" (some (.status ⟨503⟩ "")))
  finish := ⟨some "t"⟩

/-- It is tried again, and rejected again, but now it is renewed. -/
def renewedTurn : Turn where
  use := acmeLookup
  start := ⟨some "t"⟩
  events :=
    [⟨.call "t" (.findRealm "acme"), .error .unauthorized⟩, ⟨.issueToken, .ok "u"⟩,
     ⟨.call "u" (.findRealm "acme"), .ok none⟩]
  result := .ok none
  finish := ⟨some "u"⟩

def forgetfulTurn : Turn := ⟨.forget, ⟨some "u"⟩, [], .ok (), .empty⟩

theorem renewed_history :
    History [unrenewedTurn, renewedTurn, forgetfulTurn] .empty := by
  have first : unrenewedTurn.use.work.Runs unrenewedTurn.start unrenewedTurn.events
      unrenewedTurn.result unrenewedTurn.finish := .ask (.ask (.ask (.done _)))
  have second : renewedTurn.use.work.Runs renewedTurn.start renewedTurn.events renewedTurn.result
      renewedTurn.finish := .ask (.ask (.ask (.done _)))
  have third : forgetfulTurn.use.work.Runs forgetfulTurn.start forgetfulTurn.events
      forgetfulTurn.result forgetfulTurn.finish := .done _
  show History ([] ++ [unrenewedTurn] ++ [renewedTurn] ++ [forgetfulTurn]) .empty
  exact .snoc (.snoc (.snoc .nil first) second) third

theorem history_hands_latest_renewed :
    History [unrenewedTurn, renewedTurn, forgetfulTurn] .empty ∧
      renewedTurn.deals = [.handed "t", .issued "u"] ++ .handed "u" :: [] ∧
      Deal.latest (dealings [unrenewedTurn] ++ [.handed "t", .issued "u"]) = some "u" ∧
      Deal.requests renewedTurn.deals = renewedTurn.due (some "t") ∧
      renewedTurn.start.token = standing [unrenewedTurn] := by
  have proper : renewedTurn.Proper [unrenewedTurn] :=
    (history_hands_latest renewed_history).1 [unrenewedTurn] renewedTurn [forgetfulTurn] rfl
  exact ⟨renewed_history, rfl, proper.latest _ _ _ rfl, proper.asked, proper.start⟩

end Tenancy.Work
