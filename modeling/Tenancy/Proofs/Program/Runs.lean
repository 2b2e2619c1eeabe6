import Tenancy.Program

/-!
# Runs of programs

A run is a program together with the answers that it happened to get. Nothing is said about who
answered: whatever holds of every run holds against every world, one that remembers all that it was
asked before included. A run taken apart where the program was put together gives runs of the parts,
and a run over another interface gives one over the first, each of whose events was carried out by
a run of its own.
-/

namespace Tenancy

/-- A question that was asked, with the answer that it got. -/
structure Interface.Event (I : Interface) where
  query : I.Query
  answer : I.Answer query

namespace Program

variable {I J : Interface} {α β : Type}

/-- Asked and answered as in the list of events, the program ends with the value. -/
inductive Runs : Program I α → List I.Event → α → Prop
  | done (v : α) : Runs (.done v) [] v
  | ask {q : I.Query} {next : I.Answer q → Program I α} {a : I.Answer q} {es : List I.Event} {v : α}
      (rest : Runs (next a) es v) : Runs (.ask q next) (⟨q, a⟩ :: es) v

/-! ## Taking a run apart -/

theorem Runs.of_done {u v : α} {es : List I.Event} (h : (Program.done u).Runs es v) :
    es = [] ∧ v = u := by
  cases h; exact ⟨rfl, rfl⟩

theorem Runs.of_ask {q : I.Query} {next : I.Answer q → Program I α} {es : List I.Event} {v : α}
    (h : (Program.ask q next).Runs es v) :
    ∃ a es', es = ⟨q, a⟩ :: es' ∧ (next a).Runs es' v := by
  cases h with
  | ask rest => exact ⟨_, _, rfl, rest⟩

theorem Runs.of_query {q : I.Query} {es : List I.Event} {a : I.Answer q}
    (h : (Program.query q).Runs es a) : es = [⟨q, a⟩] := by
  obtain ⟨_, _, rfl, rest⟩ := h.of_ask
  obtain ⟨rfl, rfl⟩ := rest.of_done
  rfl

/-- A run of two programs one after the other is a run of the first followed by one of the second. -/
theorem Runs.of_bind {p : Program I α} {f : α → Program I β} {es : List I.Event} {v : β}
    (h : (p.bind f).Runs es v) :
    ∃ es₁ es₂ u, es = es₁ ++ es₂ ∧ p.Runs es₁ u ∧ (f u).Runs es₂ v := by
  induction p generalizing es with
  | done u => exact ⟨[], es, u, rfl, .done u, h⟩
  | ask q next ih =>
    obtain ⟨a, es', rfl, rest⟩ := Runs.of_ask h
    obtain ⟨es₁, es₂, u, rfl, first, second⟩ := ih a rest
    exact ⟨⟨q, a⟩ :: es₁, es₂, u, rfl, .ask first, second⟩

theorem Runs.of_map {p : Program I α} {f : α → β} {es : List I.Event} {v : β}
    (h : (f <$> p).Runs es v) : ∃ u, v = f u ∧ p.Runs es u := by
  rw [map_eq_pure_bind] at h
  obtain ⟨es₁, es₂, u, rfl, first, second⟩ := Runs.of_bind h
  obtain ⟨rfl, rfl⟩ := second.of_done
  exact ⟨u, rfl, by rwa [List.append_nil]⟩

/-- No run of a program goes on where another one of it has ended. -/
theorem Runs.unique_of_append {p : Program I α} {es es' rest rest' : List I.Event} {u v : α}
    (h : p.Runs es u) (h' : p.Runs es' v) (same : es ++ rest = es' ++ rest') : es = es' ∧ u = v := by
  induction h generalizing es' with
  | done u =>
    obtain ⟨rfl, rfl⟩ := h'.of_done
    exact ⟨rfl, rfl⟩
  | ask _ ih =>
    obtain ⟨a, es', rfl, run⟩ := h'.of_ask
    obtain ⟨first, tail⟩ := List.cons.inj same
    cases first
    obtain ⟨rfl, rfl⟩ := ih run tail
    exact ⟨rfl, rfl⟩

/-- The first part of a program that may fail fails and is all there is, or it succeeds and the
second part goes on. -/
theorem Runs.of_exceptBind {ε : Type} {x : ExceptT ε (Program I) α}
    {f : α → ExceptT ε (Program I) β} {es : List I.Event} {r : Except ε β}
    (h : (x >>= f).run.Runs es r) :
    (∃ e, x.run.Runs es (.error e) ∧ r = .error e) ∨
      ∃ v es₁ es₂, es = es₁ ++ es₂ ∧ x.run.Runs es₁ (.ok v) ∧ (f v).run.Runs es₂ r := by
  obtain ⟨es₁, es₂, u, rfl, first, second⟩ := Runs.of_bind h
  cases u with
  | error e =>
    obtain ⟨rfl, rfl⟩ := second.of_done
    exact .inl ⟨e, by rwa [List.append_nil], rfl⟩
  | ok v => exact .inr ⟨v, es₁, es₂, rfl, first, second⟩

/-! ## Runs over another interface -/

/-- The events of one interface, each carried out by a program over another, with all the events
that this took. -/
inductive Carried (find : (q : I.Query) → Program J (I.Answer q)) :
    List I.Event → List J.Event → Prop
  | nil : Carried find [] []
  | cons {e : I.Event} {es : List I.Event} {js js' : List J.Event}
      (run : (find e.query).Runs js e.answer) (rest : Carried find es js') :
      Carried find (e :: es) (js ++ js')

/-- A program that was carried over ran as itself, and each of its events was carried out. -/
theorem Runs.of_via {find : (q : I.Query) → Program J (I.Answer q)} {p : Program I α}
    {js : List J.Event} {v : α} (h : (p.via find).Runs js v) :
    ∃ es, p.Runs es v ∧ Carried find es js := by
  induction p generalizing js with
  | done u =>
    obtain ⟨rfl, rfl⟩ := Runs.of_done h
    exact ⟨[], .done v, .nil⟩
  | ask q next ih =>
    obtain ⟨js₁, js₂, a, rfl, first, second⟩ := Runs.of_bind h
    obtain ⟨es, run, carried⟩ := ih a second
    exact ⟨⟨q, a⟩ :: es, .ask run, .cons first carried⟩

variable {find : (q : I.Query) → Program J (I.Answer q)}

/-- Events one after the other were carried out one after the other. -/
theorem Carried.of_append {es₁ es₂ : List I.Event} {js : List J.Event}
    (h : Carried find (es₁ ++ es₂) js) :
    ∃ js₁ js₂, js = js₁ ++ js₂ ∧ Carried find es₁ js₁ ∧ Carried find es₂ js₂ := by
  induction es₁ generalizing js with
  | nil => exact ⟨[], js, rfl, .nil, h⟩
  | cons e es₁ ih =>
    cases h with
    | @cons _ _ ks js' run rest =>
      obtain ⟨js₁, js₂, rfl, first, second⟩ := ih rest
      exact ⟨ks ++ js₁, js₂, (List.append_assoc ks js₁ js₂).symm, .cons run first, second⟩

theorem Carried.single {e : I.Event} {js : List J.Event} (run : (find e.query).Runs js e.answer) :
    Carried find [e] js :=
  List.append_nil js ▸ .cons run .nil

theorem Carried.append {es₁ es₂ : List I.Event} {js₁ js₂ : List J.Event}
    (h : Carried find es₁ js₁) (h' : Carried find es₂ js₂) :
    Carried find (es₁ ++ es₂) (js₁ ++ js₂) := by
  induction h with
  | nil => exact h'
  | cons run _ ih => exact List.append_assoc _ _ js₂ ▸ .cons run ih

theorem Carried.of_nil {js : List J.Event} (h : Carried find [] js) : js = [] := by
  cases h
  rfl

theorem Carried.of_cons {e : I.Event} {es : List I.Event} {js : List J.Event}
    (h : Carried find (e :: es) js) :
    ∃ js₁ js₂, js = js₁ ++ js₂ ∧ (find e.query).Runs js₁ e.answer ∧ Carried find es js₂ := by
  cases h with
  | cons run rest => exact ⟨_, _, rfl, run, rest⟩

theorem Carried.of_single {e : I.Event} {js : List J.Event} (h : Carried find [e] js) :
    (find e.query).Runs js e.answer := by
  cases h with
  | cons run rest =>
    obtain rfl := rest.of_nil
    rwa [List.append_nil]

theorem append_eq_place {α : Type} {xs ys before after : List α} {x : α}
    (h : xs ++ ys = before ++ x :: after) :
    (∃ rest, xs = before ++ x :: rest ∧ after = rest ++ ys) ∨
      ∃ front, before = xs ++ front ∧ ys = front ++ x :: after := by
  rcases List.append_eq_append_iff.mp h with ⟨front, rfl, tail⟩ | ⟨rest, rfl, tail⟩
  · exact .inr ⟨front, rfl, tail⟩
  · cases rest with
    | nil => exact .inr ⟨[], by simp, tail.symm⟩
    | cons y rest =>
      obtain ⟨rfl, later⟩ := List.cons.inj tail
      exact .inl ⟨rest, rfl, later⟩

/-- Whatever happened over the other interface happened while some event was carried out. -/
theorem Carried.split {es : List I.Event} {before after : List J.Event} {j : J.Event}
    (h : Carried find es (before ++ j :: after)) :
    ∃ es₁ e es₂ js₁ ks ks' js₂, es = es₁ ++ e :: es₂ ∧ before = js₁ ++ ks ∧ after = ks' ++ js₂ ∧
      (find e.query).Runs (ks ++ j :: ks') e.answer ∧ Carried find es₁ js₁ ∧
      Carried find es₂ js₂ := by
  generalize hjs : before ++ j :: after = js at h
  induction h generalizing before with
  | nil => simp at hjs
  | @cons e es js js' run rest ih =>
    rcases append_eq_place hjs.symm with ⟨ks', here, hafter⟩ | ⟨m, hbefore, there⟩
    · exact ⟨[], e, es, [], before, ks', js', rfl, rfl, hafter, here ▸ run, .nil, rest⟩
    · obtain ⟨es₁, e', es₂, js₁, ks, ks', js₂, hes, hm, hafter, run', first, second⟩ := ih there.symm
      refine ⟨e :: es₁, e', es₂, js ++ js₁, ks, ks', js₂, by rw [hes]; rfl, ?_, hafter, run',
        .cons run first, second⟩
      rw [hbefore, hm, List.append_assoc]

/-- An event was carried out by a run of its own, of which nothing is lost. -/
theorem Carried.sink {es : List I.Event} {js : List J.Event} (h : Carried find es js)
    {e : I.Event} (he : e ∈ es) :
    ∃ ks, (find e.query).Runs ks e.answer ∧ ∀ k ∈ ks, k ∈ js := by
  induction h with
  | nil => cases he
  | cons run _ ih =>
    cases he with
    | head => exact ⟨_, run, fun k hk => List.mem_append_left _ hk⟩
    | tail _ he =>
      obtain ⟨ks, run', kept⟩ := ih he
      exact ⟨ks, run', fun k hk => List.mem_append_right _ (kept k hk)⟩

theorem Carried.source {es : List I.Event} {js : List J.Event} (h : Carried find es js)
    {j : J.Event} (hj : j ∈ js) : ∃ e ∈ es, ∃ ks, (find e.query).Runs ks e.answer ∧ j ∈ ks := by
  obtain ⟨before, after, rfl⟩ := List.append_of_mem hj
  obtain ⟨es₁, e, es₂, _, ks, ks', _, rfl, _, _, run, _⟩ := h.split
  exact ⟨e, by simp, ks ++ j :: ks', run, by simp⟩

end Program

end Tenancy
