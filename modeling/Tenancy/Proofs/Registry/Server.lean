import Mathlib.Data.List.Infix
import Mathlib.Logic.Function.Basic
import Tenancy.Proofs.Program.Agreement
import Tenancy.Proofs.Realm.Addressing
import Tenancy.Proofs.Realm.Naming
import Tenancy.Proofs.Registry.Requests
import Tenancy.Proofs.Wire.RoundTrip

/-!
# A registry that keeps a map

The other side of the registry client: a server that keeps tenants under their ids. It goes by what
is on the wire alone: the method, what the path has below the base URL, and the text of the body. Of
every request the client can make for a realm's name it understands what the client meant.
-/

namespace Tenancy.Registry

/-- What a registry keeps, by id. -/
abbrev Entries := String → Option Descriptor

/-- What a registry is asked for. -/
inductive Order where
  | look (id : String)
  | add (d : Descriptor)
  | put (id : String) (d : Descriptor)
  | drop (id : String)

namespace Order

/-! ## The map -/

/-- What an order makes of the entries. -/
def effect (m : Entries) : Order → Entries
  | look _ => m
  | add d => Function.update m d.id (some d)
  | put id d => if (m id).isSome then Function.update m id (some d) else m
  | drop id => Function.update m id none

/-- The statuses with which an order may be answered. -/
def Owes (m : Entries) : Order → Status → Prop
  | add _, s => s.isSuccess = true
  | look id, s | put id _, s | drop id, s => if (m id).isSome then s.isSuccess = true else s = .notFound

/-! ## Reading requests -/

/-- The path that a URL adds to that of all tenants below a base URL. -/
def below? (base u : Url) : Option (List String) :=
  match u.path with
  | .segments parts =>
    if { u with path := base.path } = base then parts.dropPrefix? (base.stem ++ Remote.path none)
    else none
  | .flat _ => none

/-- The id that a segment of a path spells. -/
def id? (segment : String) : Option String := Utf8.decode? (Percent.decode (Utf8.encode segment))

/-- The tenant that a body spells. -/
def descriptor? (body : Option String) : Option Descriptor :=
  body.bind fun text => (Descriptor.codec.readText text).toOption

/-- The order that a request is. -/
def ofRequest? (base : Url) (q : Http.Request) : Option Order := do
  match q.method, ← below? base q.url with
  | .get, [s] => return look (← id? s)
  | .post, [] => return add (← descriptor? q.body)
  | .put, [s] => return put (← id? s) (← descriptor? q.body)
  | .delete, [s] => return drop (← id? s)
  | _, _ => none

/-! ## Writing requests -/

/-- The method of an order. -/
def method : Order → Http.Method
  | look _ => .get
  | add _ => .post
  | put _ _ => .put
  | drop _ => .delete

/-- The tenant in the path of an order. -/
def tenant? : Order → Option String
  | look id => some id
  | add _ => none
  | put id _ => some id
  | drop id => some id

/-- The tenant in the body of an order. -/
def body? : Order → Option Descriptor
  | look _ => none
  | add d => some d
  | put _ d => some d
  | drop _ => none

/-- An order that is about a realm's name, if it has a tenant in its path. -/
def Named (o : Order) : Prop := o.tenant?.all RealmName.isValid = true

/-- The request by which an order is given. -/
def request (r : Remote) (ctx : RequestContext) (o : Order) : Except Fault Http.Request :=
  r.request ctx o.method o.tenant? o.body?

end Order

/-! ## Names in paths -/

open Url

variable {name : String} {base u : Url}

theorem steady_realmName (h : RealmName.isValid name = true) : kept name = name ∧ Steady name := by
  obtain ⟨_, chars⟩ := RealmName.isValid_chars h
  have same : kept name = name := kept_of_plain fun c hc =>
    have plain := RealmName.isTail_plain (chars c hc)
    ⟨plain.1, plain.2.1, plain.2.2.1⟩
  refine ⟨same, ?_, ?_⟩ <;> rw [same] <;> rintro rfl
  · exact absurd (chars '.' (by decide)) (by decide)
  · exact absurd (chars '.' (by decide)) (by decide)

/-- The segment for a realm's name spells the name. -/
theorem id_realmName (h : RealmName.isValid name = true) (scheme : String) :
    Order.id? (String.ofList (written scheme name)) = some name := by
  have ascii : ∀ c ∈ name.toList, c.toNat < 128 := fun c hc =>
    (RealmName.isTail_plain ((RealmName.isValid_chars h).2 c hc)).2.2.2.2
  rw [Order.id?, Utf8.encode, String.toList_ofList, decode_written, (steady_realmName h).1,
    Utf8.decode?_ascii ascii]

/-! ## What is understood -/

theorem steady_path {tenant : Option String} (named : tenant.all RealmName.isValid = true) :
    ∀ s ∈ Remote.path tenant, Steady s := by
  have words : ∀ s ∈ ["_", "proxy", "tenants"], kept s ≠ "." ∧ kept s ≠ ".." := by decide
  intro s hs
  rcases List.mem_append.mp hs with hs | hs
  · exact words s hs
  · rw [Option.mem_toList.mp hs] at named
    exact (steady_realmName named).2

theorem written_path (scheme : String) (tenant : Option String) :
    (Remote.path tenant).map (fun s => String.ofList (written scheme s)) =
      Remote.path none ++ tenant.toList.map fun s => String.ofList (written scheme s) := by
  have words : ["_", "proxy", "tenants"].map (fun s => String.ofList (written scheme s)) =
      ["_", "proxy", "tenants"] := by
    unfold written
    cases isSpecial scheme <;> decide
  rw [Remote.path, List.map_append, words]
  rfl

/-- Where the tenants are below a base URL. -/
theorem join_path {tenant : Option String} (named : tenant.all RealmName.isValid = true)
    (hierarchical : base.isHierarchical = true) : base.join? (Remote.path tenant) =
      some { base with path := .segments (base.stem ++ (Remote.path none ++
        tenant.toList.map fun s => String.ofList (written base.scheme s))) } := by
  cases path : base.path with
  | flat text => simp [isHierarchical, path] at hierarchical
  | segments parts =>
    have stem : base.stem = unslashed (popIfEmpty parts) := by rw [Url.stem, path]
    have begun : kept "_" ≠ "" := by decide
    have steady : ∀ s ∈ "_" :: (["proxy", "tenants"] ++ tenant.toList), Steady s :=
      steady_path named
    rw [stem, ← written_path]
    exact join_steady path begun steady

theorem below_join {tenant : Option String} (named : tenant.all RealmName.isValid = true)
    (joined : base.join? (Remote.path tenant) = some u) :
    Order.below? base u =
      some (tenant.toList.map fun s => String.ofList (written base.scheme s)) := by
  rw [join_path named (hierarchical_of_join joined)] at joined
  obtain rfl := Option.some.inj joined
  simp only [Order.below?, if_true, ← List.append_assoc, List.dropPrefix?_eq_some_iff]
  exact ⟨_, rfl, beq_self_eq_true _⟩

/-- The path of all tenants is shorter than that of any of them. -/
theorem Remote.Reaches.all {r : Remote} {ctx : RequestContext}
    (named : RealmName.isValid name = true) (h : r.Reaches ctx (some name)) : r.Reaches ctx none := by
  obtain ⟨⟨u, joined, requestable⟩, valid⟩ := h
  have hierarchical := hierarchical_of_join joined
  have one : (some name).all RealmName.isValid = true := named
  rw [join_path one hierarchical] at joined
  obtain rfl := Option.some.inj joined
  refine ⟨⟨_, join_path rfl hierarchical, requestable.of_path ?_⟩, valid⟩
  rw [Option.toList_none, List.map_nil, List.append_nil, ← List.append_assoc]
  exact UrlPath.size_le_append _ _

theorem descriptor_numberless : Descriptor.codec.Numberless := by
  refine Json.Record.numberless fun f hf => ?_
  simp only [Descriptor.record, List.mem_cons, List.not_mem_nil, or_false] at hf
  rcases hf with rfl | rfl | rfl
  · exact Json.Field.required_numberless Json.Codec.string_numberless
  · exact Json.Field.required_numberless Json.Codec.string_numberless
  · exact (Json.Field.present_numberless Json.Codec.string_numberless).mayEnd

theorem descriptor_encoded (d : Descriptor) :
    Order.descriptor? (some (Descriptor.codec.encode d).compact) = some d := by
  have reads := Wire.descriptor_codec_solid.toSound.reads d _ .text
    (Wire.descriptor_codec_solid.toSound.shaped d)
  have read : Descriptor.codec.readText (Descriptor.codec.encode d).compact = .ok d :=
    (Json.readText_numberless _ (descriptor_numberless d)).trans reads
  simp [Order.descriptor?, read, Except.toOption]

/-- Every order is understood from its request. -/
theorem ofRequest_request {r : Remote} {ctx : RequestContext} {o : Order} {q : Http.Request}
    (named : o.Named) (made : o.request r ctx = .ok q) : Order.ofRequest? r.base q = some o := by
  have asks := Remote.asks_of_request made
  have below := below_join named asks.url
  cases o with
  | look id | drop id =>
    have spelt : Order.id? (String.ofList (written r.base.scheme id)) = some id :=
      id_realmName named _
    simp [Order.ofRequest?, asks.method, below, Order.method, Order.tenant?, spelt]
  | add d =>
    simp [Order.ofRequest?, asks.method, asks.body, below, Order.method, Order.tenant?, Order.body?,
      descriptor_encoded]
  | put id d =>
    have spelt : Order.id? (String.ofList (written r.base.scheme id)) = some id :=
      id_realmName named _
    simp [Order.ofRequest?, asks.method, asks.body, below, Order.method, Order.tenant?, Order.body?,
      descriptor_encoded, spelt]

/-! ## Keeping -/

/-- What a question makes of the entries. -/
def heeded (base : Url) (m : Entries) : Outside.Query → Entries
  | .exchange q =>
    match Order.ofRequest? base q with
    | some o => o.effect m
    | none => m
  | _ => m

/-- The entries after all that happened. -/
def after (base : Url) (m : Entries) (es : List Outside.Event) : Entries :=
  es.foldl (fun m e => heeded base m e.query) m

/-- What is asked of the registry is answered as the entries demand. -/
def Serves (base : Url) (m : Entries) : Outside.Event → Prop
  | ⟨.exchange q, outcome⟩ => ∀ o, Order.ofRequest? base q = some o →
      ∃ reply : Http.Reply, outcome = .ok reply ∧ o.Owes m reply.status
  | _ => True

/-- One answer after the other is as the entries of the moment demand. -/
def Served (base : Url) : Entries → List Outside.Event → Prop
  | _, [] => True
  | m, e :: es => Serves base m e ∧ Served base (heeded base m e.query) es

/-- A world with a registry that begins with some entries and keeps them as it is told. -/
def Keeps (base : Url) (start : Entries) (w : Outside.World) : Prop :=
  ∀ past q, Serves base (after base start past) ⟨q, w past q⟩

variable {m start : Entries} {es es' : List Outside.Event} {w : Outside.World}

theorem after_append : after base m (es ++ es') = after base (after base m es) es' :=
  List.foldl_append

theorem served_append (h : Served base m (es ++ es')) :
    Served base m es ∧ Served base (after base m es) es' := by
  induction es generalizing m with
  | nil => exact ⟨trivial, h⟩
  | cons e es ih =>
    obtain ⟨first, rest⟩ := h
    obtain ⟨before, behind⟩ := ih rest
    exact ⟨⟨first, before⟩, behind⟩

theorem Keeps.served {α : Type} (keeps : Keeps base start w) (p : Program Outside α)
    (past : List Outside.Event) : Served base (after base start past) (p.against w past).1 := by
  induction p generalizing past with
  | done v => trivial
  | ask q next ih =>
    refine ⟨keeps past q, ?_⟩
    -- What is asked here is part of the past of all that is asked later.
    have rest := ih (w past q) (past ++ [⟨q, w past q⟩])
    rwa [after_append] at rest

/-- The status with which a registry answers. -/
def Order.answer (m : Entries) : Order → Status
  | .add _ => .created
  | .look id => if (m id).isSome then .ok else .notFound
  | .put id _ | .drop id => if (m id).isSome then .noContent else .notFound

/-- A world with such a registry, where nothing is stored and it is always the same time. -/
def keeper (base : Url) (start : Entries) : Outside.World := fun past q =>
  match q with
  | .exchange q =>
    let status := (Order.ofRequest? base q).elim .notFound (Order.answer (after base start past))
    .ok ⟨status, [], .ok []⟩
  | .readSecret _ => .ok none
  | .writeSecret _ _ => .ok ()
  | .cleanTopics _ => .ok ()
  | .entropy => (0 : Nat)
  | .now => (0 : Nat)

theorem keeper_keeps (base : Url) (start : Entries) : Keeps base start (keeper base start) := by
  intro past q
  cases q with
  | exchange q =>
    intro o order
    refine ⟨_, rfl, ?_⟩
    rw [order]
    cases o with
    | add d => rfl
    | look id | put id d | drop id =>
      simp only [Option.elim, Order.answer, Order.Owes]
      split <;> rfl
  | _ => trivial

end Tenancy.Registry
