import Tenancy.Proofs.Realm.Mutations
import Tenancy.Proofs.Url.Joining

/-!
# What a name can touch

A realm is looked up and retired under any text at all. The text becomes one segment of a path, and
the realm of that very name is addressed, unless the text holds a tab or a line end or is made of one
or two dots: then the request is for another realm or for none in particular.
-/

namespace Tenancy

/-- The segments of a base path that a path is added to. -/
def Url.stem (base : Url) : List String :=
  match base.path with
  | .segments parts => unslashed (popIfEmpty parts)
  | .flat _ => []

namespace Realm

open Provider Work Session Url

/-- A URL stands for the realm of a name below a base URL. -/
def Addresses (base : Url) (name : String) (u : Url) : Prop :=
  ∃ segment, u.path = .segments (base.stem ++ ["admin", "realms", segment]) ∧
    Percent.decode (Utf8.encode segment) = Utf8.encode name

/-- A text without tabs and line ends that is neither one dot nor two. -/
def Addressable (name : String) : Prop :=
  (∀ c ∈ name.toList, c ≠ '\t' ∧ c ≠ '\n' ∧ c ≠ '\r') ∧ name ≠ "." ∧ name ≠ ".."

variable {base u : Url} {name : String}

/-! ## The path of a realm -/

/-- Where a name leads below the collection of all realms. -/
inductive Leads (scheme name : String) : List String → Prop
  | collection (dots : name = "." ∨ name = "..") : Leads scheme name ["admin", "realms"]
  | above (dots : kept name = "..") (ignored : name ≠ "..") : Leads scheme name ["admin", ""]
  | within (dot : kept name = ".") (ignored : name ≠ ".") : Leads scheme name ["admin", "realms", ""]
  | realm (notHere : kept name ≠ ".") (notUp : kept name ≠ "..") :
      Leads scheme name ["admin", "realms", String.ofList (written scheme name)]

theorem push_admin (scheme : String) (parts : List String) :
    push scheme parts "admin" = unslashed parts ++ ["admin"] := by
  have text : written scheme "admin" = "admin".toList := by
    unfold written
    cases isSpecial scheme <;> decide
  rw [push_written (by decide) (by decide), text, String.ofList_toList]

theorem push_realms (scheme : String) (parts : List String) :
    push scheme (parts ++ ["admin"]) "realms" = parts ++ ["admin", "realms"] := by
  have text : written scheme "realms" = "realms".toList := by
    unfold written
    cases isSpecial scheme <;> decide
  have whole : unslashed (parts ++ ["admin"]) = parts ++ ["admin"] := by
    cases parts <;> simp [unslashed]
  rw [push_written (by decide) (by decide), text, String.ofList_toList, whole, List.append_assoc]
  rfl

theorem leads_push (scheme : String) (parts : List String) (dots : ¬ (name = "." ∨ name = "..")) :
    ∃ tail, push scheme (parts ++ ["admin", "realms"]) name = parts ++ tail ∧
      Leads scheme name tail := by
  have whole : unslashed (parts ++ ["admin", "realms"]) = parts ++ ["admin", "realms"] := by
    cases parts <;> simp [unslashed]
  obtain ⟨notHere, notUp⟩ := not_or.mp dots
  by_cases up : kept name = ".."
  · refine ⟨["admin", ""], ?_, .above up notUp⟩
    have drive : isDrive "realms".toList = false := rfl
    have pushed : push scheme ((parts ++ ["admin"]) ++ ["realms"]) name =
        (parts ++ ["admin"]) ++ [""] :=
      push_dots up drive
    simpa using pushed
  by_cases here : kept name = "."
  · exact ⟨["admin", "realms", ""], by rw [push_dot here, whole]; simp, .within here notHere⟩
  · exact ⟨["admin", "realms", String.ofList (written scheme name)],
      by rw [push_written up here, whole]; simp, .realm here up⟩

theorem join_leads (h : base.join? ["admin", "realms", name] = some u) :
    ∃ tail, u.path = .segments (base.stem ++ tail) ∧ Leads base.scheme name tail := by
  unfold join? at h
  unfold stem
  split at h
  · cases h
  · next parts path =>
    obtain rfl := Option.some.inj h
    simp only [path]
    by_cases dots : name = "." ∨ name = ".."
    · have kept : (["admin", "realms", name].filter fun s => !isUnwritable s) =
          ["admin", "realms"] := by
        rcases dots with rfl | rfl <;> rfl
      refine ⟨["admin", "realms"], ?_, .collection dots⟩
      rw [kept, List.foldl_cons, List.foldl_cons, List.foldl_nil, push_admin, push_realms]
    · have kept : (["admin", "realms", name].filter fun s => !isUnwritable s) =
          ["admin", "realms", name] := by
        simp only [not_or] at dots
        simp [isUnwritable, dots]
      obtain ⟨tail, pushed, leads⟩ := leads_push base.scheme (unslashed (popIfEmpty parts)) dots
      refine ⟨tail, ?_, leads⟩
      rw [kept, List.foldl_cons, List.foldl_cons, List.foldl_cons, List.foldl_nil, push_admin,
        push_realms, pushed]

/-! ## Who is addressed -/

variable {name' : String} {tail : List String}

theorem addresses_iff_tail (path : u.path = .segments (base.stem ++ tail)) :
    Addresses base name u ↔ ∃ segment, tail = ["admin", "realms", segment] ∧
      Percent.decode (Utf8.encode segment) = Utf8.encode name := by
  simp [Addresses, path]

/-- A URL stands for one realm at most. -/
theorem Addresses.unique (h : Addresses base name u) (h' : Addresses base name' u) :
    name = name' := by
  obtain ⟨segment, path, decoded⟩ := h
  obtain ⟨segment', path', decoded'⟩ := h'
  have same : segment = segment' := by
    rw [path] at path'
    simpa using path'
  rw [← Utf8.encode_inj, ← decoded, ← decoded', same]

theorem Leads.addresses_kept (h : Leads base.scheme name tail)
    (path : u.path = .segments (base.stem ++ tail)) (notHere : kept name ≠ ".")
    (notUp : kept name ≠ "..") : Addresses base (kept name) u := by
  rw [addresses_iff_tail path]
  cases h with
  | collection dots => rcases dots with rfl | rfl <;> contradiction
  | above dots _ => contradiction
  | within dot _ => contradiction
  | realm _ _ =>
    refine ⟨_, rfl, ?_⟩
    rw [Utf8.encode, String.toList_ofList]
    exact decode_written base.scheme name

theorem Leads.kept_of_addresses (h : Leads base.scheme name tail)
    (path : u.path = .segments (base.stem ++ tail)) (addressed : Addresses base name u) :
    kept name ≠ "." ∧ kept name ≠ ".." ∧ kept name = name := by
  obtain ⟨segment, shape, decoded⟩ := (addresses_iff_tail path).mp addressed
  cases h with
  | collection dots => simp at shape
  | above dots ignored => simp at shape
  | within dot ignored =>
    have blank : segment = "" := by simpa using shape.symm
    have empty : "" = name := by
      rw [← Utf8.encode_inj, ← decoded, blank]
      rfl
    rw [← empty] at dot
    exact absurd dot (by decide)
  | realm notHere notUp =>
    have same : segment = String.ofList (written base.scheme name) := by simpa using shape.symm
    rw [same, Utf8.encode, String.toList_ofList, decode_written, Utf8.encode_inj] at decoded
    exact ⟨notHere, notUp, decoded⟩

theorem Leads.addresses_iff (h : Leads base.scheme name tail)
    (path : u.path = .segments (base.stem ++ tail)) :
    Addresses base name u ↔ Addressable name := by
  constructor
  · intro addressed
    obtain ⟨notHere, notUp, same⟩ := h.kept_of_addresses path addressed
    exact ⟨plain_of_kept same, same ▸ notHere, same ▸ notUp⟩
  · rintro ⟨plain, notHere, notUp⟩
    have same := kept_of_plain plain
    have addressed := h.addresses_kept path (by rwa [same]) (by rwa [same])
    rwa [same] at addressed

theorem Leads.collection_iff {s : String} (h : Leads s name tail) :
    tail = ["admin", "realms"] ↔ name = "." ∨ name = ".." := by
  cases h with
  | collection dots => simp [dots]
  | above dots ignored =>
    have notHere : name ≠ "." := by
      rintro rfl
      exact absurd dots (by decide)
    simp [ignored, notHere]
  | within dot ignored =>
    have notUp : name ≠ ".." := by
      rintro rfl
      exact absurd dot (by decide)
    simp [ignored, notUp]
  | realm notHere notUp =>
    have plain : name ≠ "." ∧ name ≠ ".." :=
      ⟨by rintro rfl; exact notHere (by decide), by rintro rfl; exact notUp (by decide)⟩
    simp [plain]

/-! ## What is sent for a name -/

/-- A request for the admin interface that a run of the lookup or the removal of a realm sends. -/
inductive Sends (e : Endpoint) (name : String) (q : Http.Request) : Prop
  | lookup {slot slot' : TokenSlot} {js : List Outside.Event}
      {r : Except Fault (Option Wire.Realm)} {o : Http.Outcome}
      (run : ((Realm.lookup name).through e).Runs slot js r slot') (sent : ⟨.exchange q, o⟩ ∈ js)
      (admin : q.header? "authorization" ≠ none) : Sends e name q
  | retire {slot slot' : TokenSlot} {js : List Outside.Event} {r : Except Fault Unit}
      {o : Http.Outcome} (run : ((Realm.retire name).through e).Runs slot js r slot')
      (sent : ⟨.exchange q, o⟩ ∈ js) (admin : q.header? "authorization" ≠ none) : Sends e name q

variable {e : Endpoint} {q : Http.Request} {es : List Facility.Event} {slot slot' : TokenSlot}
  {t : Token} {c : Call}

theorem lookup_calls {r : Except Fault (Option Wire.Realm)}
    (run : (Realm.lookup name).Runs slot es r slot') {ev : Facility.Event} (asked : ev ∈ es)
    (call : ev.query = .call t c) : c = .findRealm name :=
  step_makes (s := seeks name) run asked call

theorem retire_calls {r : Except Fault Unit} (run : (Realm.retire name).Runs slot es r slot')
    {ev : Facility.Event} (asked : ev ∈ es) (call : ev.query = .call t c) :
    c = .findRealm name ∨ c = .deleteRealm name := by
  rcases Runs.of_bind run with ⟨f, looked, _⟩ | ⟨seen, es₁, es₂, slot₁, rfl, looked, rest⟩
  · exact .inl (lookup_calls looked asked call)
  rcases List.mem_append.mp asked with asked | asked
  · exact .inl (lookup_calls looked asked call)
  cases seen with
  | none =>
    obtain ⟨rfl, _, _⟩ := Runs.of_pure rest
    cases asked
  | some found =>
    rcases Runs.of_bind rest with ⟨f, removed, _⟩ | ⟨_, es₃, es₄, slot₂, rfl, removed, rest⟩
    · exact .inr (step_makes (s := drops name) removed asked call)
    · obtain ⟨rfl, _, _⟩ := Runs.of_pure rest
      rw [List.append_nil] at asked
      exact .inr (step_makes (s := drops name) removed asked call)

theorem Sends.joined (h : Sends e name q) :
    e.base.join? ["admin", "realms", name] = some q.url := by
  cases h with
  | lookup run sent admin =>
    obtain ⟨es, work, carried⟩ := runs_through run
    obtain ⟨ev, asked, ks, answered, inside⟩ := carried.source sent
    obtain ⟨t, c, rfl, request, _, _⟩ := Endpoint.runs_exchange answered inside admin
    exact Retires.joined (.inl (lookup_calls work asked rfl)) request
  | retire run sent admin =>
    obtain ⟨es, work, carried⟩ := runs_through run
    obtain ⟨ev, asked, ks, answered, inside⟩ := carried.source sent
    obtain ⟨t, c, rfl, request, _, _⟩ := Endpoint.runs_exchange answered inside admin
    exact Retires.joined (retire_calls work asked rfl) request

/-- What is sent for a name is for the realm of that name exactly if the name holds no tab and no line
end and is neither one dot nor two; names of this kind never share a URL. One dot or two are the only
names for which the collection of all realms is addressed. Tabs and line ends are lost: what is sent
for a name is for the realm of the rest, unless that is made of dots. -/
theorem request_addresses_iff (h : Sends e name q) :
    (Addresses e.base name q.url ↔ Addressable name) ∧
    (∀ name' q', Sends e name' q' → Addressable name → Addressable name' → name ≠ name' →
      q.url ≠ q'.url) ∧
    (q.url.path = .segments (e.base.stem ++ ["admin", "realms"]) ↔ name = "." ∨ name = "..") ∧
    (kept name ≠ "." → kept name ≠ ".." → Addresses e.base (kept name) q.url) := by
  obtain ⟨tail, path, leads⟩ := join_leads h.joined
  refine ⟨leads.addresses_iff path, ?_, ?_, leads.addresses_kept path⟩
  · intro name' q' h' addressable addressable' differ same
    obtain ⟨tail', path', leads'⟩ := join_leads h'.joined
    have first := (leads.addresses_iff path).mpr addressable
    have second := (leads'.addresses_iff path').mpr addressable'
    rw [← same] at second
    exact differ (first.unique second)
  · rw [← leads.collection_iff, path]
    simp

/-- The request with which a realm is looked for. -/
def seeking : Http.Request := kcRequest .get ["admin", "realms", "acme"]

theorem sends_named : Sends kc "acme" seeking := by
  have run : ((Realm.lookup "acme").through kc).Runs ⟨some "t"⟩ [unfound] (.ok none) ⟨some "t"⟩ :=
    .ask (.done _)
  exact .lookup run (List.mem_singleton.mpr rfl) (by decide)

theorem sends_tabbed : Sends kc "ac\tme" seeking := by
  have run : ((Realm.retire "ac\tme").through kc).Runs ⟨some "t"⟩ [unfound] (.ok ()) ⟨some "t"⟩ :=
    .ask (.done _)
  exact .retire run (List.mem_singleton.mpr rfl) (by decide)

theorem named_addressed :
    Sends kc "acme" seeking ∧ Addressable "acme" ∧ Addresses kc.base "acme" seeking.url := by
  have addressable : Addressable "acme" := by
    simp [Addressable]
  exact ⟨sends_named, addressable, (request_addresses_iff sends_named).1.mpr addressable⟩

/-- Under a name that holds a tab, the realm of another name is looked for, to be removed. -/
theorem name_not_always_addressed :
    ¬ ∀ (e : Endpoint) (name : String) (q : Http.Request), e.base.scheme = "http" →
      Sends e name q → Addresses e.base name q.url := by
  intro always
  obtain ⟨segment, path, decoded⟩ := always kc "ac\tme" seeking rfl sends_tabbed
  have other : segment = "acme" := by
    cases path
    rfl
  rw [other] at decoded
  exact absurd decoded (by decide)

end Realm

end Tenancy
