import Tenancy.Settings.Check

/-!
# Templates

The id of a login client is a template with the realm's name in place of each placeholder. The pieces
between the placeholders belong to the template alone, and the name stands between them, so it can be
found again: the length of the id tells the length of the name, and the name follows the first piece.
-/

namespace Tenancy

namespace ClientSettings

/-- The pieces of a text between the occurrences of `old`, which are taken from the left and do not
overlap. -/
inductive Cuts (old : List Char) : List Char → List (List Char) → Prop where
  | whole {text : List Char} (absent : ¬ old <:+: text) : Cuts old text [text]
  | first {before after : List Char} {pieces : List (List Char)}
    (leftmost : ∀ front back, before ++ old ++ after = front ++ old ++ back →
      before.length ≤ front.length)
    (rest : Cuts old after pieces) : Cuts old (before ++ old ++ after) (before :: pieces)

variable {old text piece : List Char} {pieces : List (List Char)} {c : Char}

theorem Cuts.ne_nil (h : Cuts old text pieces) : pieces ≠ [] := by
  cases h <;> simp

theorem Cuts.unique {pieces' : List (List Char)} (h : Cuts old text pieces)
    (h' : Cuts old text pieces') : pieces = pieces' := by
  induction h generalizing pieces' with
  | whole absent =>
    cases h' with
    | whole _ => rfl
    | first _ _ => exact absurd ⟨_, _, rfl⟩ absent
  | @first before after _ leftmost rest ih =>
    generalize same : before ++ old ++ after = text at h'
    cases h' with
    | whole absent => exact absurd ⟨_, _, same⟩ absent
    | @first before' after' _ leftmost' rest' =>
      have place : before.length = before'.length :=
        Nat.le_antisymm (leftmost _ _ same) (leftmost' _ _ same.symm)
      rw [List.append_assoc, List.append_assoc] at same
      obtain ⟨rfl, ends⟩ := List.append_inj same place
      obtain rfl := List.append_cancel_left ends
      rw [ih rest']

/-- A character that begins no occurrence belongs to the first piece. -/
theorem Cuts.cons (h : Cuts old text (piece :: pieces)) (other : ¬ old <+: c :: text) :
    Cuts old (c :: text) ((c :: piece) :: pieces) := by
  cases h with
  | whole absent => exact .whole fun there => (List.infix_cons_iff.mp there).elim other absent
  | @first _ after _ leftmost rest =>
    have stays : ∀ front back, (c :: piece) ++ old ++ after = front ++ old ++ back →
        (c :: piece).length ≤ front.length := by
      intro front back same
      cases front with
      | nil => exact absurd ⟨back, same.symm⟩ other
      | cons d front => exact Nat.succ_le_succ (leftmost front back (List.cons.inj same).2)
    exact .first stays rest

/-- An occurrence at the front leaves a blank piece. -/
theorem Cuts.front (h : Cuts old text pieces) : Cuts old ([] ++ old ++ text) ([] :: pieces) :=
  .first (fun _ _ _ => Nat.zero_le _) h

theorem Cuts.several (h : Cuts old text pieces) (there : old <:+: text) :
    ∃ piece piece' rest, pieces = piece :: piece' :: rest := by
  cases h with
  | whole absent => exact absurd there absent
  | first _ rest =>
    obtain ⟨piece', more, rfl⟩ := List.exists_cons_of_ne_nil rest.ne_nil
    exact ⟨_, _, _, rfl⟩

/-! ## What is put between the pieces -/

theorem intercalate_prepend (new : List Char) (h : pieces ≠ []) :
    new.intercalate (piece :: pieces) = piece ++ new ++ new.intercalate pieces := by
  obtain ⟨next, rest, rfl⟩ := List.exists_cons_of_ne_nil h
  rw [List.intercalate_cons_cons]

/-- The pieces with what was between them are the text again. -/
theorem Cuts.intercalate (h : Cuts old text pieces) : old.intercalate pieces = text := by
  induction h with
  | whole _ => exact List.intercalate_singleton
  | first _ rest ih => rw [intercalate_prepend old rest.ne_nil, ih]

theorem intercalate_cons (new : List Char) :
    new.intercalate ((c :: piece) :: pieces) = c :: new.intercalate (piece :: pieces) := by
  cases pieces with
  | nil => rw [List.intercalate_singleton, List.intercalate_singleton]
  | cons next rest => simp only [List.intercalate_cons_cons, List.cons_append]

theorem length_intercalate (new : List Char) :
    (new.intercalate (piece :: pieces)).length =
      piece.length + pieces.length * new.length + pieces.flatten.length := by
  induction pieces generalizing piece with
  | nil => simp
  | cons next rest ih =>
    simp only [List.intercalate_cons_cons, List.length_append, ih, List.flatten_cons,
      List.length_cons, Nat.add_mul]
    omega

/-- Between two pieces or more, texts that differ never give the same. -/
theorem intercalate_inj {new new' piece' : List Char}
    (same : new.intercalate (piece :: piece' :: pieces) =
      new'.intercalate (piece :: piece' :: pieces)) : new = new' := by
  have lengths := congrArg List.length same
  rw [length_intercalate, length_intercalate] at lengths
  have long : new.length = new'.length :=
    Nat.eq_of_mul_eq_mul_left (Nat.succ_pos pieces.length) (by simpa using lengths)
  rw [List.intercalate_cons_cons, List.intercalate_cons_cons, List.append_assoc,
    List.append_assoc] at same
  exact List.append_inj_left (List.append_cancel_left same) long

/-! ## Replacing -/

theorem drop_of_prefix {rest : List Char} (filled : old ≠ []) (h : old <+: c :: rest) :
    c :: rest = old ++ rest.drop (old.length - 1) := by
  obtain ⟨d, old, rfl⟩ := List.exists_cons_of_ne_nil filled
  exact (List.prefix_iff_eq_append.mp h).symm

/-- Replacing puts the new text between the pieces. The counter skips what has been replaced. -/
theorem replaceFrom_cuts (filled : old ≠ []) (held : Nat) (text : List Char) :
    ∃ pieces, Cuts old (text.drop held) pieces ∧
      ∀ new, replaceFrom old new held text = new.intercalate pieces := by
  induction text generalizing held with
  | nil =>
    rw [List.drop_nil]
    exact ⟨[[]], .whole fun there => filled (List.infix_nil.mp there), fun new => by simp [replaceFrom]⟩
  | cons c rest ih =>
    cases held with
    | succ held => exact ih held
    | zero =>
      by_cases front : old <+: c :: rest
      · obtain ⟨pieces, cuts, puts⟩ := ih (old.length - 1)
        refine ⟨[] :: pieces, ?_, fun new => ?_⟩
        · rw [List.drop_zero, drop_of_prefix filled front]
          exact cuts.front
        · rw [replaceFrom, if_pos (List.isPrefixOf_iff_prefix.mpr front), puts,
            intercalate_prepend new cuts.ne_nil]
          rfl
      · obtain ⟨pieces, cuts, puts⟩ := ih 0
        obtain ⟨piece, more, rfl⟩ := List.exists_cons_of_ne_nil cuts.ne_nil
        refine ⟨(c :: piece) :: more, cuts.cons front, fun new => ?_⟩
        rw [replaceFrom, if_neg (mt List.isPrefixOf_iff_prefix.mp front), puts, intercalate_cons]

theorem occursIn_iff : occursIn old text = true ↔ old <:+: text := by
  induction text with
  | nil => simp [occursIn]
  | cons c rest ih => simp [occursIn, ih, List.infix_cons_iff]

end ClientSettings

theorem Settings.check_placeholder {s : Settings} (h : s.check = .ok ()) :
    s.clients.namesRealm = true := by
  cases named : s.clients.namesRealm with
  | true => rfl
  | false =>
    simp only [check, bind, Except.bind, named, Bool.not_false, if_true, throw, throwThe,
      MonadExceptOf.throw] at h
    repeat' split at h
    all_goals cases h

namespace ClientSettings

/-- The id of a login client is the template with the realm's name between its pieces. A template that
passes the check has two pieces at least, so realms with different names have clients with different
ids. -/
theorem login_ids_distinct {s : Settings} (accepted : s.check = .ok ()) :
    (∃ pieces, (∀ others, Cuts placeholder.toList s.clients.loginClientId.toList others ↔
        others = pieces) ∧
      s.clients.loginClientId.toList = placeholder.toList.intercalate pieces ∧
      ∀ realm, (s.clients.loginClientIdFor realm).toList = realm.toList.intercalate pieces) ∧
    ∀ realm realm', realm ≠ realm' →
      s.clients.loginClientIdFor realm ≠ s.clients.loginClientIdFor realm' := by
  obtain ⟨pieces, cuts, puts⟩ := replaceFrom_cuts (show placeholder.toList ≠ [] by decide) 0
    s.clients.loginClientId.toList
  rw [List.drop_zero] at cuts
  have text : ∀ realm, (s.clients.loginClientIdFor realm).toList =
      realm.toList.intercalate pieces := fun realm => by
    rw [loginClientIdFor, String.toList_ofList, puts]
  refine ⟨⟨pieces, fun others => ⟨fun h => h.unique cuts, fun same => same ▸ cuts⟩,
    cuts.intercalate.symm, text⟩, ?_⟩
  intro realm realm' differ same
  have there := occursIn_iff.mp (Settings.check_placeholder accepted)
  obtain ⟨piece, piece', rest, rfl⟩ := cuts.several there
  have names := congrArg String.toList same
  rw [text, text] at names
  exact differ (String.toList_inj.mp (intercalate_inj names))

/-- Settings with two placeholders in the template. -/
def doubled : Settings :=
  { Settings.default with
    provider := { ProviderSettings.default with baseUrl := "http://[::1]:8080" }
    clients := { ClientSettings.default with loginClientId := "\x7brealm\x7d-of-\x7brealm\x7d" } }

theorem login_ids_distinct_doubled :
    doubled.check = .ok () ∧
    (∃ pieces, (∀ others, Cuts placeholder.toList doubled.clients.loginClientId.toList others ↔
        others = pieces) ∧
      doubled.clients.loginClientId.toList = placeholder.toList.intercalate pieces ∧
      ∀ realm, (doubled.clients.loginClientIdFor realm).toList = realm.toList.intercalate pieces) ∧
    doubled.clients.loginClientIdFor "acme" ≠ doubled.clients.loginClientIdFor "diku" := by
  have accepted : doubled.check = .ok () := rfl
  obtain ⟨pieces, differ⟩ := login_ids_distinct accepted
  exact ⟨accepted, pieces, differ "acme" "diku" (by decide)⟩

/-- What was put in is not searched again. -/
example : doubled.clients.loginClientIdFor placeholder = "\x7brealm\x7d-of-\x7brealm\x7d" := by
  decide

end ClientSettings

end Tenancy
