import Tenancy.Proofs.Json.Overlay
import Tenancy.Settings

/-!
# Settings that are given in part

The settings have a form: five names at the top, four of them sections, and in all of it texts, flags,
counts and the name of a grant. Whatever is given of it is laid over the defaults, and all that is
not given keeps its default; what has another form is refused as a whole. The form is spelt out here
as it is documented to those who write settings, and not taken from the tables that are read by.
-/

namespace Tenancy

open Json (Codec Doc Form overlaid)
open Json.Codec

/-- The form of the section about the identity provider. -/
def ProviderSettings.form : Form :=
  .section
    [("base_url", .text), ("admin_realm", .text), ("client_id", .text),
     ("grant_type", .oneOf ["client_credentials", "password"]), ("username", .text),
     ("client_secret_key", .text), ("password_key", .text),
     ("connect_timeout_ms", .count UInt64.size), ("request_timeout_ms", .count UInt64.size)]

/-- The form of the section about realms. -/
def Lifetimes.form : Form :=
  .section
    [("access_token_lifespan", .count UInt32.size),
     ("sso_session_idle_timeout", .count UInt32.size),
     ("sso_session_max_lifespan", .count UInt32.size),
     ("client_session_idle_timeout", .count UInt32.size),
     ("client_session_max_lifespan", .count UInt32.size),
     ("offline_session_idle_timeout", .count UInt32.size)]

/-- The form of the section about clients. -/
def ClientSettings.form : Form :=
  .section
    [("module_client_id", .text), ("login_client_id", .text), ("impersonation_client_id", .text),
     ("password_reset_client_id", .text), ("system_role", .text), ("password_reset_role", .text),
     ("access_token_lifespan", .count UInt32.size), ("use_refresh_tokens", .flag),
     ("password_reset_token_lifespan", .count UInt32.size),
     ("password_reset_use_refresh_tokens", .flag), ("password_reset_mapper", .text)]

/-- The form of the section about the registry. -/
def RegistrySettings.form : Form :=
  .section [("enabled", .flag), ("base_url", .text), ("request_timeout_ms", .count UInt64.size)]

/-- The form of the settings. -/
def Settings.form : Form :=
  .section
    [("keycloak", ProviderSettings.form), ("realm", Lifetimes.form), ("clients", ClientSettings.form),
     ("registry", RegistrySettings.form), ("secret_key_prefix", .text)]

/-! ## Sections -/

theorem GrantType.codec_overlays (base : GrantType) :
    GrantType.codec.Overlays (.oneOf ["client_credentials", "password"]) base :=
  choice_overlays (by decide) base

theorem ProviderSettings.codec_overlays : record.codec.Overlays form .default :=
  Json.Record.overlays rfl (by decide) <|
    .defaulted (string_overlays _) (fun _ _ => rfl) <|
    .defaulted (string_overlays _) (fun _ _ => rfl) <|
    .defaulted (string_overlays _) (fun _ _ => rfl) <|
    .defaulted (GrantType.codec_overlays _) (fun _ _ => rfl) <|
    .defaulted (string_overlays _) (fun _ _ => rfl) <|
    .defaulted (string_overlays _) (fun _ _ => rfl) <|
    .defaulted (string_overlays _) (fun _ _ => rfl) <|
    .defaulted (uint64_counts.overlays _) (fun _ _ => rfl) <|
    .defaulted (uint64_counts.overlays _) (fun _ _ => rfl) .nil

theorem Lifetimes.codec_overlays : record.codec.Overlays form .default :=
  Json.Record.overlays rfl (by decide) <|
    .defaulted (uint32_counts.overlays _) (fun _ _ => rfl) <|
    .defaulted (uint32_counts.overlays _) (fun _ _ => rfl) <|
    .defaulted (uint32_counts.overlays _) (fun _ _ => rfl) <|
    .defaulted (uint32_counts.overlays _) (fun _ _ => rfl) <|
    .defaulted (uint32_counts.overlays _) (fun _ _ => rfl) <|
    .defaulted (uint32_counts.overlays _) (fun _ _ => rfl) .nil

theorem ClientSettings.codec_overlays : record.codec.Overlays form .default :=
  Json.Record.overlays rfl (by decide) <|
    .defaulted (string_overlays _) (fun _ _ => rfl) <|
    .defaulted (string_overlays _) (fun _ _ => rfl) <|
    .defaulted (string_overlays _) (fun _ _ => rfl) <|
    .defaulted (string_overlays _) (fun _ _ => rfl) <|
    .defaulted (string_overlays _) (fun _ _ => rfl) <|
    .defaulted (string_overlays _) (fun _ _ => rfl) <|
    .defaulted (uint32_counts.overlays _) (fun _ _ => rfl) <|
    .defaulted (bool_overlays _) (fun _ _ => rfl) <|
    .defaulted (uint32_counts.overlays _) (fun _ _ => rfl) <|
    .defaulted (bool_overlays _) (fun _ _ => rfl) <|
    .defaulted (string_overlays _) (fun _ _ => rfl) .nil

theorem RegistrySettings.codec_overlays : record.codec.Overlays form .default :=
  Json.Record.overlays rfl (by decide) <|
    .defaulted (bool_overlays _) (fun _ _ => rfl) <|
    .defaulted (string_overlays _) (fun _ _ => rfl) <|
    .defaulted (uint64_counts.overlays _) (fun _ _ => rfl) .nil

theorem Settings.codec_overlays : codec.Overlays form .default :=
  Json.Record.overlays rfl (by decide) <|
    .defaulted ProviderSettings.codec_overlays (fun _ _ => rfl) <|
    .defaulted Lifetimes.codec_overlays (fun _ _ => rfl) <|
    .defaulted ClientSettings.codec_overlays (fun _ _ => rfl) <|
    .defaulted RegistrySettings.codec_overlays (fun _ _ => rfl) <|
    .defaulted (string_overlays _) (fun _ _ => rfl) .nil

/-! ## Settings that are written out -/

theorem GrantType.codec_solid : GrantType.codec.Solid .plain :=
  choice_solid fun v => by cases v <;> exact ⟨_, rfl, rfl⟩

theorem ProviderSettings.codec_solid : record.codec.Solid .plain :=
  Json.Record.solid_plain (by decide) <|
    .defaulted string_solid.toSound <| .defaulted string_solid.toSound <|
    .defaulted string_solid.toSound <| .defaulted GrantType.codec_solid.toSound <|
    .defaulted string_solid.toSound <| .defaulted string_solid.toSound <|
    .defaulted string_solid.toSound <| .defaulted uint64_solid.toSound <|
    .defaulted uint64_solid.toSound <| .nil fun _ => rfl

theorem Lifetimes.codec_solid : record.codec.Solid .plain :=
  Json.Record.solid_plain (by decide) <|
    .defaulted uint32_solid.toSound <| .defaulted uint32_solid.toSound <|
    .defaulted uint32_solid.toSound <| .defaulted uint32_solid.toSound <|
    .defaulted uint32_solid.toSound <| .defaulted uint32_solid.toSound <| .nil fun _ => rfl

theorem ClientSettings.codec_solid : record.codec.Solid .plain :=
  Json.Record.solid_plain (by decide) <|
    .defaulted string_solid.toSound <| .defaulted string_solid.toSound <|
    .defaulted string_solid.toSound <| .defaulted string_solid.toSound <|
    .defaulted string_solid.toSound <| .defaulted string_solid.toSound <|
    .defaulted uint32_solid.toSound <| .defaulted bool_solid.toSound <|
    .defaulted uint32_solid.toSound <| .defaulted bool_solid.toSound <|
    .defaulted string_solid.toSound <| .nil fun _ => rfl

theorem RegistrySettings.codec_solid : record.codec.Solid .plain :=
  Json.Record.solid_plain (by decide) <|
    .defaulted bool_solid.toSound <| .defaulted string_solid.toSound <|
    .defaulted uint64_solid.toSound <| .nil fun _ => rfl

theorem Settings.codec_solid : codec.Solid .plain :=
  Json.Record.solid_plain (by decide) <|
    .defaulted ProviderSettings.codec_solid.toSound <| .defaulted Lifetimes.codec_solid.toSound <|
    .defaulted ClientSettings.codec_solid.toSound <| .defaulted RegistrySettings.codec_solid.toSound <|
    .defaulted string_solid.toSound <| .nil fun _ => rfl

/-! ## What is given and what is not -/

/-- Settings are read, from a text or a value, if and only if all that is given has its form. What is
written for them is then what is written for the defaults, overlaid by what was given, and from that
the same settings are read again. -/
theorem Settings.decode_overlays (p : Json) (proper : Settings.form.proper p = true)
    (origin : Json.Origin) :
    ((∃ s, Settings.codec.decode origin (.ofJson p) = .ok s) ↔ Settings.form.fits p = true) ∧
      ∀ s, Settings.codec.decode origin (.ofJson p) = .ok s →
        Settings.codec.encode s = overlaid (Settings.codec.encode .default) p ∧
          ∀ again, Settings.codec.decode again (.ofJson (Settings.codec.encode s)) = .ok s := by
  cases fits : Settings.form.fits p with
  | true =>
    obtain ⟨s, taken, written⟩ := Settings.codec_overlays.takes p origin proper fits
    refine ⟨⟨fun _ => rfl, fun _ => ⟨s, taken⟩⟩, fun s' taken' => ?_⟩
    obtain rfl : s = s' := Except.ok.inj (taken.symm.trans taken')
    exact ⟨written, fun again => Settings.codec_solid.reads s _ again rfl⟩
  | false =>
    obtain ⟨e, refused⟩ := Settings.codec_overlays.refuses p origin proper fits
    have never (s : Settings) : Settings.codec.decode origin (.ofJson p) ≠ .ok s := by
      rw [refused]
      exact fun wrong => by cases wrong
    exact ⟨⟨fun ⟨s, taken⟩ => absurd taken (never s), fun wrong => by cases wrong⟩,
      fun s taken => absurd taken (never s)⟩

/-- Settings of which three are given. -/
def Settings.someGiven : Json :=
  .obj
    [("clients", .obj [("system_role", .str "Module")]),
     ("keycloak", .obj
       [("grant_type", .str "client_credentials"), ("connect_timeout_ms", .num (.int 250))])]

theorem Settings.someGiven_overlays :
    Settings.form.proper Settings.someGiven = true ∧
      ∃ s, Settings.codec.decode .text (.ofJson Settings.someGiven) = .ok s ∧
        Settings.codec.encode s = overlaid (Settings.codec.encode .default) Settings.someGiven ∧
        Settings.codec.decode .value (.ofJson (Settings.codec.encode s)) = .ok s := by
  have proper : Settings.form.proper Settings.someGiven = true := by decide
  obtain ⟨reads, rest⟩ := Settings.decode_overlays Settings.someGiven proper .text
  have fits : Settings.form.fits Settings.someGiven = true := by decide
  obtain ⟨s, taken⟩ := reads.mpr fits
  obtain ⟨written, again⟩ := rest s taken
  exact ⟨proper, s, taken, written, again .value⟩

end Tenancy
