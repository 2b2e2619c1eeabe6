import Tenancy.Proofs.Json.Padding
import Tenancy.Proofs.Uuid.Text
import Tenancy.Registry.Descriptor
import Tenancy.Wire.Client
import Tenancy.Wire.Realm

/-!
# What is written is read back

All models that go over the wire or into the store are records. Each is walked along its own table
of fields, the models inside it by what was shown for them before. So every value is read from its
wire form, also if the objects of records in it have members that this library does not know, and a
wire form belongs to one value only.
-/

namespace Tenancy

open Json (Codec Doc Padded Record Restores Shape)
open Json.Codec

theorem Uuid.codec_solid : Uuid.codec.Solid .plain :=
  parsed_solid fun u => by
    rw [Uuid.parse_text]
    rfl

namespace Wire

theorem DecisionStrategy.codec_solid : DecisionStrategy.codec.Solid .plain :=
  choice_solid fun v => by cases v <;> exact ⟨_, rfl, rfl⟩

theorem Logic.codec_solid : Logic.codec.Solid .plain :=
  choice_solid fun v => by cases v <;> exact ⟨_, rfl, rfl⟩

theorem EnforcementMode.codec_solid : EnforcementMode.codec.Solid .plain :=
  choice_solid fun v => by cases v <;> exact ⟨_, rfl, rfl⟩

theorem texts_solid : (Codec.list .string).Solid .plain := (list_solid string_solid.toSound).flat

theorem table_solid : (Codec.dict .string).Solid .plain := (dict_solid string_solid.toSound).flat

/-! ## Records without records inside -/

/-- A record that holds no other record. -/
def flat {σ : Type} (r : Record σ) : Shape := .struct r.names fun _ => .plain

theorem RequiredAction.codec_solid : RequiredAction.codec.Solid (flat record) :=
  Record.solid rfl (by decide) <|
    .required string_solid.toSound <| .required string_solid.toSound <|
    .required string_solid.toSound <| .defaulted bool_solid.toSound <|
    .defaulted bool_solid.toSound <| .defaulted int32_solid.toSound <|
    .defaulted table_solid.toSound <| .nil fun _ => rfl

theorem Component.codec_solid : Component.codec.Solid (flat record) :=
  Record.solid rfl (by decide) <|
    .present string_solid (fun _ => rfl) <| .required string_solid.toSound <|
    .defaulted (dict_solid texts_solid.toSound).flat.toSound <| .nil fun _ => rfl

theorem Role.codec_solid : Role.codec.Solid (flat record) :=
  Record.solid rfl (by decide) <|
    .present string_solid (fun _ => rfl) <| .required string_solid.toSound <|
    .present string_solid (fun _ => rfl) <| .nil fun _ => rfl

theorem Scope.codec_solid : Scope.codec.Solid (flat record) :=
  Record.solid rfl (by decide) <|
    .present string_solid (fun _ => rfl) <| .required string_solid.toSound <| .nil fun _ => rfl

theorem unconfigured {d : Dict String} (h : d.isEmpty = true) : d = ∅ :=
  Dict.ext (List.isEmpty_iff.mp h)

theorem Policy.codec_solid : Policy.codec.Solid (flat record) :=
  Record.solid rfl (by decide) <|
    .present string_solid (fun _ => rfl) <| .required string_solid.toSound <|
    .present string_solid (fun _ => rfl) <| .required string_solid.toSound <|
    .defaulted Logic.codec_solid.toSound <| .defaulted DecisionStrategy.codec_solid.toSound <|
    .omitted table_solid.toSound (fun _ => unconfigured) (fun _ => rfl) <|
    .present texts_solid (fun _ => rfl) <| .present texts_solid (fun _ => rfl) <| .nil fun _ => rfl

theorem Mapper.codec_solid : Mapper.codec.Solid (flat record) :=
  Record.solid rfl (by decide) <|
    .present string_solid (fun _ => rfl) <| .required string_solid.toSound <|
    .required string_solid.toSound <| .required string_solid.toSound <|
    .defaulted bool_solid.toSound <| .defaulted table_solid.toSound <| .nil fun _ => rfl

theorem User.codec_solid : User.codec.Solid (flat record) :=
  Record.solid rfl (by decide) <|
    .required string_solid.toSound <| .defaulted string_solid.option <| .nil fun _ => rfl

theorem PermissionReference.codec_solid : PermissionReference.codec.Solid (flat record) :=
  Record.solid rfl (by decide) <|
    .required bool_solid.toSound <| .defaulted string_solid.option <|
    .defaulted table_solid.toSound <| .nil fun _ => rfl

theorem tenant_codec_solid : Tenant.codec.Solid (flat Tenant.record) :=
  Record.solid rfl (by decide) <|
    .short <| .defaulted Uuid.codec_solid.option <| .required string_solid.toSound <|
    .short <| .present string_solid (fun _ => rfl) <| .nil fun _ => rfl

theorem attribute_codec_solid : Attribute.codec.Solid (flat Attribute.record) :=
  Record.solid rfl (by decide) <|
    .defaulted Uuid.codec_solid.option <| .defaulted Uuid.codec_solid.option <|
    .required string_solid.toSound <| .required string_solid.toSound <| .nil fun _ => rfl

theorem descriptor_codec_solid : Registry.Descriptor.codec.Solid (flat Registry.Descriptor.record) :=
  Record.solid rfl (by decide) <|
    .required string_solid.toSound <| .required string_solid.toSound <|
    .short <| .present string_solid (fun _ => rfl) <| .nil fun _ => rfl

/-! ## Records of records -/

/-- Realms hold required actions and, by kind, components. -/
def Realm.shape : Shape := .struct record.names fun
  | "requiredActions" => .list (flat RequiredAction.record)
  | "components" => .dict (.list (flat Component.record))
  | _ => .plain

theorem Realm.codec_solid : Realm.codec.Solid shape :=
  Record.solid rfl (by decide) <|
    .present string_solid (fun _ => rfl) <| .required string_solid.toSound <|
    .present string_solid (fun _ => rfl) <| .present bool_solid (fun _ => rfl) <|
    .present uint32_solid (fun _ => rfl) <| .present uint32_solid (fun _ => rfl) <|
    .present uint32_solid (fun _ => rfl) <| .present uint32_solid (fun _ => rfl) <|
    .present uint32_solid (fun _ => rfl) <| .present uint32_solid (fun _ => rfl) <|
    .present (list_solid RequiredAction.codec_solid.toSound) (fun _ => rfl) <|
    .present (dict_solid (list_solid Component.codec_solid.toSound).toSound) (fun _ => rfl) <|
    .present table_solid (fun _ => rfl) <| .nil fun _ => rfl

/-- Authorization settings hold scopes and policies. -/
def Authorization.shape : Shape := .struct record.names fun
  | "scopes" => .list (flat Scope.record)
  | "policies" => .list (flat Policy.record)
  | _ => .plain

theorem Authorization.codec_solid : Authorization.codec.Solid shape :=
  Record.solid rfl (by decide) <|
    .required bool_solid.toSound <| .required EnforcementMode.codec_solid.toSound <|
    .required DecisionStrategy.codec_solid.toSound <|
    .defaulted (list_solid Scope.codec_solid.toSound).toSound <|
    .defaulted (list_solid Policy.codec_solid.toSound).toSound <| .nil fun _ => rfl

/-- Clients hold mappers and their authorization settings. -/
def Client.shape : Shape := .struct record.names fun
  | "protocolMappers" => .list (flat Mapper.record)
  | "authorizationSettings" => Authorization.shape
  | _ => .plain

theorem Client.codec_solid : Client.codec.Solid shape :=
  Record.solid rfl (by decide) <|
    .present string_solid (fun _ => rfl) <| .required string_solid.toSound <|
    .present string_solid (fun _ => rfl) <| .present string_solid (fun _ => rfl) <|
    .present string_solid (fun _ => rfl) <| .defaulted bool_solid.toSound <|
    .defaulted bool_solid.toSound <| .defaulted bool_solid.toSound <|
    .defaulted bool_solid.toSound <| .defaulted bool_solid.toSound <|
    .defaulted bool_solid.toSound <| .present string_solid (fun _ => rfl) <|
    .defaulted texts_solid.toSound <| .defaulted texts_solid.toSound <|
    .defaulted table_solid.toSound <|
    .omitted (list_solid Mapper.codec_solid.toSound).toSound (fun _ => List.isEmpty_iff.mp)
      (fun _ => rfl) <|
    .present Authorization.codec_solid (fun _ => rfl) <| .nil fun _ => rfl

/-! ## All models -/

/-- The models that are written and read. -/
inductive Model where
  | realm
  | requiredAction
  | component
  | role
  | client
  | mapper
  | authorization
  | scope
  | policy
  | user
  | permissionReference
  | tenant
  | tenantAttribute
  | descriptor

namespace Model

/-- The values of a model. -/
def Value : Model → Type
  | realm => Realm
  | requiredAction => RequiredAction
  | component => Component
  | role => Role
  | client => Client
  | mapper => Mapper
  | authorization => Authorization
  | scope => Scope
  | policy => Policy
  | user => User
  | permissionReference => PermissionReference
  | tenant => Tenant
  | tenantAttribute => Attribute
  | descriptor => Registry.Descriptor

/-- How a model is written and read. -/
def codec : (m : Model) → Codec m.Value
  | realm => Realm.codec
  | requiredAction => RequiredAction.codec
  | component => Component.codec
  | role => Role.codec
  | client => Client.codec
  | mapper => Mapper.codec
  | authorization => Authorization.codec
  | scope => Scope.codec
  | policy => Policy.codec
  | user => User.codec
  | permissionReference => PermissionReference.codec
  | tenant => Tenant.codec
  | tenantAttribute => Attribute.codec
  | descriptor => Registry.Descriptor.codec

/-- Where the records are in a model's wire form. -/
def shape : Model → Shape
  | realm => Realm.shape
  | requiredAction => flat RequiredAction.record
  | component => flat Component.record
  | role => flat Role.record
  | client => Client.shape
  | mapper => flat Mapper.record
  | authorization => Authorization.shape
  | scope => flat Scope.record
  | policy => flat Policy.record
  | user => flat User.record
  | permissionReference => flat PermissionReference.record
  | tenant => flat Tenant.record
  | tenantAttribute => flat Attribute.record
  | descriptor => flat Registry.Descriptor.record

theorem codec_solid : (m : Model) → m.codec.Solid m.shape
  | realm => Realm.codec_solid
  | requiredAction => RequiredAction.codec_solid
  | component => Component.codec_solid
  | role => Role.codec_solid
  | client => Client.codec_solid
  | mapper => Mapper.codec_solid
  | authorization => Authorization.codec_solid
  | scope => Scope.codec_solid
  | policy => Policy.codec_solid
  | user => User.codec_solid
  | permissionReference => PermissionReference.codec_solid
  | tenant => tenant_codec_solid
  | tenantAttribute => attribute_codec_solid
  | descriptor => descriptor_codec_solid

end Model

/-- Each value is read from its wire form and from every padded form of it, whether that is at hand
or in a text. So no two values have a form in common, and what was read from anywhere is what is read
once it has been written. -/
theorem models_round_trip (m : Model) :
    (∀ v, Padded m.shape (m.codec.encode v) (m.codec.encode v)) ∧
    (∀ v j, Padded m.shape (m.codec.encode v) j →
      (∀ origin, m.codec.decode origin (.ofJson j) = .ok v) ∧
      ∀ gs, Doc.ofGlyphs gs = (.ofJson j, false) → m.codec.read gs = .ok v) ∧
    (∀ v v' j, Padded m.shape (m.codec.encode v) j → Padded m.shape (m.codec.encode v') j → v = v') ∧
    ∀ origin origin' d,
      (do m.codec.decode origin' (.ofJson (m.codec.encode (← m.codec.decode origin d)))) =
        m.codec.decode origin d := by
  have sound := m.codec_solid.toSound
  refine ⟨sound.shaped, fun v j padded => ⟨fun origin => sound.reads v j origin padded, ?_⟩, ?_, ?_⟩
  · intro gs text
    have reads := sound.reads v j .text padded
    simp [Codec.read, text, reads, bind, Except.bind]
  · intro v v' j padded padded'
    have reads := sound.reads v j .value padded
    rw [sound.reads v' j .value padded'] at reads
    exact (Except.ok.inj reads).symm
  · intro origin origin' d
    cases m.codec.decode origin d with
    | error e => rfl
    | ok v => exact sound.reads v _ origin' (sound.shaped v)

/-- Settings with one scope. -/
def viewing : Authorization := ⟨true, .enforcing, .unanimous, [⟨none, "view"⟩], []⟩

/-- The same settings as a server might give them. -/
def viewingAnswer : Json := .obj
  [("allowRemoteResourceManagement", .bool true), ("policyEnforcementMode", .str "ENFORCING"),
   ("resources", .arr []), ("decisionStrategy", .str "UNANIMOUS"),
   ("scopes", .arr [.obj [("iconUri", .str ""), ("name", .str "view"), ("iconUri", .null)]]),
   ("policies", .arr [])]

theorem viewing_round_trip :
    Padded Authorization.shape (Authorization.codec.encode viewing) viewingAnswer ∧
      Authorization.codec.readText viewingAnswer.compact = .ok viewing := by
  have padded : Padded Authorization.shape (Authorization.codec.encode viewing) viewingAnswer := by
    refine ⟨_, _, rfl, rfl, .keep rfl (.keep rfl (.insert (by decide) (.keep rfl (.keep ?_
      (.keep ⟨_, _, rfl, rfl, .nil⟩ .nil)))))⟩
    exact ⟨_, _, rfl, rfl, .cons ⟨_, _, rfl, rfl,
      .insert (by decide) (.keep rfl (.insert (by decide) .nil))⟩ .nil⟩
  have numberless : viewingAnswer.Numberless := by simp [viewingAnswer]
  exact ⟨padded, ((models_round_trip .authorization).2.1 _ _ padded).2 _
    (Json.ofGlyphs_compact numberless)⟩

end Wire

end Tenancy
