import Tenancy.Layer.Overlay
import Tenancy.Layer.Variable
import Tenancy.Settings

/-!
# The settings of the program

The program has the settings of the service and a few on logging. They come in layers: the defaults,
then the settings file if there is one, then the environment.
-/

namespace Tenancy.Cli

open Json (Codec Record)

/-- What is logged, and how. -/
structure LogSettings where
  level : String
  json : Bool
  deriving DecidableEq, Repr

/-- The wire form of the section. -/
def LogSettings.record : Record LogSettings where
  name := "LoggingConfig"
  fields :=
    [.defaulted "level" .string (·.level) fun v s => { s with level := v },
     .defaulted "json" .bool (·.json) fun v s => { s with json := v }]
  blank := ⟨"info", false⟩
  strict := true

/-- All settings of the program. -/
structure AppSettings where
  logging : LogSettings
  service : Settings
  deriving DecidableEq, Repr

namespace AppSettings

/-- The wire form of the settings. -/
def record : Record AppSettings where
  name := "AppConfig"
  fields :=
    [.defaulted "logging" LogSettings.record.codec (·.logging) fun v s => { s with logging := v },
     .defaulted "tenant_realm" Settings.codec (·.service) fun v s => { s with service := v }]
  blank := ⟨LogSettings.record.blank, .default⟩
  strict := true

/-- Settings in JSON. -/
def codec : Codec AppSettings := record.codec

/-- The tree of a settings file; without a file nothing is set. -/
def fromFile? : Option Bytes → Option Json
  | some bytes => (Utf8.decode? bytes).bind Layer.Yaml.parse
  | none => some (.obj [])

/-- The settings that the layers amount to; `none` if they make no sense. -/
def load (file : Option Bytes) (environment : List (String × String)) : Option AppSettings := do
  let layers := [← fromFile? file, Layer.Variable.layer environment]
  let tree := layers.foldl Layer.overlay (codec.encode record.blank)
  (codec.decode .layers (.ofJson tree)).toOption

/-- The settings with the level that a number of requests for more detail asks for. -/
def withVerbosity (s : AppSettings) : Nat → AppSettings
  | 0 => s
  | 1 => { s with logging := { s.logging with level := "info" } }
  | 2 => { s with logging := { s.logging with level := "debug" } }
  | _ => { s with logging := { s.logging with level := "trace" } }

end AppSettings

end Tenancy.Cli
