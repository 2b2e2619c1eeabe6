import Tenancy.Cli.AppSettings
import Tenancy.Cli.Arguments
import Tenancy.Cli.Help
import Tenancy.Cli.LogLevel
import Tenancy.Outside.Keeping
import Tenancy.Service

/-!
# A run of the program

A run reads its settings, and then prints them, checks them, or carries out a command about one
tenant. The admin credentials come from the arguments, or else from the environment, and are kept in
a store of secrets that lasts as long as the run.
-/

namespace Tenancy.Cli

/-- What a run starts from. -/
structure Surroundings where
  arguments : List String
  environment : List (String × String)
  /-- The content of a regular file. -/
  file : String → Option Bytes

/-- How a run ends. -/
structure Outcome where
  code : Nat
  output : String
  failure : Option Chain
  deriving DecidableEq, Repr

namespace Outcome

/-- A run that printed a line and succeeded. -/
def printed (line : String) : Outcome := ⟨0, line ++ "\n", none⟩

/-- A run that failed. -/
def failed (c : Chain) : Outcome := ⟨1, "", some c⟩

/-- A run that failed for one reason. -/
def failedWith (message : String) : Outcome := failed (.single message)

/-- A run whose arguments could not be understood. -/
def misused : Outcome := ⟨2, "", none⟩

/-- A run that was broken off. -/
def broken : Outcome := ⟨101, "", none⟩

end Outcome

/-- The lines of a cause, behind what introduces it. -/
def causeLines (lead margin : String) (cause : String) : List String :=
  match cause.splitOn "\n" with
  | [] => []
  | line :: rest => (lead ++ line) :: rest.map (margin ++ ·)

/-- Causes one after the other, numbered if there are several. -/
def causesLines (causes : List String) : List String :=
  match causes with
  | [] => []
  | [c] => ["", "Caused by:"] ++ causeLines "    " "    " c
  | cs =>
    let numbered := cs.mapIdx fun i c => causeLines ("    " ++ toString i ++ ": ") "       " c
    ["", "Caused by:"] ++ numbered.flatten

/-- The report of a failure, line by line. -/
def report (c : Chain) : List String :=
  ("Error: " ++ c.message).splitOn "\n" ++ causesLines c.causes

/-- What is reported when the arguments could not be understood. -/
def usage : List String :=
  ["Usage: tenant-realm [OPTIONS] <COMMAND>", "", "For more information, try '--help'."]

/-- What a run has to say about its failure. -/
def Outcome.complaint (o : Outcome) : List String :=
  match o.failure with
  | some c => report c
  | none => if o.code = 2 then usage else []

/-- A failure of the service as the failure of a run. -/
def ofFault (f : Fault) : Outcome := .failed ⟨f.message, f.causes⟩

/-- The admin credentials under the keys where the service looks for them. -/
def credentials (s : ProviderSettings) (password secret : Option String) : Dict String :=
  .ofList ((password.map fun v => (s.passwordKey, v)).toList
    ++ (secret.map fun v => (s.clientSecretKey, v)).toList)

/-- Tells the listeners what happened, and says so. -/
def tell (s : Service) (e : Event) (line : String) : Action Outcome := do
  let ctx : RequestContext := ⟨.random (← liftM (Outside.ask .entropy)), none⟩
  match ← s.tell ctx e with
  | .ok () => return .printed line
  | .error p => return .failedWith p.message

/-- Prints a realm. -/
def display (s : Service) (name : String) : Action Outcome := do
  match ← s.lookup name with
  | .error f => return ofFault f
  | .ok none => return .failedWith ("realm '" ++ name ++ "' not found")
  | .ok (some realm) => return .printed (Wire.Realm.codec.encode realm).pretty

/-- Carries out a command that needs the service. -/
def carryOut (s : Service) : Command → Action Outcome
  | .provision t => tell s (.created t) ("Tenant '" ++ t.name ++ "' provisioned")
  | .update t => tell s (.updated t) ("Tenant '" ++ t.name ++ "' updated")
  | .delete name => tell s (.deleted name) ("Tenant '" ++ name ++ "' deleted")
  | .show name => display s name
  | .check => return .printed "Configuration is valid"

/-- Carries out a command under the given settings and, if one is asked for, another log filter. -/
def perform (settings : AppSettings) (filter password secret : Option String) (c : Command) :
    Program Outside Outcome :=
  match LogLevel.startDefect? filter settings.logging.level with
  | some (.refused why) => return .failed why
  | some .torn => return .broken
  | none =>
    match c with
    | .check =>
      match settings.service.check with
      | .ok () => return .printed "Configuration is valid"
      | .error f => return ofFault f
    | c =>
      match Service.ofSettings settings.service ⟨none, false⟩ with
      | .error f => return ofFault f
      | .ok s => do
        let store := credentials settings.service.provider password secret
        let ((outcome, _), _) ← Outside.keeping store ((carryOut s c).run .empty)
        return outcome

/-- Carries out what the arguments ask for. -/
def invoke (w : Surroundings) (o : Options) (c : Command) : Program Outside Outcome :=
  let file := o.config.map fun path => (path, w.file path)
  match file with
  | some (path, none) => return .failedWith ("config file does not exist: " ++ path)
  | _ =>
    match AppSettings.load (file.bind (·.2)) w.environment with
    | none => return .failedWith "invalid configuration"
    | some loaded =>
      let settings := loaded.withVerbosity o.verbosity
      if o.printConfig then return .printed (AppSettings.codec.encode settings).pretty
      else
        let password := o.adminPassword.or (w.environment.lookup "KEYCLOAK_ADMIN_PASSWORD")
        let secret := o.adminClientSecret.or (w.environment.lookup "KEYCLOAK_ADMIN_CLIENT_SECRET")
        perform settings (w.environment.lookup "RUST_LOG") password secret c

/-- The settings file that the arguments name. -/
def settingsFile? (arguments : List String) : Option String :=
  match Invocation.ofArguments arguments with
  | .run o _ => o.config
  | _ => none

/-- A run of the program. -/
def run (w : Surroundings) : Program Outside Outcome :=
  match Invocation.ofArguments w.arguments with
  | .misuse => return .misused
  | .help topic => return .printed (Help.text topic)
  | .version => return .printed "tenant-realm 0.1.0"
  | .run o c => invoke w o c

end Tenancy.Cli
