import Tenancy.Tenant

/-!
# Command-line arguments

The arguments are options of the program, a command, and options and names of the command, in this
order. They are read from left to right: the first thing that cannot be understood ends the reading,
and so does a request for help or for the version.
-/

namespace Tenancy.Cli

/-- Options of the program. -/
structure Options where
  config : Option String
  printConfig : Bool
  verbosity : Nat
  adminPassword : Option String
  adminClientSecret : Option String
  deriving DecidableEq, Repr

/-- What the program is told to do. -/
inductive Command where
  | provision (tenant : Tenant)
  | update (tenant : Tenant)
  | delete (name : String)
  | show (name : String)
  | check
  deriving DecidableEq, Repr

/-- What the arguments amount to. -/
inductive Invocation where
  | run (options : Options) (command : Command)
  | version
  /-- About a command, or about the program. -/
  | help (topic : Option String)
  | misuse
  deriving DecidableEq, Repr

/-- A kind of option: one that stands alone, perhaps several times, or one with a value. -/
inductive OptionKind where
  | flag
  | counter
  | valued
  deriving DecidableEq, Repr

/-- An option. -/
structure OptionSpec where
  long : String
  short : Option Char
  kind : OptionKind

/-- One argument, understood. -/
inductive Item where
  | flag (name : String)
  | value (name text : String)
  | word (text : String)
  | bad
  deriving DecidableEq, Repr

/-- Whether an argument looks like an option. -/
def looksLikeOption (s : String) : Bool := s.front = '-' && s ≠ "-"

/-- The option under a long name. -/
def long? (specs : List OptionSpec) (name : String) : Option OptionSpec :=
  specs.find? fun o => o.long == name

/-- The option under a letter. -/
def short? (specs : List OptionSpec) (c : Char) : Option OptionSpec :=
  specs.find? fun o => o.short == some c

/-- What a group of letters says, and the option that still waits for its value. -/
def letters (specs : List OptionSpec) : List Char → List Item × Option String
  | [] => ([], none)
  | c :: rest =>
    match short? specs c with
    | none => ([.bad], none)
    | some o =>
      if o.kind = .valued then
        match rest with
        | [] => ([], some o.long)
        | '=' :: text => ([.value o.long (String.ofList text)], none)
        | text => ([.value o.long (String.ofList text)], none)
      else
        let (items, waiting) := letters specs rest
        (.flag o.long :: items, waiting)

/-- What an option of one argument says, and the option that still waits for its value. -/
def option (specs : List OptionSpec) (s : String) : List Item × Option String :=
  match s.toList with
  | '-' :: '-' :: cs =>
    let name := String.ofList (cs.takeWhile (· ≠ '='))
    match long? specs name, cs.dropWhile (· ≠ '=') with
    | none, _ => ([.bad], none)
    | some o, [] => if o.kind = .valued then ([], some name) else ([.flag name], none)
    | some o, _ :: text =>
      if o.kind = .valued then ([.value name (String.ofList text)], none) else ([.bad], none)
  | _ :: cs => letters specs cs
  | [] => ([.bad], none)

/-- Understands arguments up to the first word, if `stop` is set; returns the arguments from that
word on. After two hyphens everything is a word. -/
def scan (specs : List OptionSpec) (stop : Bool) : List String → List Item × List String
  | [] => ([], [])
  | a :: rest =>
    if a = "--" then if stop then ([.bad], []) else (rest.map .word, [])
    else if looksLikeOption a then
      match option specs a with
      | (items, none) =>
        let (more, words) := scan specs stop rest
        (items ++ more, words)
      | (items, some name) =>
        match rest with
        | [] => (items ++ [.bad], [])
        | v :: rest =>
          if looksLikeOption v then (items ++ [.bad], [])
          else
            let (more, words) := scan specs stop rest
            (items ++ .value name v :: more, words)
    else if stop then ([], a :: rest)
    else
      let (more, words) := scan specs stop rest
      (.word a :: more, words)

/-- How the reading of arguments ends early. -/
abbrev Reading := Except Invocation

/-- The options of the program. -/
def programOptions : List OptionSpec :=
  [⟨"config", some 'c', .valued⟩, ⟨"print-config", none, .flag⟩, ⟨"verbose", some 'v', .counter⟩,
   ⟨"admin-password", none, .valued⟩, ⟨"admin-client-secret", none, .valued⟩,
   ⟨"help", some 'h', .flag⟩, ⟨"version", some 'V', .flag⟩]

/-- Sets a value that may be set once. -/
def once {α : Type} (old : Option α) (new : α) : Reading (Option α) :=
  match old with
  | none => .ok (some new)
  | some _ => .error .misuse

/-- Takes up one option of the program. -/
def Options.take (o : Options) : Item → Reading Options
  | .flag "help" => .error (.help none)
  | .flag "version" => .error .version
  | .flag "verbose" => .ok { o with verbosity := o.verbosity + 1 }
  | .flag "print-config" =>
    if o.printConfig then .error .misuse else .ok { o with printConfig := true }
  | .value "config" text => do
    if text.isEmpty then .error .misuse
    return { o with config := ← once o.config text }
  | .value "admin-password" text =>
    (once o.adminPassword text).map fun v => { o with adminPassword := v }
  | .value "admin-client-secret" text =>
    (once o.adminClientSecret text).map fun v => { o with adminClientSecret := v }
  | _ => .error .misuse

/-- The options of a command about a tenant. -/
def tenantOptions : List OptionSpec :=
  [⟨"id", none, .valued⟩, ⟨"name", none, .valued⟩, ⟨"description", none, .valued⟩,
   ⟨"help", some 'h', .flag⟩]

/-- The options of any other command. -/
def helpOption : List OptionSpec := [⟨"help", some 'h', .flag⟩]

/-- What is known of a tenant so far. -/
structure TenantDraft where
  id : Option Uuid
  name : Option String
  description : Option String

/-- Takes up one option of a command about a tenant. -/
def TenantDraft.take (d : TenantDraft) : Item → Reading TenantDraft
  | .flag _ => .error (.help none)
  | .value "id" text =>
    match Uuid.parse text with
    | .ok id => (once d.id id).map fun v => { d with id := v }
    | .error _ => .error .misuse
  | .value "name" text => (once d.name text).map fun v => { d with name := v }
  | .value "description" text => (once d.description text).map fun v => { d with description := v }
  | _ => .error .misuse

/-- The tenant that a command is about. -/
def tenant (args : List String) : Reading Tenant := do
  let d ← (scan tenantOptions false args).1.foldlM TenantDraft.take ⟨none, none, none⟩
  match d.id, d.name with
  | some id, some name => return ⟨some id, name, d.description⟩
  | _, _ => throw .misuse

/-- Takes up one argument of a command that takes at most `limit` names. -/
def takeWord (limit : Nat) (names : List String) : Item → Reading (List String)
  | .flag _ => .error (.help none)
  | .word w => if names.length < limit then .ok (names ++ [w]) else .error .misuse
  | _ => .error .misuse

/-- The one name that a command is about. -/
def name (args : List String) : Reading String := do
  match ← (scan helpOption false args).1.foldlM (takeWord 1) [] with
  | [n] => return n
  | _ => throw .misuse

/-- The arguments of a command that takes none. -/
def nothing (args : List String) : Reading Unit :=
  ((scan helpOption false args).1.foldlM (takeWord 0) []).map fun _ => ()

/-- The command of a name with its arguments. -/
def commandNamed? (args : List String) : String → Option (Reading Command)
  | "provision" => some ((tenant args).map .provision)
  | "update" => some ((tenant args).map .update)
  | "delete" => some ((name args).map .delete)
  | "show" => some ((name args).map .show)
  | "check" => some ((nothing args).map fun _ => .check)
  | _ => none

/-- Whether there is help on a topic. -/
def isTopic (topic : String) : Bool := topic = "help" || (commandNamed? [] topic).isSome

/-- The command that the arguments from its name on give. -/
def command : List String → Reading Command
  | ["help"] => .error (.help none)
  | ["help", topic] => .error (if isTopic topic then .help (some topic) else .misuse)
  | [] => .error .misuse
  | word :: args =>
    match commandNamed? args word with
    | some (.error (.help _)) => .error (.help (some word))
    | some reading => reading
    | none => .error .misuse

/-- Reads the arguments. -/
def Invocation.ofArguments (args : List String) : Invocation :=
  let (items, words) := scan programOptions true args
  let outcome : Reading (Options × Command) := do
    let o ← items.foldlM Options.take ⟨none, false, 0, none, none⟩
    return (o, ← command words)
  match outcome with
  | .ok (o, c) => .run o c
  | .error stop => stop

end Tenancy.Cli
