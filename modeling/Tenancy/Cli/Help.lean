/-!
# Help

What the program says about itself and about each of its commands.
-/

namespace Tenancy.Cli.Help

/-- The commands and what they do. -/
def commands : List (String × String) :=
  [("provision", "Create and provision the tenant's realm, then run the other listeners"),
   ("update", "Push tenant metadata to its realm and the registry"),
   ("delete", "Delete the tenant's realm, registration and topics"),
   ("show", "Print the tenant's realm if it exists"),
   ("check", "Validate configuration and exit"),
   ("help", "Print this message or the help of the given subcommand(s)")]

/-- A text filled up with blanks on its right. -/
def padded (width : Nat) (s : String) : String :=
  s ++ String.ofList (List.replicate (width - s.length) ' ')

/-- Terms and what is said about them, in two columns. -/
def columns (entries : List (String × String)) : List String :=
  let width := entries.foldl (fun n e => max n e.1.length) 0
  entries.map fun e => "  " ++ padded width e.1 ++ "  " ++ e.2

/-- Terms and, on a line below each, what is said about it. -/
def stacked (entries : List (String × String)) : List String :=
  entries.flatMap fun e => ["  " ++ e.1, "          " ++ e.2]

/-- What is said about the whole program. -/
def program : List String :=
  ["Provision tenant identity realms in Keycloak", "",
   "Usage: tenant-realm [OPTIONS] <COMMAND>", "", "Commands:"]
  ++ columns commands ++ ["", "Options:"]
  ++ stacked
    [("-c, --config <CONFIG>", "Path to configuration file"),
     ("    --print-config", "Print effective configuration and exit"),
     ("-v, --verbose...", "Log verbosity level (-v info, -vv debug, -vvv trace)"),
     ("    --admin-password <ADMIN_PASSWORD>",
      "Admin user password for the password grant [env: KEYCLOAK_ADMIN_PASSWORD]"),
     ("    --admin-client-secret <ADMIN_CLIENT_SECRET>",
      "Admin client secret [env: KEYCLOAK_ADMIN_CLIENT_SECRET]"),
     ("-h, --help", "Print help"),
     ("-V, --version", "Print version")]

/-- How a command is used. -/
def usage (command : String) : String :=
  let arguments := match command with
    | "provision" | "update" => " [OPTIONS] --id <ID> --name <NAME>"
    | "delete" | "show" => " <NAME>"
    | "help" => " [COMMAND]..."
    | _ => ""
  "Usage: tenant-realm " ++ command ++ arguments

/-- The arguments and options of a command. -/
def arguments (command : String) : List String :=
  match command with
  | "provision" | "update" =>
    ["", "Options:"] ++ columns
      [("    --id <ID>", "Tenant identifier, used as the realm id"),
       ("    --name <NAME>", "Tenant (realm) name"),
       ("    --description <DESCRIPTION>",
        "Human-readable description, used as the realm display name"),
       ("-h, --help", "Print help")]
  | "delete" | "show" =>
    ["", "Arguments:"] ++ columns [("<NAME>", "Tenant (realm) name")]
      ++ ["", "Options:"] ++ columns [("-h, --help", "Print help")]
  | "help" => ["", "Arguments:"] ++ columns [("[COMMAND]...", "Print help for the subcommand(s)")]
  | _ => ["", "Options:"] ++ columns [("-h, --help", "Print help")]

/-- What is said about a command, or about the program if none is given. -/
def text (topic : Option String) : String :=
  "\n".intercalate (match topic with
    | none => program
    | some command =>
      [(commands.lookup command).getD "", "", usage command] ++ arguments command)

end Tenancy.Cli.Help
