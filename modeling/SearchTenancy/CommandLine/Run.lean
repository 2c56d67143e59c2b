import SearchTenancy.CommandLine.Arguments
import SearchTenancy.Connection.Connect
import SearchTenancy.Tenant.Index

/-!
# Running a command

A command reads its JSON arguments, runs one operation on a logical index and shows
the result as JSON. A run of the program prints the result with indentation; of the
failures only those that tell of something missing are printed, as one line. All
failures are reported apart from what is printed.
-/

namespace SearchTenancy.CommandLine

/-- What a command fails with. -/
inductive CommandError where
  | config (fault : ConfigFault)
  | invalidArgument (argument : String) (misfit : Misfit RequestFlaw)
  | search (error : SearchError)

/-- The text of a failed command. -/
def CommandError.message : CommandError → String
  | config fault => fault.message
  | invalidArgument argument misfit =>
    let reason :=
      match misfit with
      | .shape => "the value has the wrong shape"
      | .rule flaw => flaw.message
    "Invalid argument '" ++ argument ++ "': " ++ reason
  | search error => error.message

/-- Reads the text of an argument. -/
def readArgument {α : Type} (argument : String) (read : Written → Reading RequestFlaw α) (text : String) :
    Except CommandError α :=
  (Written.readText read text).mapError (.invalidArgument argument)

/-- An operation with a result that is shown as JSON. -/
def shown {α : Type} (operation : Operation α) (show? : α → Json) : Program (Except CommandError Json) := do
  match ← operation.run with
  | .ok result => return .ok (show? result)
  | .error failure => return .error (.search failure)

/-- An operation on an argument. -/
def withArgument {α : Type} (argument : Except CommandError α)
    (operation : α → Program (Except CommandError Json)) : Program (Except CommandError Json) :=
  match argument with
  | .ok value => operation value
  | .error failure => .done (.error failure)

/-- Runs a command on a logical index. -/
def run (index : TenantIndex) (now : Instant) : Command → Program (Except CommandError Json)
  | .put objectId body =>
    withArgument (readArgument "body" Written.readJson body) fun body =>
      shown (index.putObject now objectId body) fun object => .obj [("objectID", .str object.objectId)]
  | .get objectId => shown (index.getObject objectId) id
  | .getMany objectIds =>
    shown (index.getObjects objectIds) fun objects => .obj [("results", .arr (objects.map Json.ofOption))]
  | .delete objectId => shown (index.deleteObject objectId) fun _ => .obj [("deleted", .str objectId)]
  | .query request =>
    withArgument (readArgument "request" SearchRequest.read request) fun request =>
      shown (index.query request) QueryResult.toJson
  | .batch requests =>
    withArgument (readArgument "requests" BatchRequest.readAll requests) fun requests =>
      shown (index.batch now requests) BatchResult.toJson
  | .saveSettings settings =>
    withArgument (readArgument "settings" SettingsSpec.read settings) fun settings =>
      shown (index.saveSettings now settings) SettingsSpec.toJson
  | .getSettings => shown index.getSettings SettingsSpec.toJson
  | .move destination =>
    shown (index.moveTo destination) fun _ =>
      .obj [("moved", .str index.physical), ("to", .str destination)]
  | .drop => shown index.drop fun _ => .obj [("dropped", .str index.physical)]
  | .stats => shown index.stats IndexStats.toJson

/-- What a run of the program leaves: its status, what it has printed, and what it reports of a
failure. -/
structure Outcome where
  status : Nat
  output : String
  report : String
  deriving DecidableEq

/-- The name of the program and its version. -/
def versionLine : String := "tenant-search 0.1.0\n"

/-- The explanation of the program. -/
def helpText : String :=
  "Run tenant search operations against OpenSearch\n\n" ++
  "Usage: tenant-search [OPTIONS] --tenant <TENANT> --index <INDEX> <COMMAND>\n\n" ++
  "Commands:\n" ++ String.join (commands.map fun spec => "  " ++ spec.name ++ "\n") ++ "  help\n\n" ++
  "Options:\n" ++
  "  -t, --tenant <TENANT>  Tenant owning the index [env: TENANT_ID=]\n" ++
  "  -i, --index <INDEX>    Logical index name\n" ++
  "  -h, --help             Print help\n" ++
  "  -V, --version          Print version\n"

/-- What is left by arguments that are not run. -/
def Outcome.ofUsage : Usage → Outcome
  | .displayHelp => ⟨0, helpText, ""⟩
  | .displayVersion => ⟨0, versionLine, ""⟩
  | .displayHelpOnMissingArgumentOrSubcommand => ⟨2, "", helpText⟩
  | fault => ⟨2, "", "error: " ++ fault.name ++ "\n"⟩

/-- What a failed command prints: the tags of an error that tells of something missing. -/
def failureOutput : CommandError → String
  | .search failure =>
    match failure.domainError? with
    | some tags => (Json.obj [("domainError", tags), ("error", .str failure.message)]).render ++ "\n"
    | none => ""
  | _ => ""

/-- What is left by a command. -/
def Outcome.ofResult : Except CommandError Json → Outcome
  | .ok value => ⟨0, value.pretty 0 ++ "\n", ""⟩
  | .error failure => ⟨1, failureOutput failure, "Error: " ++ failure.message ++ "\n"⟩

/-- What is left by a fault of the configuration. -/
def Outcome.ofFault (fault : ConfigFault) : Outcome := .ofResult (.error (.config fault))

/-- The arguments and the settings of a run, or what is left if one of them is wrong. Wrong
arguments come first. -/
def prepare (arguments : List String) (environment : String → Option String) :
    Except Outcome (Arguments × ConnectionSettings) := do
  let parsed ← (parse arguments (environment "TENANT_ID")).mapError .ofUsage
  let settings ← (ConnectionSettings.ofEnvironment environment).mapError .ofFault
  return (parsed, settings)

/-- The part of a run that comes after connecting. -/
def command (parsed : Arguments) (settings : ConnectionSettings) (now : Instant) : Program Outcome := do
  return .ofResult (← run ⟨settings.config, parsed.tenant, parsed.index⟩ now parsed.command)

/-- A run of the program with given arguments and variables. The attempts to connect are answered
by `pings`, and the command runs on `backend`; `none` while connecting does not end. -/
def runProgram {σ : Type} (arguments : List String) (environment : String → Option String)
    (pings : Nat → Http.Response) (attempts : Nat) (backend : Backend σ) (state : σ) (now : Instant) :
    Option Outcome :=
  match prepare arguments environment with
  | .error outcome => some outcome
  | .ok (parsed, settings) =>
    (Connection.connect settings.mode settings.address pings attempts).map fun
      | (.error fault, _) => .ofFault fault
      | (.ok _, _) => ((command parsed settings now).run backend state).1

end SearchTenancy.CommandLine
