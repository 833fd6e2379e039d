import Crosstab.Catalog.Basic
import Crosstab.Command.Arguments
import Crosstab.Engine.Setup
import Crosstab.Json.Printer
import Crosstab.Settings.Json
import Crosstab.Spec.Json
import Crosstab.Text.Blank

/-!
The commands of the program, as functions from what they find to what they print. The exit code is 0
for success, 2 if the caller can mend the cause, 1 for every other failure, and 101 if the program
ends before it has an answer.
-/

namespace Crosstab

open Crosstab.Sql Crosstab.Text

def versionText : String := "tabula 0.1.0\n"

def helpText : String :=
  Text.joined "\n" [
    "Tabula - compile query specifications to parameterized SQL and run them",
    "",
    "Usage: tabula [OPTIONS] <COMMAND>",
    "",
    "Commands:",
    "  compile  Print the SQL and parameters for a specification",
    "  run      Execute a specification and print the result JSON",
    "  values   List the most frequent values of a field",
    "  catalog  Print the effective catalog and join registry",
    "  help     Print this message or the help of the given subcommand(s)",
    "",
    "Options:",
    "  -c, --config <CONFIG>  Settings file (defaults to TABULA_CONFIG, ./tabula.toml, then the user config dir)",
    "  -h, --help             Print help",
    "  -V, --version          Print version",
    ""]

inductive FileState where
  | missing
  | unreadable (reason : String)
  | text (content : String)

/-- What the program finds around it. -/
structure World (σ : Type) where
  environment : Environment
  file : (path : String) → FileState
  /-- The directory with the settings of the user. -/
  userDirectory : Option String
  connector : Connector σ
  /-- The id of the call, for texts that refer to it. -/
  callId : String

/-- What the program prints, and the code that it exits with. -/
structure Printout where
  exitCode : UInt8 := 0
  output : String := ""
  /-- The lines for the operator. -/
  messages : List String := []

namespace Printout

/-- A failure that the caller cannot mend. -/
def failed (message : String) : Printout := { exitCode := 1, messages := [message] }

/-- A value, one element to a line. -/
def ofJson (value : Json) : Printout := { output := value.pretty ++ "\n" }

def ofFailure (callId : String) (f : Failure) : Printout where
  exitCode := if f.isClientError then 2 else 1
  messages := ["Error [" ++ f.code ++ "]: " ++ f.publicMessage callId]

/-- Nothing at all, because there was no room for the answer. -/
def abandoned : Printout := { exitCode := 101 }

/-- Usage, help and version. -/
def ofDigression : Digression → Printout
  | .misuse => { exitCode := 2, messages := [helpText] }
  | .help => { output := helpText }
  | .version => { output := versionText }

end Printout

/-- The values of a statement as they are listed below it. -/
def Statement.parameterLines (s : Statement) : List String :=
  s.values.zipIdx.map fun (value, i) => "-- param " ++ toString (i + 1) ++ ": " ++ value.display

/-- A statement as it is printed: its text and, after an empty line, its values. -/
def Statement.listing (s : Statement) : String :=
  let values := if s.values.isEmpty then [] else "" :: s.parameterLines
  String.join ((s.sql :: values).map (· ++ "\n"))

/-- The statement for a specification, printed without an engine. Only the catalog, the names and
the limits of the settings count, and the limits are taken as they are. -/
def Settings.compileOffline (s : Settings) (callId : String) (d : Dialect) (spec : Spec) :
    Printout :=
  match Catalog.load s.catalog.registry.source with
  | .error fault => .failed ("Error loading catalog: " ++ fault.message)
  | .ok catalog =>
    match spec.resolve catalog s.query.maxLimit with
    | .error rejection => .ofFailure callId (.rejected rejection)
    | .ok plan =>
      let warnings := plan.warnings.map ("warning: " ++ ·)
      match plan.compile s.mapping.naming d s.query.sourceLimit with
      | .ok statement => { output := statement.listing, messages := warnings }
      | .error fault =>
        { exitCode := 1, messages := warnings ++ ["Compilation error: " ++ fault.message] }

namespace World

variable {σ : Type} (w : World σ)

def settingsIn (path : String) : Except SettingsFault Settings :=
  match w.file path with
  | .missing => .error (.fileNotFound path)
  | .unreadable reason => .error (.unreadable reason)
  | .text content =>
    match Settings.ofToml? content with
    | some settings => .ok settings
    | none => .error (.malformed "no settings")

def hasFile (path : String) : Bool :=
  match w.file path with
  | .missing => false
  | _ => true

/-- The settings file in the working directory. -/
def localSettings : String := "tabula.toml"

/-- The settings file below the user's directory. -/
def userSettings (directory : String) : String := directory ++ "/tabula/config.toml"

/-- The settings file to use: the one that is named, by an argument or by a variable, or else the
first that exists of the local one and the user's. -/
def settingsPath? (named : Option String) : Option String :=
  (named.or (w.environment "TABULA_CONFIG")).or
    (([localSettings] ++ (w.userDirectory.map userSettings).toList).find? w.hasFile)

def settings (named : Option String) : Except SettingsFault Settings :=
  match w.settingsPath? named with
  | some path => w.settingsIn path
  | none => .ok {}

def specIn (path : String) : Except String Spec :=
  match w.file path with
  | .missing =>
    .error ("Error reading file '" ++ path ++ "': No such file or directory (os error 2)")
  | .unreadable reason => .error ("Error reading file '" ++ path ++ "': " ++ reason)
  | .text content =>
    match Spec.ofText? content with
    | some spec => .ok spec
    | none => .error ("Invalid specification '" ++ path ++ "'")

/-- An answer of an engine, printed. -/
def printed (answer : Except Failure (Option Json)) : Printout :=
  match answer with
  | .ok (some value) => .ofJson value
  | .ok none => .abandoned
  | .error failure => .ofFailure w.callId failure

/-- A call of the engine that settings describe. Without an engine nothing is called, and there is
no state. -/
def call (settings : Settings) (act : Setup σ → Except Failure (Option Json) × σ) :
    Printout × Option σ :=
  match settings.setup w.environment w.connector with
  | .error fault => (.failed ("Error: " ++ fault.message), none)
  | .ok setup =>
    let (answer, state) := act setup
    (w.printed answer, some state)

/-- A command carried out, with the state in which it leaves the store if it opened one. -/
def carryOut (settings : Settings) : Command → Printout × Option σ
  | .compile path dialect =>
    match w.specIn path with
    | .error reason => (.failed reason, none)
    | .ok spec => (settings.compileOffline w.callId dialect spec, none)
  | .run path =>
    match w.specIn path with
    | .error reason => (.failed reason, none)
    | .ok spec =>
      w.call settings fun setup =>
        let (answer, state) := setup.engine.execute setup.store spec setup.state
        (answer.map (·.map Report.toJson), state)
  | .values entity field start limit =>
    w.call settings fun setup =>
      let (answer, state) :=
        setup.engine.distinctValues setup.store entity field start limit setup.state
      (answer.map fun values => some (.list (values.map DistinctValue.toJson)), state)
  | .catalog =>
    match Catalog.load settings.catalog.registry.source with
    | .error fault => (.failed ("Error loading catalog: " ++ fault.message), none)
    | .ok catalog => (.ofJson catalog.listing, none)

def run (arguments : List String) : Printout × Option σ :=
  match Invocation.ofArguments arguments with
  | .error digression => (.ofDigression digression, none)
  | .ok invocation =>
    match w.settings invocation.config with
    | .error fault => (.failed ("Error loading settings: " ++ fault.message), none)
    | .ok settings => w.carryOut settings invocation.command

end World

end Crosstab
