import Artboard.Command.Arguments
import Artboard.Export.Run
import Artboard.Journal.Filter
import Artboard.Json.Printer

/-!
# The program

From arguments and environment to an exit code, what is shown, and what becomes
of the files.
-/

namespace Artboard
namespace Program

inductive EventForm where
  | record
  | line
  deriving DecidableEq, Repr

/-- The form that a setting asks for. -/
def EventForm.ofSetting : Option String → EventForm
  | some "json" => .record
  | _ => .line

/-- A value as it is shown behind its name. -/
def shownValue : Json → String
  | .text text => text
  | value => value.compact

/-- One event as it is shown. -/
inductive Shown where
  | record (event : Json)
  | line (text : String)

def EventForm.show (form : EventForm) (event : Event) : Shown :=
  match form with
  | .record => .record event.toJson
  | .line =>
    .line (event.level.name ++ " " ++ event.target ++ ": " ++ event.message ++
      String.join (event.values.map fun value => " " ++ value.1 ++ "=" ++ shownValue value.2))

/-- How the environment wants events to be shown. -/
structure Reporting where
  filter : EventFilter
  form : EventForm

/-- Read off the environment how events are to be shown. -/
def Reporting.ofEnvironment (environment : Environment) : Reporting where
  filter := .ofSetting (environment.lookup "RUST_LOG")
  form := .ofSetting (environment.lookup "RUST_LOG_FORMAT")

/-- An event as it is shown, if it is. -/
def Reporting.show? (reporting : Reporting) (event : Event) : Option Shown :=
  if reporting.filter.allows event then some (reporting.form.show event) else none

def padded (n : Nat) : String :=
  let digits := toString n
  String.ofList (List.replicate (5 - digits.length) ' ') ++ digits

/-- A cause whose further lines stand below the first one. -/
def indented (first others text : String) : String :=
  first ++ ("\n" ++ others).intercalate
    ((Text.splitAt '\n' text.toList).map String.ofList)

/-- Causes, each on a line of its own. Several are numbered from zero. -/
def causeLines : List String → List String
  | [cause] => [indented "    " "    " cause]
  | causes => causes.zipIdx.map fun cause => indented (padded cause.2 ++ ": ") "       " cause.1

/-- The report of an export that failed. -/
def report (error : ExportError) : String :=
  "Error: Conversion failed\n\nCaused by:\n" ++
    String.join ((causeLines error.causes).map (· ++ "\n"))

/-- The text that explains the program. -/
def helpText : String :=
  Stop.about ++ "\n\n" ++ Stop.usageLine ++ "\n\nOptions:\n" ++
    String.join (Parameter.all.map fun parameter =>
      "      " ++ parameter.usage ++ "\n          " ++ parameter.purpose ++ "\n") ++
    "  -h, --help\n          Print help\n  -V, --version\n          Print version\n"

/-- What is shown on standard output when the command line ends the program. -/
def outputOf : Stop → String
  | .help => helpText
  | .version => Stop.versionLine ++ "\n"
  | _ => ""

/-- What is shown on standard error when the command line ends the program. -/
def errorOutputOf : Stop → String
  | .help | .version => ""
  | stop => stop.written

/-- How the program ended. -/
structure Outcome where
  exitCode : Nat
  errorOutput : String
  /-- The events that are shown, in order. -/
  shown : List Shown
  requests : List Request
  files : FileTree

/-- The events of an export with the last word of the program. -/
def eventsOf (outcome : Export.Outcome) : List Event :=
  match outcome.result with
  | .ok path => outcome.journal.events ++ [.saved path]
  | .error _ => outcome.journal.events

def run (service : Service) (arguments : List String) (environment : Environment)
    (tree : FileTree) (disk : Disk := .sound) : Outcome :=
  match CommandLine.read arguments environment with
  | .error stop => ⟨stop.exitCode, errorOutputOf stop, [], [], tree⟩
  | .ok settings =>
    let outcome := Export.run (Carrier.standard.reach service) settings tree disk
    { exitCode := if outcome.result.isOk then 0 else 1
      errorOutput := match outcome.result with
        | .ok _ => ""
        | .error error => report error
      shown := (eventsOf outcome).filterMap (Reporting.ofEnvironment environment).show?
      requests := Carrier.standard.sent outcome.journal.requests
      files := outcome.files }

end Program
end Artboard
