import Artboard.Command.Parameter

/-!
# Reading the command line

Arguments are read from left to right.  A parameter takes its value from behind
an equals sign or from the next argument; the latter is looked at only when the
following parameter begins or the line ends.  So an unknown argument behind a
value that would be refused is the mistake that is reported.
-/

namespace Artboard

/-- The variables of the environment. -/
abbrev Environment := List (String × String)

/-- A command line of which some arguments were read. -/
structure CommandLine where
  settings : Settings
  /-- The parameters that have their value. -/
  given : List Parameter
  /-- The parameter that was read last, with its value if that was read, when it
  was not looked at yet. -/
  pending : Option (Parameter × Option String)

namespace CommandLine

def start : CommandLine := ⟨Settings.standard, [], none⟩

def give (line : CommandLine) (parameter : Parameter) : Option String → Except Stop CommandLine
  | none => .error (.missingValue parameter)
  | some value =>
    if line.given.contains parameter then .error (.repeated parameter)
    else do
      let settings ← parameter.assign value line.settings
      return { line with settings := settings, given := parameter :: line.given }

/-- Look at the parameter that was read last. -/
def settle (line : CommandLine) : Except Stop CommandLine :=
  match line.pending with
  | none => .ok line
  | some (parameter, value) => { line with pending := none }.give parameter value

def finish (line : CommandLine) (stop : Stop) : Except Stop CommandLine := do
  discard line.settle
  throw stop

/-- Words that take no value. -/
def bareWord? : String → Option Stop
  | "help" => some .help
  | "version" => some .version
  | _ => none

def readWord (line : CommandLine) (word : String) (value : Option String) :
    Except Stop CommandLine :=
  match Parameter.ofWord? word, bareWord? word with
  | some parameter, _ => do
    let line ← line.settle
    match value with
    | some value => line.give parameter (some value)
    | none => return { line with pending := some (parameter, none) }
  | none, some stop =>
    match value with
    | some value => throw (.unneededValue value ("--" ++ word))
    | none => line.finish stop
  | none, none => throw (.unknownArgument ("--" ++ word))

def readLetter (line : CommandLine) (letter : Char) : Except Stop CommandLine :=
  match letter with
  | 'h' => line.finish .help
  | 'V' => line.finish .version
  | _ => throw (.unknownArgument (String.ofList ['-', letter]))

/-- Read an argument that is no word. It can only be the value of the parameter
before it. -/
def readValue (line : CommandLine) (value : String) : Except Stop CommandLine :=
  match line.pending with
  | some (parameter, none) => .ok { line with pending := some (parameter, some value) }
  | _ => throw (.unknownArgument value)

/-- Read one argument. A single hyphen is a value. -/
def readArgument (line : CommandLine) (argument : String) : Except Stop CommandLine :=
  match argument.toList with
  | '-' :: '-' :: text =>
    let (word, value) := Text.cut '=' text
    line.readWord (String.ofList word) (value.map String.ofList)
  | '-' :: letter :: _ => line.readLetter letter
  | _ => line.readValue argument

/-- Read arguments. Behind two hyphens alone there would be values without a
parameter, of which there are none. -/
def readAll (line : CommandLine) : List String → Except Stop CommandLine
  | [] => line.settle
  | "--" :: [] => line.settle
  | "--" :: value :: _ => throw (.unknownArgument value)
  | argument :: others => do (← line.readArgument argument).readAll others

/-- Take from the environment what the command line does not give. -/
def complete (line : CommandLine) (environment : Environment) : Except Stop Settings :=
  (Parameter.all.filter (!line.given.contains ·)).foldlM
    (fun settings parameter =>
      match parameter.environmentName?.bind (List.lookup · environment) with
      | some value => parameter.assign value settings
      | none => .ok settings)
    line.settings

/-- The settings that the arguments behind the program's name ask for. -/
def read (arguments : List String) (environment : Environment) : Except Stop Settings := do
  (← start.readAll arguments).complete environment

end CommandLine

end Artboard
