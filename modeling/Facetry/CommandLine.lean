/-
# The commands

Three commands: `inspect` prints the specifications of a domain model,
`validate` prints what is wrong with it, and `value` reads a value that a
person could enter. The commands read files, but they run in any monad that
answers for them, and print nothing themselves: what they leave is the text of
both outputs and the exit code.

Key definitions: `Command`, `Request.ofArguments`, `Command.run`, `run`.
-/
import Facetry.CommandLine.Arguments
import Facetry.Loader
import Facetry.Report
import Facetry.Specification.Json

namespace Facetry.CommandLine

/-! ### Commands and their forms -/

/-- A command with what it was given. -/
inductive Command
  | inspect (model : String) (className : Option String) (asJson : Bool) (config : Option String)
  | validate (model : String) (config : Option String) (strict : Bool)
  | value (kind : String) (entry : String)
  deriving DecidableEq, Repr

/-- What a command does. -/
inductive Activity
  | inspect
  | validate
  | value
  deriving DecidableEq, Repr

namespace Activity

/-- All activities, in order. -/
def all : List Activity := [inspect, validate, value]

/-- The operand for the domain model. -/
def modelOperand : Operand := ⟨"MODEL", "Path to the domain model JSON file", true⟩

/-- The switch for the configuration. -/
def configSwitch : Switch :=
  ⟨'c', "config", "Configuration file (defaults to the nearest .metamodel.json)", .path⟩

/-- What can be given to the command. -/
def form : Activity → Form
  | inspect =>
    { name := "inspect"
      shortName := some "i"
      about := "Build the metamodel for a domain model file and print its specifications"
      operands := [modelOperand]
      switches :=
        [⟨'k', "class", "Only print the specification for this class", .text⟩,
         ⟨'j', "json", "Print JSON instead of the formatted view", .nothing⟩,
         configSwitch] }
  | validate =>
    { name := "validate"
      shortName := some "v"
      about := "Build the metamodel and report validation failures"
      operands := [modelOperand]
      switches :=
        [configSwitch,
         ⟨'s', "strict", "Exit with an error when any failure is reported", .nothing⟩] }
  | value =>
    { name := "value"
      shortName := none
      about := "Parse a text entry with the semantics of a value type"
      operands :=
        [⟨"VALUE_TYPE", "One of: boolean, integer, long, string", false⟩,
         ⟨"TEXT", "The text to parse", false⟩]
      switches := [] }

/-- The activity that a name or a short name stands for. -/
def ofName? (name : String) : Option Activity :=
  all.find? fun a => a.form.name == name || a.form.shortName == some name

/-- The command for what was given. -/
def command? (a : Activity) (g : Given) : Option Command :=
  match a, g.operands with
  | inspect, [model] =>
    some (.inspect model (g.value? "class") (g.has "json") (g.value? "config"))
  | validate, [model] => some (.validate model (g.value? "config") (g.has "strict"))
  | value, [kind, entry] => some (.value kind entry)
  | _, _ => none

end Activity

/-- What help can be about. -/
inductive Topic
  | program
  | help
  | activity (a : Activity)
  deriving DecidableEq, Repr

/-- What the arguments of the program ask for. -/
inductive Request
  | version
  | help (topic : Topic)
  | run (command : Command)
  deriving DecidableEq, Repr

namespace Request

/-- What is asked for after the word `help`. -/
def helpOn : List String → Option Request
  | [] => some (.help .program)
  | [name] =>
    if name = "help" then some (.help .help)
    else (Activity.ofName? name).map fun a => .help (.activity a)
  | _ => none

/-- What is asked for after the name of a command. -/
def ofActivity (a : Activity) (arguments : List String) : Option Request :=
  match a.form.read arguments with
  | some .help => some (.help (.activity a))
  | some (.given g) => (a.command? g).map .run
  | none => none

/-- What the arguments of the program ask for; none if they cannot be understood. -/
def ofArguments : List String → Option Request
  | [] => none
  | first :: rest =>
    match Word.ofText first with
    | .named "help" none => some (.help .program)
    | .named "version" none => some .version
    | .letters ('h' :: _) => some (.help .program)
    | .letters ('V' :: _) => some .version
    | .operand "help" => helpOn rest
    | .operand name => (Activity.ofName? name).bind fun a => ofActivity a rest
    | _ => none

end Request

/-! ### Help -/

/-- The name of the program. -/
def programName : String := "metamodel"

/-- The version of the program. -/
def version : String := "0.1.0"

/-- What the program does. -/
def programAbout : String :=
  "Facet-based metamodel construction for naked-objects style domain models"

/-- Lines of two columns. -/
def columns (rows : List (String × String)) : List String :=
  let width := (rows.map (·.1.length)).foldl max 0
  rows.map fun row =>
    "  " ++ row.1 ++ String.ofList (List.replicate (width - row.1.length + 2) ' ') ++ row.2

/-- The row for a switch. -/
def switchRow (s : Switch) : String × String :=
  ("-" ++ String.singleton s.letter ++ ", --" ++ s.name ++
    (if s.value = .nothing then "" else " <" ++ s.name.toUpper ++ ">"), s.about)

/-- What the word that asks for help does. -/
def helpAbout : String := "Print this message or the help of the given subcommand(s)"

/-- The row for the switch that asks for help. -/
def helpRow : String × String := ("-h, --help", "Print help")

/-- The help for a command. -/
def commandHelp (f : Form) : List String :=
  [f.about, "",
   "Usage: " ++ " ".intercalate ([programName, f.name] ++
      (if f.switches.isEmpty then [] else ["[OPTIONS]"]) ++
      f.operands.map fun o => "<" ++ o.name ++ ">"),
   "", "Arguments:"] ++
    columns (f.operands.map fun o => ("<" ++ o.name ++ ">", o.about)) ++
    ["", "Options:"] ++ columns (f.switches.map switchRow ++ [helpRow])

/-- The row for a command. -/
def commandRow (f : Form) : String × String :=
  (f.name, f.about ++ match f.shortName with
    | some short => " [alias: " ++ short ++ "]"
    | none => "")

/-- The help for the program. -/
def programHelp : List String :=
  [programAbout, "", "Usage: " ++ programName ++ " <COMMAND>", "", "Commands:"] ++
    columns (Activity.all.map (fun a => commandRow a.form) ++
      [("help", helpAbout)]) ++
    ["", "Options:"] ++ columns [helpRow, ("-V, --version", "Print version")] ++
    ["", "ENVIRONMENT:", "    RUST_LOG=debug    Enable debug logging"]

/-- The help for the word that asks for help. -/
def helpHelp : List String :=
  [helpAbout, "", "Usage: " ++ programName ++ " help [COMMAND]...", "", "Arguments:"] ++
    columns [("[COMMAND]...", "Print help for the subcommand(s)")]

/-- The help on a topic. -/
def help : Topic → List String
  | .program => programHelp
  | .help => helpHelp
  | .activity a => commandHelp a.form

/-! ### Errors -/

/-- Why a domain model is not read. -/
inductive ModelError
  | file (fault : Files.Fault)
  | notParsed
  deriving DecidableEq, Repr

/-- Why a command fails. -/
inductive Error
  | config (path : String) (error : Configuration.Error)
  | model (path : String) (error : ModelError)
  | cache (error : Cache.Error)
  | unknownClass (name : String)
  | failures (all : List Failure)
  | unknownValueKind (error : Variant.Error)
  | value (error : Value.Error)
  deriving DecidableEq

namespace Error

/-- The wording of an error. -/
def message : Error → String
  | config path _ => "Failed to load config " ++ path
  | model path _ => "Failed to load domain model " ++ path
  | cache error => error.message
  | unknownClass name => "No specification for class " ++ name
  | failures all => Report.countText all
  | unknownValueKind error => "Unknown value type '" ++ error.text ++ "'"
  | value error => error.message

/-- The fault of a file, as the causes of an error. -/
def faultCauses (fault : Files.Fault) : List String :=
  ["IO error: " ++ fault.message, fault.message]

/-- What led to the error, the closest cause first. -/
def causes : Error → List String
  | config _ (.file fault) => faultCauses fault
  | config _ error => [error.message]
  | model _ (.file fault) => faultCauses fault
  | model path .notParsed => ["Domain model error: Failed to parse " ++ path]
  | unknownValueKind error => [error.message]
  | _ => []

/-- A text with `first` in front of its first line and `others` in front of each other one. -/
def indent (first others text : String) : String :=
  first ++ ("\n" ++ others).intercalate (text.splitOn "\n")

/-- A number in front of the text of a cause. -/
def numbered (index : Nat) : String := "    " ++ Text.natText index ++ ": "

/-- The causes under their heading; several of them are numbered. -/
def causesText : List String → String
  | [] => ""
  | [cause] => "\n\nCaused by:\n" ++ indent "    " "    " cause
  | several => "\n\nCaused by:\n" ++
      "\n".intercalate (several.mapIdx fun i cause => indent (numbered i) "       " cause)

/-- The error and what led to it. -/
def text (e : Error) : String := "Error: " ++ e.message ++ causesText e.causes ++ "\n"

end Error

/-! ### Running -/

/-- What a run leaves: its exit code and the texts of its two outputs. -/
structure Outcome where
  exitCode : Nat
  out : String
  err : String
  deriving DecidableEq, Repr

/-- The outcome of a run that succeeds with a text. -/
def Outcome.ok (out : String) : Outcome := ⟨0, out, ""⟩

/-- The outcome of a run that fails after some text. -/
def Outcome.failed (e : Error) (out : String) : Outcome := ⟨1, out, e.text⟩

/-- The outcome with a text in front of the second output. -/
def Outcome.withWarnings (warnings : String) (o : Outcome) : Outcome :=
  { o with err := warnings ++ o.err }

/-- The outcome of a request that cannot be understood. -/
def Outcome.misused : Outcome :=
  ⟨2, "", "error: the arguments cannot be understood\n\nFor more information, try '--help'.\n"⟩

/-- The domain model that a text spells. -/
def modelOfText (text : String) : Except ModelError DomainModel :=
  match Json.parse? text with
  | some j => (DomainModel.ofJson j).mapError fun _ => .notParsed
  | none => .error .notParsed

/-- The domain model in a file. -/
def loadModel {m : Type → Type} [Monad m] (files : Files m) (path : String) :
    m (Except Error DomainModel) := do
  match ← files.read path with
  | .error fault => return .error (.model path (.file fault))
  | .ok text => return (modelOfText text).mapError (.model path)

/-- The directory where the search for a configuration starts. -/
def searchStart (model : String) : String :=
  match Path.parent? model with
  | none | some "" => "."
  | some directory => directory

/-- The configuration in the given file, or else in the nearest one above the domain model, or
else none. -/
def loadConfiguration {m : Type → Type} [Monad m] (files : Files m) (model : String)
    (given : Option String) : m (Except Error Configuration) := do
  let path? ← match given with
    | some path => pure (some path)
    | none => Configuration.findFile? files (searchStart model)
  match path? with
  | some path => return (← Configuration.load files path).mapError (.config path)
  | none => return .ok .empty

/-- The warnings about a configuration. -/
def warnings (config : Configuration) : String :=
  Report.unlines (config.unknownKeys.map ("⚠️  Unknown configuration key: " ++ ·))

/-- Runs what is to be done with the initialized loader of a domain model. -/
def withLoader {m : Type → Type} [Monad m] (files : Files m) (model : String)
    (config : Option String) (use : Loader → Outcome) : m Outcome := do
  match ← loadConfiguration files model config with
  | .error e => return .failed e ""
  | .ok config =>
    let outcome : Outcome := match ← loadModel files model with
      | .error e => .failed e ""
      | .ok model =>
        match (Loader.new (.ofConfiguration config) (.ofModel model)).init with
        | .error e => .failed (.cache e) ""
        | .ok loader => use loader
    return outcome.withWarnings (warnings config)

/-- The line that tells of failures, if there are any. -/
def failuresHint : List Failure → String
  | [] => ""
  | failures => "⚠️  " ++ Report.countText failures ++
      "; run \x60metamodel validate\x60 for details\n"

/-- The specifications as a text for people. -/
def inspection (model : String) (specifications : List Specification)
    (failures : List Failure) : String :=
  Report.unlines (["🔍 Inspecting: " ++ model, String.ofList (List.replicate 80 '=')] ++
    specifications.map Report.specification) ++ failuresHint failures

/-- Prints the specification of a class, or those of all classes. As a text for people, all
classes are the domain classes only. -/
def inspect (model : String) (className : Option String) (asJson : Bool) (l : Loader) : Outcome :=
  let found : Except Error (List Specification) :=
    match className with
    | some name =>
      match l.lookup name with
      | some s => .ok [s]
      | none => .error (.unknownClass name)
    | none => .ok l.cache.all
  match found with
  | .error e => .failed e ""
  | .ok specifications =>
    if asJson then .ok ((Json.array (specifications.map (·.toJson))).pretty ++ "\n")
    else
      let shown := specifications.filter fun s =>
        className.isSome || l.repository.domain.contains s.className
      .ok (inspection model shown l.failures)

/-- Prints the failures. -/
def validate (strict : Bool) (l : Loader) : Outcome :=
  let out := Report.failures l.failures ++ "\n"
  if strict && !l.failures.isEmpty then .failed (.failures l.failures) out else .ok out

/-- The text that shows a value. -/
def valueText (kind : Value.Kind) : Option Value → Except Value.Error String
  | none => .ok (Report.unlines ["📭 No value (" ++ kind.name ++ ")"])
  | some v => do
    return Report.unlines
      ["📦 Type:    " ++ kind.name,
       "🏷️  Title:   " ++ kind.title (some v),
       "🔐 Encoded: " ++ (← kind.encode v)]

/-- Prints the value that a person entered. -/
def value (kindText entry : String) : Outcome :=
  match Variant.read Value.Kind.choices kindText with
  | .error e => .failed (.unknownValueKind e) ""
  | .ok kind =>
    match kind.parseEntry entry >>= valueText kind with
    | .error e => .failed (.value e) ""
    | .ok text => .ok text

/-- Runs a command. -/
def Command.run {m : Type → Type} [Monad m] (files : Files m) : Command → m Outcome
  | inspect model className asJson config =>
    withLoader files model config (CommandLine.inspect model className asJson)
  | validate model config strict =>
    withLoader files model config (CommandLine.validate strict)
  | value kind entry => return CommandLine.value kind entry

/-- Runs what the arguments of the program ask for. -/
def run {m : Type → Type} [Monad m] (files : Files m) (arguments : List String) : m Outcome :=
  match Request.ofArguments arguments with
  | none => return .misused
  | some .version => return .ok (programName ++ " " ++ version ++ "\n")
  | some (.help topic) => return .ok (Report.unlines (help topic))
  | some (.run command) => command.run files

end Facetry.CommandLine
