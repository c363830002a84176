import DeviceUpdate.Network.Endpoint
import DeviceUpdate.Settings.Record

/-! The arguments of the program: what they ask for. -/

namespace DeviceUpdate.CommandLine

/-- What the program can explain. -/
inductive Topic where
  | program
  | serve
  | config
  | help
  deriving DecidableEq, Repr

/-- The topics of the subcommands by name. -/
def Topic.names : List (String × Topic) :=
  [("serve", serve), ("config", config), ("help", help)]

/-- What is said about the settings on the command line. -/
structure Options where
  /-- The path of the settings file. -/
  config : Option String
  bind : Option Network.Endpoint
  dataDirectory : Option String
  tickSeconds : Option Nat
  deriving DecidableEq, Repr

/-- Where the settings file is when nothing else is said. -/
def defaultPath : String := "fleet.toml"

namespace Options

/-- Nothing is said. -/
def unset : Options :=
  ⟨none, none, none, none⟩

/-- The path of the settings file. -/
def path (o : Options) : String :=
  o.config.getD defaultPath

/-- The settings with what is said in place of what the file says. -/
def override (o : Options) (s : Settings) : Settings :=
  { s with
    bind := o.bind.getD s.bind
    dataDirectory := o.dataDirectory.getD s.dataDirectory
    tickSeconds := o.tickSeconds.getD s.tickSeconds }

/-- Fills a place that nothing has filled yet. -/
def fill {α : Type} (old new : Option α) : Option (Option α) :=
  if old.isSome || new.isNone then none else some new

/-- A path, which cannot be empty. -/
def path? (value : String) : Option String :=
  if value.isEmpty then none else some value

/-- Takes in an option of a subcommand with its value, which it may have once. -/
def set? (topic : Topic) (o : Options) (name value : String) : Option Options :=
  match topic, name with
  | .serve, "config" | .config, "config" => do
    pure { o with config := ← fill o.config (path? value) }
  | .serve, "bind" => do pure { o with bind := ← fill o.bind (Network.Endpoint.read? value) }
  | .serve, "data-dir" => do
    pure { o with dataDirectory := ← fill o.dataDirectory (path? value) }
  | .serve, "tick-secs" => do
    pure { o with tickSeconds := ← fill o.tickSeconds (Text.unsigned? (Nat.pow 2 64) value.toList) }
  | _, _ => none

end Options

/-- One argument. -/
inductive Argument where
  | help
  /-- Logs are to be lines of JSON. -/
  | jsonLog
  /-- An option, with the value that is written into the same argument. -/
  | option (name : String) (value : Option String)
  | other
  deriving DecidableEq, Repr

/-- Reads one argument. -/
def Argument.read (arg : String) : Argument :=
  match arg.toList with
  | '-' :: '-' :: cs =>
    if arg == "--help" then help
    else if arg == "--log-json" then jsonLog
    else
      match Text.splitOnce ['='] cs with
      -- Only the first equals sign divides, so that values may hold others.
      | some (name, value) => option (String.ofList name) (some (String.ofList value))
      | none => option (String.ofList cs) none
  | '-' :: 'h' :: _ => help
  | _ => other

/-- Whether an argument can be the value of the option before it. -/
def isValue (arg : String) : Bool :=
  arg == "-" || arg.toList.head? != some '-'

/-- What the program is asked to do. -/
inductive Command where
  /-- To serve devices and administrators. -/
  | serve (o : Options)
  /-- To print the settings. -/
  | config (o : Options)
  deriving DecidableEq, Repr

/-- Why there is nothing to do. -/
inductive Stop where
  /-- An explanation is asked for. -/
  | help (topic : Topic)
  /-- The arguments make no sense. -/
  | misuse
  deriving DecidableEq, Repr

/-- Takes in an option that may make no sense. -/
def setOption (topic : Topic) (o : Options) (name value : String) : Except Stop Options :=
  match o.set? topic name value with
  | some o => .ok o
  | none => .error .misuse

/-- Reads the options of a subcommand; the flag tells whether the form of logs has been chosen. -/
def readOptions (topic : Topic) : Bool → Options → List String → Except Stop Options
  | _, o, [] | _, o, ["--"] => .ok o
  | chosen, o, arg :: rest =>
    match Argument.read arg with
    | .help => .error (.help topic)
    | .jsonLog => if chosen then .error .misuse else readOptions topic true o rest
    | .option name (some value) => do readOptions topic chosen (← setOption topic o name value) rest
    | .option name none =>
      match rest with
      | value :: rest =>
        -- What starts with a hyphen is an argument of its own.
        if isValue value then do
          readOptions topic chosen (← setOption topic o name value) rest
        else .error .misuse
      | [] => .error .misuse
    | .other => .error .misuse

/-- The topic that arguments name. -/
def readTopic : List String → Stop
  | [] => .help .program
  | [name] =>
    match Topic.names.lookup name with
    | some topic => .help topic
    | none => .misuse
  | _ => .misuse

/-- Reads the arguments; the flag tells whether the form of logs has been chosen. -/
def readFrom : Bool → List String → Except Stop Command
  | _, [] => .error .misuse
  | chosen, arg :: rest =>
    match Topic.names.lookup arg with
    | some .serve => (readOptions .serve false .unset rest).map .serve
    | some .config => (readOptions .config false .unset rest).map .config
    -- The only other name is that of the help.
    | some _ => .error (readTopic rest)
    | none =>
      match Argument.read arg with
      | .help => .error (.help .program)
      -- The choice of the log may be made once, before the command.
      | .jsonLog => if chosen then .error .misuse else readFrom true rest
      | _ => .error .misuse

/-- Reads the arguments. -/
def read (args : List String) : Except Stop Command :=
  readFrom false args

end DeviceUpdate.CommandLine
