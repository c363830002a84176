import DeviceUpdate.CommandLine.Help
import DeviceUpdate.Settings.File

/-! What comes of a command. -/

namespace DeviceUpdate.CommandLine

/-- What is found under the path of a file. -/
inductive Found where
  | nothing
  | text (s : String)
  /-- Something that cannot be read. -/
  | unreadable (reason : String)
  deriving DecidableEq, Repr

/-- Why a command fails. -/
inductive Error where
  | file (reason : String)
  | settings (e : Settings.LoadError)
  | noTickSeconds
  deriving DecidableEq, Repr

/-- The wording of a failure. -/
def Error.message : Error → String
  | file reason => reason
  | settings .unreadable => "TOML parse error\nthe settings file does not hold settings"
  | settings .overrun => "number out of range"
  | settings (.invalid fault) => fault.message
  | noTickSeconds => "--tick-secs must be positive"

/-- What comes of a command. -/
inductive Outcome where
  | printed (text : String)
  | failed (e : Error)
  | misused
  /-- The server is to start with these settings. -/
  | serving (s : Settings)

/-- The number with which the program ends. -/
def Outcome.code : Outcome → Nat
  | printed _ | serving _ => 0
  -- A number that its bits cannot hold stops the program where it stands.
  | failed (.settings .overrun) => 101
  | failed _ => 1
  | misused => 2

/-- What comes of arguments that ask for nothing to be done. -/
def Stop.outcome : Stop → Outcome
  | help topic => .printed topic.explanation.write
  | misuse => .misused

/-- The settings in a file, without which all is standard. -/
def settingsOf : Found → Except Error Settings
  | .nothing => (Settings.load none).mapError .settings
  | .text s => (Settings.load (some s)).mapError .settings
  | .unreadable reason => .error (.file reason)

/-- The settings to serve with; the time between ticks must be positive. -/
def Options.serving (o : Options) (s : Settings) : Except Error Settings :=
  if o.tickSeconds = some 0 then .error .noTickSeconds else .ok (o.override s)

namespace Command

/-- The path of the settings file. -/
def path : Command → String
  | serve o | config o => o.path

/-- What comes of a command, given what is found under the path of its settings file. -/
def run (c : Command) (found : Found) : Outcome :=
  let outcome : Except Error Outcome := do
    -- The settings are read before anything is done with them.
    let s ← settingsOf found
    match c with
    | serve o => pure (.serving (← o.serving s))
    | config _ => pure (.printed s.write)
  match outcome with
  | .ok o => o
  | .error e => .failed e

end Command

end DeviceUpdate.CommandLine
