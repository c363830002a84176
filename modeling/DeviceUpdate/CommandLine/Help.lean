import DeviceUpdate.CommandLine.Arguments

/-! What the program says about itself. -/

namespace DeviceUpdate.CommandLine

/-- A paragraph that lists names with what they mean. -/
structure Listing where
  title : String
  rows : List (String × String)
  deriving DecidableEq, Repr

namespace Listing

/-- The length of the longest name. -/
def width (l : Listing) : Nat :=
  (l.rows.map fun row => row.1.length).foldl max 0

/-- A line with a name and, in a column of its own, what it means. -/
def line (width : Nat) (row : String × String) : String :=
  "  " ++ row.1 ++ String.ofList (List.replicate (width + 2 - row.1.length) ' ') ++ row.2 ++ "\n"

/-- The lines of a listing. -/
def write (l : Listing) : String :=
  l.title ++ ":\n" ++ String.join (l.rows.map (line l.width))

end Listing

/-- An explanation. -/
structure Explanation where
  about : String
  usage : String
  listings : List Listing
  deriving DecidableEq, Repr

/-- The paragraphs of an explanation. -/
def Explanation.write (e : Explanation) : String :=
  Text.joinWith "\n" ((e.about ++ "\n") :: ("Usage: " ++ e.usage ++ "\n") ::
    e.listings.map Listing.write)

/-- What serving is. -/
def aboutServe : String :=
  "Serve the device and management APIs and run the rollout scheduler"

/-- What printing the settings is. -/
def aboutConfig : String :=
  "Print the effective configuration as TOML"

/-- What an explanation is. -/
def aboutHelp : String :=
  "Print this message or the help of the given subcommand(s)"

/-- The option for the form of logs. -/
def jsonLogRow : String × String :=
  ("    --log-json", "Emit logs as JSON lines")

/-- The option that asks for an explanation. -/
def helpRow : String × String :=
  ("-h, --help", "Print help")

/-- The explanation of a topic. -/
def Topic.explanation : Topic → Explanation
  | program => {
      about := "FleetGrid daemon"
      usage := "fleetd [OPTIONS] <COMMAND>"
      listings := [
        ⟨"Commands", [("serve", aboutServe), ("config", aboutConfig), ("help", aboutHelp)]⟩,
        ⟨"Options", [jsonLogRow, helpRow]⟩] }
  | serve => {
      about := aboutServe
      usage := "fleetd serve [OPTIONS]"
      listings := [⟨"Options", [
        ("    --config <CONFIG>",
          "Path to fleet.toml; defaults apply when it does not exist [default: fleet.toml]"),
        jsonLogRow,
        ("    --bind <BIND>", "Address to listen on (overrides `server.bind`)"),
        ("    --data-dir <DATA_DIR>",
          "Data directory for persistent state (overrides `server.data_dir`)"),
        ("    --tick-secs <TICK_SECS>",
          "Rollout scheduler interval in seconds (overrides `scheduler.tick_secs`)"),
        helpRow]⟩] }
  | config => {
      about := aboutConfig
      usage := "fleetd config [OPTIONS]"
      listings := [⟨"Options",
        [("    --config <CONFIG>", "[default: fleet.toml]"), jsonLogRow, helpRow]⟩] }
  | help => {
      about := aboutHelp
      usage := "fleetd help [COMMAND]..."
      listings := [⟨"Arguments", [("[COMMAND]...", "Print help for the subcommand(s)")]⟩] }

end DeviceUpdate.CommandLine
