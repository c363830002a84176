import DeviceUpdate.Action.Status
import DeviceUpdate.Device.Directive
import DeviceUpdate.DistributionSet

/-! The documents that devices get. -/

namespace DeviceUpdate.Device

/-- A document with its validator. -/
structure Tagged (α : Type) where
  body : α
  tag : String
  deriving DecidableEq, Repr

/-- The answer to a poll: how long to sleep, and paths to what is to be done. -/
structure PollDocument where
  /-- The time until the next poll, in hours, minutes and seconds. -/
  sleep : String
  deploymentBase : Option String
  cancelAction : Option String
  configData : Option String
  installedBase : Option String
  deriving DecidableEq, Repr

namespace PollDocument

/-- A link, left out when there is none. -/
def link (name : String) : Option String → List (String × Json)
  | some href => [(name, .object [("href", .string href)])]
  | none => []

/-- The text of the answer to a poll. -/
def toJson (d : PollDocument) : Json :=
  .object [
    ("config", .object [("polling", .object [("sleep", .string d.sleep)])]),
    ("_links", .object (link "deploymentBase" d.deploymentBase ++
      link "cancelAction" d.cancelAction ++ link "configData" d.configData ++
      link "installedBase" d.installedBase))]

end PollDocument

/-- The part of a log that a device asks for. -/
structure HistoryDocument where
  status : Status
  messages : List String
  deriving DecidableEq, Repr

/-- The instructions of a deployment. -/
structure DeploymentDocument where
  id : Nat
  download : Directive
  update : Directive
  window : Option Availability
  modules : List SoftwareModule
  history : Option HistoryDocument
  deriving DecidableEq, Repr

namespace DeploymentDocument

/-- A file as a device sees it. -/
def artifact (a : Artifact) : Json :=
  .object [("filename", .string a.filename), ("size", .natural a.size),
    ("hashes", .object [("sha256", .string a.sha256)])]

/-- A piece of software as a device sees it. -/
def chunk (m : SoftwareModule) : Json :=
  .object [("part", .string m.part), ("name", .string m.name), ("version", .string m.version),
    ("artifacts", .ofList artifact m.artifacts)]

/-- The text of the instructions. -/
def toJson (d : DeploymentDocument) : Json :=
  let window := match d.window with
    | some w => [("maintenanceWindow", Json.string w.name)]
    | none => []
  let history := match d.history with
    | some h => [("actionHistory", Json.object
        [("status", .string h.status.name), ("messages", .ofList .string h.messages)])]
    | none => []
  .object ([
    ("id", .string (Text.decimal d.id)),
    ("deployment", .object ([("download", .string d.download.name),
      ("update", .string d.update.name)] ++ window ++ [("chunks", .ofList chunk d.modules)]))] ++
    history)

end DeploymentDocument

/-- The instruction to give up a deployment. -/
structure CancelDocument where
  id : Nat
  /-- The deployment to give up. -/
  stop : Nat
  deriving DecidableEq, Repr

/-- The text of the instruction. -/
def CancelDocument.toJson (d : CancelDocument) : Json :=
  .object [("id", .string (Text.decimal d.id)),
    ("cancelAction", .object [("stopId", .string (Text.decimal d.stop))])]

end DeviceUpdate.Device
