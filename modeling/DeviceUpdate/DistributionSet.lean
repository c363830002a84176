import DeviceUpdate.Json.Instant

/-! Distribution sets: the bundles of software that are installed together. -/

namespace DeviceUpdate

/-- A file to download. -/
structure Artifact where
  filename : String
  size : Nat
  /-- The SHA-256 digest of the file in hexadecimal. -/
  sha256 : String
  deriving DecidableEq, Repr

namespace Artifact

/-- The record of an artifact. -/
def toJson (a : Artifact) : Json :=
  .object [("filename", .string a.filename), ("size", .natural a.size),
    ("sha256", .string a.sha256)]

/-- Reads the record of an artifact. -/
def ofJson? (j : Json) : Option Artifact := do
  let r ← Json.Record.read? ["filename", "size", "sha256"] j
  pure {
    filename := ← r.required "filename" Json.text?
    size := ← r.required "size" Json.natural64?
    sha256 := ← r.required "sha256" Json.text? }

end Artifact

/-- A piece of software with its files. -/
structure SoftwareModule where
  /-- The kind of software, such as an operating system. -/
  part : String
  name : String
  version : String
  artifacts : List Artifact
  deriving DecidableEq, Repr

namespace SoftwareModule

/-- The record of a software module. -/
def toJson (m : SoftwareModule) : Json :=
  .object [("part", .string m.part), ("name", .string m.name), ("version", .string m.version),
    ("artifacts", .ofList Artifact.toJson m.artifacts)]

/-- Reads the record of a software module, which may lack its artifacts. -/
def ofJson? (j : Json) : Option SoftwareModule := do
  let r ← Json.Record.read? ["part", "name", "version", "artifacts"] j
  pure {
    part := ← r.required "part" Json.text?
    name := ← r.required "name" Json.text?
    version := ← r.required "version" Json.text?
    artifacts := ← r.defaulted "artifacts" (Json.list? Artifact.ofJson?) [] }

end SoftwareModule

/-- A bundle of software. -/
structure DistributionSet where
  id : Nat
  tenant : String
  name : String
  version : String
  modules : List SoftwareModule
  createdAt : Instant
  deriving DecidableEq

namespace DistributionSet

/-- The record of a distribution set. -/
def toJson (d : DistributionSet) : Json :=
  .object [("id", .natural d.id), ("tenant", .string d.tenant), ("name", .string d.name),
    ("version", .string d.version), ("modules", .ofList SoftwareModule.toJson d.modules),
    ("created_at", .ofInstant d.createdAt)]

/-- Reads the record of a distribution set. -/
def ofJson? (j : Json) : Option DistributionSet := do
  let r ← Json.Record.read? ["id", "tenant", "name", "version", "modules", "created_at"] j
  pure {
    id := ← r.required "id" Json.natural64?
    tenant := ← r.required "tenant" Json.text?
    name := ← r.required "name" Json.text?
    version := ← r.required "version" Json.text?
    modules := ← r.required "modules" (Json.list? SoftwareModule.ofJson?)
    createdAt := ← r.required "created_at" Json.instant? }

end DistributionSet

end DeviceUpdate
