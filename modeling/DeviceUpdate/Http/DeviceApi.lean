import DeviceUpdate.Http.Handler
import DeviceUpdate.Http.Route

/-! The answers to devices: bare documents with validators, and envelopes for failures. -/

namespace DeviceUpdate.Http.DeviceApi

/-- The address from which a request came first: the first hop it names, or else its sender. -/
def address (r : Request) : Option String :=
  let hop := ((r.headers.first? "x-forwarded-for").bind Headers.readable?).map fun value =>
    Text.trim (value.takeWhile (· != ','))
  match hop with
  | some (c :: cs) => some (String.ofList (c :: cs))
  | _ => r.peer.map Network.Address.write

/-- A validator as it stands in headers. -/
def quoted (tag : String) : String :=
  "\"" ++ tag ++ "\""

/-- Whether a client has a document already: it names any, or this one, strongly or weakly. -/
def isKnown (r : Request) (etag : String) : Bool :=
  let values := (r.headers.all "if-none-match").filterMap Headers.readable?
  (values.flatMap (Text.splitOn ',')).any fun candidate =>
    ["*", etag, "W/" ++ etag].contains (String.ofList (Text.trim candidate))

/-- The response with a document, or without it for a client that has it. -/
def tagged {α : Type} (r : Request) (encode : α → Json) (d : Device.Tagged α) : Response :=
  let etag := quoted d.tag
  if isKnown r etag then { Response.bare .notModified with etag := some etag }
  else { Response.document .ok (encode d.body) with etag := some etag }

/-- How many log entries a request asks for. -/
def history (r : Request) : Handler (Option Int) :=
  match Text.formValues "actionHistory" r.query.toList with
  | [] => pure none
  | [some value] =>
    match Text.signed? (Nat.pow 2 63) value.toList with
    | some n => pure (some n)
    | none => Handler.refuse .badRequest "<bad query>"
  | _ => Handler.refuse .badRequest "<bad query>"

/-- Answers a poll. -/
def poll (settings : TenantSettings) (tenant controller : String) (now : Instant) (r : Request) :
    Handler Response := do
  let answer ← Handler.ofStep .ofDevice (Device.poll settings tenant controller (address r) now)
  pure (tagged r (·.toJson) answer)

/-- Takes the attributes that a device sends. -/
def attributes (tenant controller : String) (now : Instant) (r : Request) : Handler Response := do
  let report ← Handler.body r Deployments.AttributeReport.ofJson?
  let _ ← Handler.transact .ofDevice (Device.configData tenant controller report now)
  pure (.bare .ok)

/-- Takes a report of a device on an action. -/
def feedback (settings : TenantSettings) (tenant controller id : String) (cancel : Bool)
    (now : Instant) (r : Request) : Handler Response := do
  let f ← Handler.body r Feedback.ofJson?
  let id ← Handler.number "action" id
  let _ ← Handler.transact .ofDevice (Device.report settings tenant controller id f cancel now)
  pure (.bare .ok)

/-- Shows a device one of its deployments. -/
def deployment (document : Nat → Option Int → Store → Except Device.Error
    (Device.Tagged Device.DeploymentDocument)) (id : String) (r : Request) : Handler Response := do
  let requested ← history r
  let id ← Handler.number "action" id
  let d ← Handler.look .ofDevice (document id requested)
  pure (tagged r (·.toJson) d)

/-- Shows a device a pending cancellation. -/
def cancellation (tenant controller id : String) (r : Request) : Handler Response := do
  let id ← Handler.number "action" id
  let d ← Handler.look .ofDevice (Device.cancelAction tenant controller id)
  pure (tagged r (·.toJson) d)

/-- Answers a request of a device on one of its actions. -/
def action (settings : TenantSettings) (tenant controller id : String) (now : Instant)
    (r : Request) : DeviceAction → Handler Response
  | .deployment =>
    deployment (fun n requested => Device.deploymentBase tenant controller n requested now) id r
  | .installed =>
    deployment (fun n requested => Device.installedBase tenant controller n requested now) id r
  | .cancellation => cancellation tenant controller id r
  | .deploymentFeedback => feedback settings tenant controller id false now r
  | .cancellationFeedback => feedback settings tenant controller id true now r

end DeviceUpdate.Http.DeviceApi
