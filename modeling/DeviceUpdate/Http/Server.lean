import DeviceUpdate.Http.DeviceApi
import DeviceUpdate.Http.ManagementApi

/-! The server: from a request and the store to a response and the new store. -/

namespace DeviceUpdate.Http

/-- Answers a request on a resource that has its method. -/
def handle (settings : Settings) (now : Instant) (r : Request) : Route → Handler Response
  | .poll tenant controller => DeviceApi.poll (settings.tenant tenant) tenant controller now r
  | .attributes tenant controller => DeviceApi.attributes tenant controller now r
  | .device tenant controller id part =>
    DeviceApi.action (settings.tenant tenant) tenant controller id now r part
  | .sets tenant => ManagementApi.createSet tenant now r
  | .set tenant id => ManagementApi.showSet tenant id
  | .targets tenant => ManagementApi.createTarget tenant now r
  | .target tenant controller part =>
    ManagementApi.target (settings.tenant tenant) tenant controller now r part
  | .action tenant id part => ManagementApi.action tenant id now part
  | .rollouts tenant =>
    -- The other method that gets here is the one for reading.
    if r.method = .post then
      ManagementApi.createRollout (settings.tenant tenant) tenant now r
    else ManagementApi.listRollouts tenant
  | .rollout tenant id part => ManagementApi.rollout tenant id now r.method part

/-- The response to a path that spells no text. -/
def unreadablePath (part : String) : Response :=
  .plain .badRequest ("Invalid URL: Invalid UTF-8 in `" ++ part ++ "`")

/-- Answers a request on a resource, unless its names spell no text. -/
def handleRaw (settings : Settings) (now : Instant) (r : Request) (route : Route) :
    Handler Response :=
  match route.decode with
  | .ok route => handle settings now r route
  | .error part => throw (.answered (unreadablePath part))

/-- The response to a client that cannot read JSON. -/
def notAcceptable : Response :=
  .refusal .notAcceptable "only application/json responses are available"

/-- Answers a request on a resource, which must have its method; devices must read JSON. -/
def handleRoute (settings : Settings) (now : Instant) (r : Request) (route : Route) :
    Handler Response :=
  let refused := route.isForDevices && !r.acceptsJson
  if route.methods.contains r.method then
    if refused then throw (.answered notAcceptable) else handleRaw settings now r route
  else
    let response := if refused then notAcceptable else .bare .methodNotAllowed
    throw (.answered { response with allow := route.methods })

/-- Answers a request. -/
def respond (settings : Settings) (now : Instant) (r : Request) : Handler Response :=
  match Route.ofPath? r.path with
  | some route => handleRoute settings now r route
  | none => throw (.answered (.bare .notFound))

/-- The response to a request, unless the program stops, and the store after it. -/
def serve (settings : Settings) (now : Instant) (r : Request) (s : Store) :
    Option Response × Store :=
  let (outcome, s) := (respond settings now r).run s
  let response := match outcome with
    | .ok response | .error (.answered response) => some response
    | .error .stopped => none
  (if r.method = .head then response.map Response.headersOnly else response, s)

end DeviceUpdate.Http
