/-
  TunnelBroker.Api.Respond — the operators' interface as operations of a broker.

  - `respond`: the response to a request. What is wrong with the path comes first, then what is wrong with
    the body, then what the operation says.
  - `answer`: the same for a browser too, if pages of this machine are allowed to ask.
-/

import TunnelBroker.Api.Info
import TunnelBroker.Api.Message
import TunnelBroker.Broker.Lifecycle
import TunnelBroker.Text.Percent

namespace TunnelBroker.Api

open TunnelBroker.Json (Codec)

/-- Goes on with the text of a parameter. -/
def withParam (raw : List Char) (f : String → Operation Response) : Operation Response :=
  match Text.percentDecode? raw with
  | some text => f text
  | none => pure .invalidUrl

def health : Operation Response := do
  let sessions ← .read fun b => b.registry.size
  return .json 200 HealthResponse.json ⟨"healthy", version, UInt64.ofNat sessions⟩

def listSessions : Operation Response := do
  let sessions ← .read fun b => b.known.map SessionInfo.ofSession
  return .json 200 SessionList.json ⟨sessions, UInt64.ofNat sessions.length⟩

def getSession (id : String) : Operation Response := do
  match ← Operation.find id with
  | .error e => return .ofError (.registry e)
  | .ok i => return .json 200 SessionInfo.json (← Operation.look i SessionInfo.ofSession)

/-- Asks a live session to end, or forgets a lost one. -/
def endSession (id : String) : Operation Response := do
  match ← Operation.find id with
  | .error e => return .ofError (.registry e)
  | .ok i =>
    if ← Operation.look i (·.isActive) then
      Operation.cancel i
      return { status := 202 }
    else
      match ← Operation.forget id with
      | .error e => return .ofError e
      | .ok () => return { status := 204 }

/-- The forwards and the list of callers of a request. -/
def readRequest (r : OpenTunnelsRequest) : Except Response (List Forward × Acl) := do
  let forwards ← (r.remotes.mapM Forward.read).mapError fun e => .error 400 "INVALID_TUNNEL_SPEC" e.message
  let acl ← (Acl.read r.acl).mapError fun e => .error 400 "INVALID_ACL" e.message
  return (forwards, acl)

/-- The forwards and the list of callers that a request asks for. -/
def readBody (r : Request) : Except Response (List Forward × Acl) :=
  if !r.hasJson then .error .noJson
  else
    match OpenTunnelsRequest.json.decode r.body with
    | .error failure => .error (.badJson failure)
    | .ok request => readRequest request

def openTunnels (id : String) (r : Request) : Operation Response :=
  match readBody r with
  | .error response => pure response
  | .ok (forwards, acl) => do
    match ← Operation.findActive id with
    | .error e => return .ofError (.registry e)
    | .ok i =>
      match ← Operation.openTunnels i forwards acl with
      | .error e => return .ofError e
      | .ok tunnels => return .json 201 OpenTunnelsResponse.json ⟨tunnels.map .ofTunnel⟩

def closeTunnel (id tunnel : String) : Operation Response := do
  match ← Operation.findActive id with
  | .error e => return .ofError (.registry e)
  | .ok i =>
    match ← Operation.closeTunnel i tunnel with
    | .error e => return .ofError e
    | .ok () => return { status := 204 }

/-- The response of a route to a request with one of its methods. -/
def onRoute (r : Request) : Route → Operation Response
  | .health => health
  | .sessions => listSessions
  | .description => pure { status := 200, body := .description }
  | .session id => withParam id fun id => if r.method == "DELETE" then endSession id else getSession id
  | .tunnels id => withParam id fun id => openTunnels id r
  | .tunnel id tunnel => withParam id fun id => withParam tunnel fun tunnel => closeTunnel id tunnel

/-- The methods of a route, as a header. -/
def allowHeader (route : Route) : List (String × String) := [("allow", ",".intercalate route.methods)]

def respond (r : Request) : Operation Response :=
  match Route.ofPath? r.path with
  | none => pure { status := 404 }
  | some route =>
    if route.methods.contains r.method then do
      let response ← onRoute r route
      return if r.method == "HEAD" then { response with body := .empty } else response
    else pure { status := 405, headers := allowHeader route }

/-! ## Browsers -/

/-- A page of this machine. -/
def isLocalOrigin (origin : String) : Bool :=
  Text.startsWith "http://localhost:".toList origin.toList || Text.startsWith "http://127.0.0.1:".toList origin.toList

/-- The response to a browser that asks first what is allowed. -/
def preflight (r : Request) : Response :=
  { status := 200
    headers := [("access-control-allow-methods", "GET,PUT,DELETE"), ("access-control-allow-headers", "content-type")] ++
      ((Route.ofPath? r.path).map allowHeader).getD [] }

/-- The response to a request; with `cors`, pages of this machine may see it in a browser. -/
def answer (cors : Bool) (r : Request) : Operation Response :=
  if !cors then respond r
  else do
    let response ← if r.method == "OPTIONS" then pure (preflight r) else respond r
    let origin := (r.header? "origin").filter isLocalOrigin
    return { response with headers :=
      response.headers ++ (origin.map fun o => ("access-control-allow-origin", o)).toList }

end TunnelBroker.Api
