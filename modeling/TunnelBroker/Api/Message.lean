/-
  TunnelBroker.Api.Message — requests and responses of the operators' interface.

  - `Route`: what the path of a request names, with its parameters still encoded.
  - `Route.methods`: the methods with which it can be used.
-/

import TunnelBroker.Api.MediaType
import TunnelBroker.Api.Model
import TunnelBroker.Session.Error
import TunnelBroker.Text.Split

namespace TunnelBroker.Api

open TunnelBroker.Json (Codec)

structure Request where
  method : String
  /-- The path, and a query after it; the scheme and the host may stand before. -/
  target : String
  headers : List (String × String) := []
  body : String := ""
  deriving Repr

namespace Request

/-- The characters of a header that can be read: those that ASCII shows, blanks and tabs. -/
def isHeaderChar (c : Char) : Bool := c = '\t' || (32 ≤ c.toNat && c.toNat ≤ 126)

/-- The value of a header, if it can be read. The name is in lower case. -/
def header? (r : Request) (name : String) : Option String :=
  ((r.headers.find? fun h => h.1.toLower == name).map (·.2)).filter fun value => value.toList.all isHeaderChar

/-- A target without the scheme and the host in front of its path, if they are there. -/
def localTarget (target : List Char) : List Char :=
  match Text.cut? ':' target with
  | some (scheme, '/' :: '/' :: rest) =>
    if scheme.contains '/' then target
    else
      match rest.dropWhile fun c => c != '/' && c != '?' && c != '#' with
      | '/' :: path => '/' :: path
      | query => '/' :: query
  | _ => target

/-- The path, without a query. -/
def path (r : Request) : List Char := (localTarget r.target.toList).takeWhile fun c => c != '?' && c != '#'

/-- The type of the body is JSON. -/
def hasJson (r : Request) : Bool := ((r.header? "content-type").bind MediaType.read?).any MediaType.isJson

end Request

inductive Body where
  | empty
  | json (text : String)
  | plain (text : String)
  /-- The description of the whole interface. -/
  | description
  deriving DecidableEq, Repr

structure Response where
  status : Nat
  headers : List (String × String) := []
  body : Body := .empty
  deriving DecidableEq, Repr

namespace Response

def json {α : Type} (status : Nat) (codec : Codec α) (a : α) : Response := { status, body := .json (codec.encode a) }

def error (status : Nat) (code message : String) : Response := json status ErrorResponse.json ⟨message, some code⟩

/-- The response to a request whose operation has failed. -/
def ofError (e : SessionError) : Response :=
  match e with
  | .registry (.notFound _) => error 404 "SESSION_NOT_FOUND" e.message
  | .tunnelNotFound .. => error 404 "TUNNEL_NOT_FOUND" e.message
  | .invalidSpec .. => error 400 "INVALID_TUNNEL_SPEC" e.message
  | .duplicateBinding .. => error 409 "DUPLICATE_BINDING" e.message
  | .sessionActive _ => error 409 "SESSION_ACTIVE" e.message
  | .notConnected _ => error 409 "SESSION_NOT_CONNECTED" e.message
  | .exhausted _ => error 503 "PORT_POOL_EXHAUSTED" e.message
  | .unavailable _ => error 503 "RESOURCE_UNAVAILABLE" e.message
  | .bind .. => error 500 "BIND_FAILED" e.message
  | .registry (.storage _) => error 500 "STORAGE_ERROR" e.message

def invalidUrl : Response := { status := 400, body := .plain "Invalid URL" }

def noJson : Response := { status := 415, body := .plain "Expected request with `Content-Type: application/json`" }

/-- The response to a body that is not the JSON of what is expected. -/
def badJson : Json.Failure → Response
  | .unfit => { status := 422, body := .plain "Failed to deserialize the JSON body into the target type" }
  | _ => { status := 400, body := .plain "Failed to parse the request body as JSON" }

end Response

inductive Route where
  | health
  | sessions
  | session (id : List Char)
  | tunnels (id : List Char)
  | tunnel (id tunnel : List Char)
  | description
  deriving DecidableEq, Repr

namespace Route

/-- What a path names. A parameter at its end is not empty. -/
def ofPath? (path : List Char) : Option Route :=
  match (Text.cutAll '/' path).map String.ofList with
  | ["", "api", "health"] => some .health
  | ["", "api", "openapi.json"] => some .description
  | ["", "api", "sessions"] => some .sessions
  | ["", "api", "sessions", id] => if id.isEmpty then none else some (.session id.toList)
  | ["", "api", "sessions", id, "tunnels"] => some (.tunnels id.toList)
  | ["", "api", "sessions", id, "tunnels", name] =>
    if name.isEmpty then none else some (.tunnel id.toList name.toList)
  | _ => none

/-- The methods of a route; what can be read can be asked for without its body too. -/
def methods : Route → List String
  | .session _ => ["GET", "HEAD", "DELETE"]
  | .tunnels _ => ["PUT"]
  | .tunnel .. => ["DELETE"]
  | _ => ["GET", "HEAD"]

end Route

/-- The description of the interface: its name and version, the methods of its paths, and its types. -/
structure Description where
  title : String
  version : String
  paths : List (String × List String)
  schemas : List String
  deriving Repr

def version : String := "0.1.0"

def description : Description where
  title := "Burrow API"
  version := version
  paths := [
    ("/api/health", ["get"]),
    ("/api/sessions", ["get"]),
    ("/api/sessions/\x7bid\x7d", ["delete", "get"]),
    ("/api/sessions/\x7bid\x7d/tunnels", ["put"]),
    ("/api/sessions/\x7bid\x7d/tunnels/\x7btunnel_id\x7d", ["delete"])]
  schemas := ["ErrorResponse", "HealthResponse", "OpenTunnelsRequest", "OpenTunnelsResponse", "SessionInfo",
    "SessionList", "SessionStatus", "TunnelInfo"]

end TunnelBroker.Api
