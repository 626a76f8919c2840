/-
  TunnelBroker.Forward.Basic — what a client asks to be forwarded.

  A `Forward` maps an endpoint that the client can reach (`remoteHost:remotePort`) to a listening
  endpoint of the server (`localHost:localPort`). The local side may be left to the server.

  - `Forward.validate`: the forward is complete enough to listen and to relay.
  - `Forward.collides`: two local bindings cannot exist at the same time on one machine.
-/

import TunnelBroker.Text.Blank
import TunnelBroker.Net.Endpoint

namespace TunnelBroker

open TunnelBroker.Net (IpAddr Endpoint Port)

structure Forward where
  localHost : Option String := none
  localPort : Option Port := none
  remoteHost : String
  remotePort : Port
  deriving DecidableEq, Repr, Inhabited

/-- What is wrong with the text of a forward. -/
inductive SpecFault where
  | unclosedBracket
  | missingColon
  | badRemotePort (text : String)
  | badLocalPort (text : String)
  | partCount
  deriving DecidableEq, Repr

inductive ForwardError where
  | parse (spec : String) (fault : SpecFault)
  | emptyRemoteHost
  | zeroRemotePort
  | missingLocalPort
  | zeroLocalPort
  | invalidLocalHost (host : String)
  deriving DecidableEq, Repr

def SpecFault.message : SpecFault → String
  | .unclosedBracket => "unclosed '['"
  | .missingColon => "expected ':' after ']'"
  | .badRemotePort text => s!"invalid remote port: '{text}'"
  | .badLocalPort text => s!"invalid local port: '{text}'"
  | .partCount => "expected [local_host:][local_port:]remote_host:remote_port"

def ForwardError.message : ForwardError → String
  | .parse spec fault => s!"Invalid forward specification '{spec}': {fault.message}"
  | .emptyRemoteHost => "Remote host cannot be empty"
  | .zeroRemotePort => "Remote port cannot be 0"
  | .missingLocalPort => "Local port is not assigned"
  | .zeroLocalPort => "Local port cannot be 0"
  | .invalidLocalHost host => s!"Local host must be an IP address, got '{host}'"

namespace Forward

/-- The local host of a forward that names none. -/
def allInterfaces : String := "0.0.0.0"

/-- The remote host of a forward that only names a port. -/
def defaultRemoteHost : String := "127.0.0.1"

/-- The forward with its local side pinned to a host and a port. -/
def withLocal (f : Forward) (host : String) (port : Port) : Forward :=
  { f with localHost := some host, localPort := some port }

/-- The client asked for a local port of its own choice. -/
def isLocalGiven (f : Forward) : Bool := f.localPort.isSome

def localHostText (f : Forward) : String := f.localHost.getD allInterfaces

/-- A host without the brackets at its ends. -/
def unbracket (host : List Char) : List Char :=
  ((host.dropWhile (· = '[')).reverse.dropWhile (· = ']')).reverse

/-- The address to listen on: all interfaces where no host is given. -/
def localIp (f : Forward) : Except ForwardError IpAddr :=
  match f.localHost with
  | none => .ok (.v4 0)
  | some host =>
    match IpAddr.read? (unbracket host.toList) with
    | some ip => .ok ip
    | none => .error (.invalidLocalHost host)

/-- The endpoint to listen on. -/
def localEndpoint (f : Forward) : Except ForwardError Endpoint :=
  match f.localPort with
  | none => .error .missingLocalPort
  | some port => f.localIp.map fun ip => { ip, port }

/-- The forward has a remote side to reach and a local side to listen on. -/
def validate (f : Forward) : Except ForwardError Unit :=
  if (Text.trim f.remoteHost.toList).isEmpty then .error .emptyRemoteHost
  else if f.remotePort = 0 then .error .zeroRemotePort
  else
    match f.localPort with
    | none => .error .missingLocalPort
    | some port => if port = 0 then .error .zeroLocalPort else f.localIp.map fun _ => ()

/-- The local sides have the same port and the same address, or an address that stands for all
interfaces. Hosts that are not addresses are compared as texts. -/
def collides (f g : Forward) : Bool :=
  f.localPort.isSome && f.localPort == g.localPort &&
    match f.localIp, g.localIp with
    | .ok a, .ok b => a == b || a.isUnspecified || b.isUnspecified
    | _, _ => f.localHostText == g.localHostText

end Forward

end TunnelBroker
