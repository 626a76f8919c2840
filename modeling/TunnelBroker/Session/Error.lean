/-
  TunnelBroker.Session.Error — why an operation on sessions and tunnels fails.
-/

import TunnelBroker.Forward.Spec
import TunnelBroker.Ports.Error

namespace TunnelBroker

open TunnelBroker.Ports (PortError)

/-- Failures of the registry of sessions and of the store behind it. -/
inductive RegistryError where
  | notFound (id : String)
  | storage (reason : String)
  deriving DecidableEq, Repr

inductive SessionError where
  | exhausted (poolSize : Nat)
  | unavailable (reason : String)
  | invalidSpec (spec reason : String)
  | duplicateBinding (endpoint tunnel : String)
  | notConnected (session : String)
  | bind (address reason : String)
  | tunnelNotFound (session tunnel : String)
  | sessionActive (session : String)
  | registry (error : RegistryError)
  deriving DecidableEq, Repr

def RegistryError.message : RegistryError → String
  | .notFound id => s!"Session not found: {id}"
  | .storage reason => s!"Session storage error: {reason}"

namespace SessionError

def message : SessionError → String
  | .exhausted poolSize => s!"No free port left in pool of {poolSize} ports"
  | .unavailable reason => s!"Port occupancy source unavailable: {reason}"
  | .invalidSpec spec reason => s!"Invalid tunnel specification '{spec}': {reason}"
  | .duplicateBinding endpoint tunnel => s!"Local endpoint {endpoint} is already used by tunnel {tunnel}"
  | .notConnected session => s!"Session {session} is not connected"
  | .bind address reason => s!"Failed to bind to {address}: {reason}"
  | .tunnelNotFound session tunnel => s!"Tunnel {tunnel} not found in session {session}"
  | .sessionActive session => s!"Session {session} is still active"
  | .registry error => error.message

/-- Something was looked up that does not exist. -/
def isNotFound : SessionError → Bool
  | .registry (.notFound _) => true
  | .tunnelNotFound .. => true
  | _ => false

def ofPort : PortError → SessionError
  | .exhausted poolSize => .exhausted poolSize
  | .unavailable reason => .unavailable reason
  | .invalidSpec spec reason => .invalidSpec spec reason

/-- The forward cannot be opened because of `error`. -/
def ofForward (f : Forward) (error : ForwardError) : SessionError := .invalidSpec f.text error.message

end SessionError

end TunnelBroker
