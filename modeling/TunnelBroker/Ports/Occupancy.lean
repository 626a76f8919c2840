/-
  TunnelBroker.Ports.Occupancy — who knows which ports are in use.

  - `Occupancy`: a list kept elsewhere, a probe that tries to listen on each port, or a source that gives
    the same answer whatever it is asked.
  - `Occupancy.ask`: its answer about some ports. It may name other ports, fail, break down or take too long.
-/

import TunnelBroker.Net.Listen
import TunnelBroker.Ports.Error

namespace TunnelBroker.Ports

open TunnelBroker.Net (Port IpAddr Endpoint ListenError)

/-- What comes of asking which ports are busy. -/
inductive Answer where
  | busy (ports : List Port)
  | failed (error : PortError)
  /-- The task that was to answer broke down. -/
  | brokeDown (task : Nat) (complaint : String)
  | timedOut
  deriving DecidableEq, Repr

inductive Occupancy where
  /-- The ports of a list are busy. -/
  | listed (ports : List Port)
  /-- The ports on which one cannot listen at an address are busy. -/
  | probe (ip : IpAddr)
  | constant (answer : Answer)
  deriving Repr, Inhabited

/-- The answer of a probe: a port that is taken or denied is busy, any other trouble ends the probe. -/
def probe (listen : Endpoint → Except ListenError Unit) (ip : IpAddr) : List Port → Answer
  | [] => .busy []
  | port :: rest =>
    match listen ⟨ip, port, 0⟩ with
    | .ok () => probe listen ip rest
    | .error e =>
      if e = .inUse ∨ e = .denied then
        match probe listen ip rest with
        | .busy ports => .busy (port :: ports)
        | other => other
      else .failed (.unavailable s!"probing {ip.text}:{port.toNat} failed: {e.message}")

/-- The answer about the candidates on a host where `listen` says what one can listen on. -/
def Occupancy.ask (listen : Endpoint → Except ListenError Unit) (candidates : List Port) : Occupancy → Answer
  | .listed ports => .busy (candidates.filter ports.contains)
  | .probe ip => Ports.probe listen ip candidates
  | .constant answer => answer

end TunnelBroker.Ports
