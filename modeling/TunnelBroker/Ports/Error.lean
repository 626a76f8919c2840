/-
  TunnelBroker.Ports.Error — what can go wrong with ports: a bad pool, no free port, or no answer about
  which ports are in use.
-/

namespace TunnelBroker.Ports

/-- What is wrong with the text of a pool. -/
inductive PoolFault where
  | notAPort (text : String)
  | zeroPort
  | reversed
  | nothingLeft
  | badRange
  deriving DecidableEq, Repr

inductive PortError where
  | exhausted (poolSize : Nat)
  | unavailable (reason : String)
  | invalidSpec (spec reason : String)
  deriving DecidableEq, Repr

def PoolFault.message : PoolFault → String
  | .notAPort text => s!"'{text}' is not a port number"
  | .zeroPort => "port 0 is not allowed"
  | .reversed => "start port must not exceed end port"
  | .nothingLeft => "no ports left after exclusions"
  | .badRange => "range must be non-empty and start above 0"

def PortError.message : PortError → String
  | .exhausted poolSize => s!"No free port left in pool of {poolSize} ports"
  | .unavailable reason => s!"Port occupancy source unavailable: {reason}"
  | .invalidSpec spec reason => s!"Invalid port specification '{spec}': {reason}"

def PoolFault.inSpec (fault : PoolFault) (spec : String) : PortError := .invalidSpec spec fault.message

end TunnelBroker.Ports
