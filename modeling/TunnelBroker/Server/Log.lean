/-
  TunnelBroker.Server.Log — the lines that a server logs.

  - `Entry.text`: a line as it is shown, without its level.
-/

namespace TunnelBroker.Server

/-- What runs beside the server itself. -/
inductive BackgroundTask where
  | api
  | sweeper
  deriving DecidableEq, Repr

inductive Level where
  | error
  | warn
  | info
  | debug
  | trace
  deriving DecidableEq, Repr

namespace Level

/-- The place of a level among all, the most important one first; a filter that lets nothing through has 0. -/
def rank : Level → Nat
  | .error => 1
  | .warn => 2
  | .info => 3
  | .debug => 4
  | .trace => 5

def text : Level → String
  | .error => "ERROR"
  | .warn => "WARN"
  | .info => "INFO"
  | .debug => "DEBUG"
  | .trace => "TRACE"

end Level

/-- A line of the log. -/
structure Entry where
  level : Level
  source : String
  message : String
  /-- What is told beside the message, by name. -/
  fields : List (String × String) := []
  task : Option BackgroundTask := none
  deriving DecidableEq, Repr

namespace Entry

/-- The message and then the fields. -/
def text (e : Entry) : String := e.message ++ String.join (e.fields.map fun (name, value) => s!" {name}={value}")

/-- Whether the line has the field; each has its message. -/
def has (e : Entry) (field : String) : Bool := field == "message" || e.fields.any (·.1 == field)

end Entry

end TunnelBroker.Server
