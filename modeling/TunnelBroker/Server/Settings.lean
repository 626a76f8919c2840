/-
  TunnelBroker.Server.Settings — what the command line and the environment say about a server.

  The words of the command line are read one after the other, and the first one that ends the reading
  decides how it ends: with the help, the version, or a refusal. A setting is given once, lists of ports as
  often as one likes. What the command line leaves open is taken from the environment, then from the defaults.

  - `Given.read`: what the command line says.
  - `Settings.read`: the settings of a server.
-/

import TunnelBroker.Net.Endpoint
import TunnelBroker.Text.Split

namespace TunnelBroker.Server

open TunnelBroker.Net (Endpoint)

structure Settings where
  /-- Where the API for operators listens. -/
  apiAddress : Endpoint := ⟨.v4 0x7f000001, 3080, 0⟩
  usedPorts : List String := ["20000-30000"]
  excludedPorts : List String := ["1-1024"]
  /-- For how many seconds lost sessions are kept. -/
  keepLost : Option Nat := none
  /-- How many seconds there are between two sweeps. -/
  cleanupInterval : Nat := 60
  /-- For how many seconds an answer about busy ports is waited for. -/
  refreshTimeout : Nat := 5
  databaseUrl : String := "sqlite::memory:"
  logLevel : String := "info"
  withApi : Bool := true
  deriving DecidableEq, Repr

/-- How the reading of a command line ends where no server is to run. -/
inductive Ending where
  | help
  | version
  | refused
  deriving DecidableEq, Repr

namespace Ending

def exitCode : Ending → Nat
  | .help => 0
  | .version => 0
  | .refused => 2

/-- What is shown in place of a server. -/
def text : Ending → String
  | .help => "Run the burrow session server\n\nUsage: burrow [OPTIONS]\n\nOptions:
      --api-addr <API_ADDR>
      --used-ports <USED_PORTS>
      --excluded-ports <EXCLUDED_PORTS>
      --keep-lost-clients <SECONDS>
      --cleanup-interval <SECONDS>
      --refresh-timeout <SECONDS>
      --database-url <DATABASE_URL>
      --log-level <LOG_LEVEL>
      --no-api
  -h, --help
  -V, --version"
  | .version => "burrow 0.1.0"
  | .refused => "error: the command line cannot be read; for more information, try '--help'"

end Ending

/-! ## The command line -/

/-- The settings that have a value on the command line. -/
inductive Setting where
  | apiAddress
  | usedPorts
  | excludedPorts
  | keepLost
  | cleanupInterval
  | refreshTimeout
  | databaseUrl
  | logLevel
  deriving DecidableEq, Repr

def Setting.ofName? : String → Option Setting
  | "api-addr" => some .apiAddress
  | "used-ports" => some .usedPorts
  | "excluded-ports" => some .excludedPorts
  | "keep-lost-clients" => some .keepLost
  | "cleanup-interval" => some .cleanupInterval
  | "refresh-timeout" => some .refreshTimeout
  | "database-url" => some .databaseUrl
  | "log-level" => some .logLevel
  | _ => none

/-- A word of the command line. -/
inductive Word where
  | help
  | version
  | noApi
  | setting (s : Setting) (value : Option String)
  | endOfOptions
  | unknown
  deriving DecidableEq, Repr

/-- What a word means. Of several letters after one dash the first one counts. -/
def Word.ofText (text : String) : Word :=
  match text.toList with
  | ['-', '-'] => .endOfOptions
  | '-' :: '-' :: body =>
    let (name, value) := match Text.cut? '=' body with
      | none => (body, none)
      | some (name, value) => (name, some (String.ofList value))
    match String.ofList name, value with
    | "help", none => .help
    | "version", none => .version
    | "no-api", none => .noApi
    | name, value =>
      match Setting.ofName? name with
      | some s => .setting s value
      | none => .unknown
  | '-' :: 'h' :: _ => .help
  | '-' :: 'V' :: _ => .version
  | _ => .unknown

/-- Whether a word can be the value of the setting before it: a dash begins the values of none. -/
def isValue (text : String) : Bool :=
  match text.toList with
  | '-' :: _ :: _ => false
  | _ => true

/-- What a command line gives. -/
structure Given where
  apiAddress : Option Endpoint := none
  usedPorts : List String := []
  excludedPorts : List String := []
  keepLost : Option Nat := none
  cleanupInterval : Option Nat := none
  refreshTimeout : Option Nat := none
  databaseUrl : Option String := none
  logLevel : Option String := none
  noApi : Bool := false
  deriving DecidableEq, Repr

/-- A number of seconds. -/
def seconds? (text : String) : Option Nat := Text.unsigned? 18446744073709551615 text.toList

/-- A number of seconds, at least one. -/
def positiveSeconds? (text : String) : Option Nat := (seconds? text).filter (1 ≤ ·)

/-- The parts of a value between commas. -/
def listed (text : String) : List String := (Text.cutAll ',' text.toList).map String.ofList

namespace Given

/-- A value for a place that is still free. -/
def once {α : Type} (place : Option α) (value : Option α) : Option (Option α) :=
  match place with
  | none => value.map some
  | some _ => none

/-- Gives a setting its value, unless it has one or the value does not fit. -/
def set (g : Given) (s : Setting) (value : String) : Option Given :=
  match s with
  | .apiAddress => (once g.apiAddress (Endpoint.read? value.toList)).map fun a => { g with apiAddress := a }
  | .usedPorts => some { g with usedPorts := g.usedPorts ++ listed value }
  | .excludedPorts => some { g with excludedPorts := g.excludedPorts ++ listed value }
  | .keepLost => (once g.keepLost (seconds? value)).map fun n => { g with keepLost := n }
  | .cleanupInterval => (once g.cleanupInterval (positiveSeconds? value)).map fun n => { g with cleanupInterval := n }
  | .refreshTimeout => (once g.refreshTimeout (positiveSeconds? value)).map fun n => { g with refreshTimeout := n }
  | .databaseUrl => (once g.databaseUrl (some value)).map fun url => { g with databaseUrl := url }
  | .logLevel => (once g.logLevel (some value)).map fun level => { g with logLevel := level }

/-- Reads the words of a command line. -/
def read : List String → Given → Except Ending Given
  | [], g => .ok g
  | word :: rest, g =>
    match Word.ofText word with
    | .help => .error .help
    | .version => .error .version
    | .noApi => if g.noApi then .error .refused else read rest { g with noApi := true }
    | .setting s (some value) =>
      match g.set s value with
      | some g => read rest g
      | none => .error .refused
    | .setting s none =>
      match rest with
      | [] => .error .refused
      | value :: rest =>
        if isValue value then
          match g.set s value with
          | some g => read rest g
          | none => .error .refused
        else .error .refused
    | .endOfOptions => if rest.isEmpty then .ok g else .error .refused
    | .unknown => .error .refused

end Given

/-! ## The settings -/

namespace Settings

/-- The settings of a server with this command line and these variables in its environment. -/
def read (arguments : List String) (environment : String → Option String) : Except Ending Settings := do
  let g ← Given.read arguments {}
  let apiAddress ← match g.apiAddress, environment "BURROW_API_ADDR" with
    | some address, _ => .ok (some address)
    | none, none => .ok none
    | none, some text =>
      match Endpoint.read? text.toList with
      | some address => .ok (some address)
      | none => .error .refused
  let d : Settings := {}
  return {
    apiAddress := apiAddress.getD d.apiAddress
    usedPorts := if g.usedPorts.isEmpty then d.usedPorts else g.usedPorts
    excludedPorts := if g.excludedPorts.isEmpty then d.excludedPorts else g.excludedPorts
    keepLost := g.keepLost
    cleanupInterval := g.cleanupInterval.getD d.cleanupInterval
    refreshTimeout := g.refreshTimeout.getD d.refreshTimeout
    databaseUrl := (g.databaseUrl <|> environment "DATABASE_URL").getD d.databaseUrl
    logLevel := g.logLevel.getD d.logLevel
    withApi := !g.noApi }

end Settings

end TunnelBroker.Server
