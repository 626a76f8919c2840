/-
  TunnelBroker.Forward.Spec — forwards as text: `[local_host:][local_port:]remote_host:remote_port`.

  - `segments`: a text cut at its colons, a segment in brackets taken whole and without them.
  - `Forward.read`: one to four segments make a forward; a lone port is on 127.0.0.1.
  - `Forward.text`: the local side, if it has a port, and the remote side; hosts with a colon in brackets.
-/

import TunnelBroker.Text.Split
import TunnelBroker.Forward.Basic

namespace TunnelBroker

open TunnelBroker.Net (Port)

/-- The segments of a text. -/
def segments (cs : List Char) : Except SpecFault (List (List Char)) :=
  if cs.head? = some '[' then
    match _h : Text.cut? ']' cs.tail with
    | none => .error .unclosedBracket
    | some (inner, []) => .ok [inner]
    | some (inner, c :: rest) => if c = ':' then (segments rest).map (inner :: ·) else .error .missingColon
  else
    match _h : Text.cut? ':' cs with
    | none => .ok [cs]
    | some (segment, rest) => (segments rest).map (segment :: ·)
termination_by cs.length
decreasing_by
  · have := Text.length_lt_of_cut? _h
    simp at this; omega
  · exact Text.length_lt_of_cut? _h

namespace Forward

/-- The port of a segment; the fault says which port it was to be. -/
def readPort (fault : String → SpecFault) (cs : List Char) : Except SpecFault Port :=
  match Text.word16? cs with
  | some port => .ok port
  | none => .error (fault (String.ofList cs))

/-- The forward that the segments make. The remote port is looked at before the local one. -/
def ofSegments : List (List Char) → Except SpecFault Forward
  | [remotePort] => do
    return { remoteHost := defaultRemoteHost, remotePort := ← readPort .badRemotePort remotePort }
  | [remoteHost, remotePort] => do
    return { remoteHost := String.ofList remoteHost, remotePort := ← readPort .badRemotePort remotePort }
  | [localPort, remoteHost, remotePort] => do
    let remotePort ← readPort .badRemotePort remotePort
    let localPort ← readPort .badLocalPort localPort
    return { localPort := some localPort, remoteHost := String.ofList remoteHost, remotePort }
  | [localHost, localPort, remoteHost, remotePort] => do
    let remotePort ← readPort .badRemotePort remotePort
    let localPort ← readPort .badLocalPort localPort
    return ⟨some (String.ofList localHost), some localPort, String.ofList remoteHost, remotePort⟩
  | _ => .error .partCount

/-- The forward that a text denotes. Blanks around the text do not count; an error about brackets shows
the text without them, any other error shows it as it was given. -/
def read (spec : String) : Except ForwardError Forward :=
  let trimmed := Text.trim spec.toList
  match segments trimmed with
  | .error fault => .error (.parse (String.ofList trimmed) fault)
  | .ok parts =>
    match ofSegments parts with
    | .error fault => .error (.parse spec fault)
    | .ok f => if f.remoteHost.isEmpty then .error .emptyRemoteHost else .ok f

/-- A host that holds a colon, in brackets unless it already starts with one. -/
def bracketed (host : String) : List Char :=
  let cs := host.toList
  if cs.contains ':' && cs.head? != some '[' then '[' :: cs ++ [']'] else cs

def remoteChars (f : Forward) : List Char :=
  bracketed f.remoteHost ++ ':' :: Text.digitsOf f.remotePort.toNat

def chars (f : Forward) : List Char :=
  match f.localPort with
  | none => f.remoteChars
  | some port => bracketed f.localHostText ++ ':' :: Text.digitsOf port.toNat ++ ':' :: f.remoteChars

/-- The remote side as `host:port`. -/
def remoteText (f : Forward) : String := String.ofList f.remoteChars

def text (f : Forward) : String := String.ofList f.chars

/-- The local side as `host:port`, for messages; a port that is not given counts as zero. -/
def localText (f : Forward) : String := s!"{f.localHostText}:{(f.localPort.getD 0).toNat}"

end Forward

end TunnelBroker
