/-
  TunnelBroker.Main — the command line of the server.

  The server runs until its input ends. Lines of the log go to its output, and the reason for which it could
  not run to where errors go.
-/

import TunnelBroker.Server.Run

namespace TunnelBroker.Server

/-- The names of the variables that a server looks at. -/
def variableNames : List String := ["BURROW_API_ADDR", "DATABASE_URL", "RUST_LOG"]

def printEntries (entries : List Entry) : IO Unit :=
  entries.forM fun e => IO.println s!"{e.level.text} {e.source}: {e.text}"

/-- Waits for the end of the input. -/
partial def waitForEnd (input : IO.FS.Stream) : IO Unit := do
  if !(← input.getLine).isEmpty then waitForEnd input

def printReport (r : Report) : IO UInt32 := do
  printEntries r.started
  match r.failure with
  | some failure =>
    IO.eprintln s!"Error: {failure.message}"
    failure.causes.forM fun cause => IO.eprintln s!"Caused by: {cause}"
  | none =>
    waitForEnd (← IO.getStdin)
    printEntries r.stopped
  return r.exitCode.toUInt32

end TunnelBroker.Server

open TunnelBroker.Server in
/-- Runs a server. -/
def main (args : List String) : IO UInt32 := do
  let values ← variableNames.mapM fun name => return (name, ← IO.getEnv name)
  let around : Surroundings := { environment := fun name => (values.lookup name).join }
  match Settings.read args around.environment with
  | .ok settings => printReport (run settings around)
  | .error ending =>
    if ending = .refused then IO.eprintln ending.text else IO.println ending.text
    return ending.exitCode.toUInt32
