import GatewayFeed.Agent.Arguments
import GatewayFeed.Agent.Life
import GatewayFeed.Inspect.Arguments
import GatewayFeed.Json.Printer

/-!
The command line. Without a first word `inspect` the agent is started; then each line of standard
input asks it to read its settings again, and the end of the input ends it. There is no network
here, so no request reaches a control plane or an agent.
-/

namespace GatewayFeed.Main

open Agent

def readFile (path : String) : IO (Option (List UInt8)) := do
  try
    return some (← IO.FS.readBinFile path).toList
  catch _ => return none

/-- Only the file that the settings name is looked at. -/
def filesFor (s : Settings) : IO FileSystem := do
  match s.controlPlane.caCertPath with
  | none => return fun _ => .missing
  | some path =>
    let content ← readFile path
    return fun p =>
      match content with
      | some bytes => if p = path then .content bytes else .missing
      | none => .missing

/-- Shows the lines that were not shown before. -/
def showFrom (shown : Nat) (lines : List Json) : IO Unit :=
  (lines.drop shown).forM fun l => IO.println l.compact

partial def wait (w : Surroundings) (f : Option Log.Filter) (path : String) (p : Life) :
    IO Unit := do
  let line ← (← IO.getStdin).getLine
  let signal := if line.isEmpty then Signal.shutdown else .reload
  let file ← readFile path
  let next := { p with watcher.file := file }.run w false [.signal signal, .poll .never]
  showFrom (p.agent.lines f).length (next.agent.lines f)
  if next.agent.ended then return else wait w f path next

def runAgent (a : Arguments) : IO UInt32 := do
  let password ← IO.getEnv "ADAPTER_CP_PASSWORD"
  let file ← readFile a.config
  match Settings.load file password with
  | .error _ => return 1
  | .ok s =>
    let w : Surroundings := { files := ← filesFor s, server := Fetch.nowhere, password }
    let f := lineFilter? (← IO.getEnv "RUST_LOG") s.observability
    match Life.launch w a.once file with
    | .error _ => return 1
    | .ok p =>
      let p := p.run w a.once [.first .never, .watch]
      showFrom 0 (p.agent.lines f)
      if !p.agent.ended then wait w f a.config p
      return 0

def runInspect (args : List String) : IO UInt32 := do
  match Inspect.Query.ofArguments args with
  | .error e => return e.exitCode.toUInt32
  | .ok q =>
    IO.eprintln ("Error: error sending request for url (" ++ q.target ++ ")")
    return Inspect.unreachableCode.toUInt32

end GatewayFeed.Main

open GatewayFeed in
def main (args : List String) : IO UInt32 :=
  match args with
  | "inspect" :: rest => Main.runInspect rest
  | _ =>
    match Agent.Arguments.parse args with
    | .error e => return e.exitCode.toUInt32
    | .ok a => Main.runAgent a
