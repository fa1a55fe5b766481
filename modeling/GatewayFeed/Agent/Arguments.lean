import GatewayFeed.CommandLine

/-!
How the agent is started: with the path of its settings, and perhaps for a single cycle.
-/

namespace GatewayFeed.Agent

structure Arguments where
  config : String := "adapter.toml"
  once : Bool := false
  deriving DecidableEq, Repr

namespace Arguments

open CommandLine

/-- The options so far. `last` is a path option that was met and not settled yet, with its value if
that has come. -/
structure Given where
  config : Option String := none
  once : Bool := false
  last : Option (Option String) := none
  deriving DecidableEq, Repr

namespace Given

/-- The path is given once. -/
def add (g : Given) (path : String) : Except UsageError Given :=
  if g.config.isSome then .error .argumentConflict else .ok { g with config := some path }

def settle (g : Given) : Except UsageError Given :=
  match g.last with
  | none => .ok g
  | some none => .error .invalidValue
  | some (some path) => { g with last := none }.add path

def option (g : Given) (value : Option (List Char)) : Except UsageError Given := do
  let g ← g.settle
  match value with
  | some v => g.add (String.ofList v)
  | none => return { g with last := some none }

def single (g : Given) : Except UsageError Given := do
  let g ← g.settle
  if g.once then throw .argumentConflict else return { g with once := true }

def arguments (g : Given) : Except UsageError Arguments := do
  let g ← g.settle
  return { config := g.config.getD "adapter.toml", once := g.once }

end Given

/-- An option other than the path, or a fault. -/
def other (g : Given) (t : Token) : Except UsageError Given := do
  match t with
  | .long name none =>
    if name = "once".toList then g.single
    else if name = "help".toList then
      let _ ← g.settle
      throw .help
    else throw .unknownArgument
  | .long name (some _) => if name = "once".toList then throw .tooManyValues else throw (onlyHelp t)
  | .short 'h' _ =>
    let _ ← g.settle
    throw .help
  | _ => throw .unknownArgument

def options (g : Given) : List String → Except UsageError Arguments
  | [] => g.arguments
  | a :: rest =>
    match Token.ofChars a.toList with
    | .escape => if rest.isEmpty then g.arguments else .error .unknownArgument
    | .word =>
      if g.last = some none then options { g with last := some (some a) } rest
      else .error .unknownArgument
    | .short c cs => do
      options (← if c = 'c' then g.option (attached? cs) else other g (.short c cs)) rest
    | .long name value => do
      options (← if name = "config".toList then g.option value else other g (.long name value)) rest

end Arguments

def Arguments.parse (args : List String) : Except UsageError Arguments := Arguments.options {} args

end GatewayFeed.Agent
