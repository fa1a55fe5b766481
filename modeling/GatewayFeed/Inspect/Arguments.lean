import GatewayFeed.CommandLine
import GatewayFeed.Inspect.Command

/-!
Reading a question from the command line: options first, then a command and what it takes. An option
is settled when the next one begins or the line ends, and a fault of the command comes before one of
the options.
-/

namespace GatewayFeed.Inspect

/-- The failure of a question that nobody answers. -/
def unreachableCode : Nat := 1

namespace Arguments

open CommandLine

inductive Setting where
  | url
  | key
  deriving DecidableEq, Repr

def Setting.ofLong? (name : List Char) : Option Setting :=
  if name = "url".toList then some .url
  else if name = "key".toList then some .key
  else none

def Setting.ofShort? (c : Char) : Option Setting :=
  if c = 'u' then some .url
  else if c = 'k' then some .key
  else none

/-- The options so far. `last` is an option that was met and not settled yet, with its value if that
has come. -/
structure Given where
  url : Option String := none
  key : Option String := none
  last : Option (Setting × Option String) := none
  deriving DecidableEq, Repr

namespace Given

def value? (g : Given) : Setting → Option String
  | .url => g.url
  | .key => g.key

def put (g : Given) (s : Setting) (v : String) : Given :=
  match s with
  | .url => { g with url := some v }
  | .key => { g with key := some v }

/-- An option counts once. -/
def add (g : Given) (s : Setting) (v : String) : Except UsageError Given :=
  if (g.value? s).isSome then .error .argumentConflict else .ok (g.put s v)

/-- An option without its value is none. -/
def settle (g : Given) : Except UsageError Given :=
  match g.last with
  | none => .ok g
  | some (_, none) => .error .invalidValue
  | some (s, some v) => { g with last := none }.add s v

/-- Whether the next word is a value. -/
def awaits (g : Given) : Bool :=
  match g.last with
  | some (_, none) => true
  | _ => false

/-- Whether there is nothing at all. -/
def isEmpty (g : Given) : Bool := g.url.isNone && g.key.isNone && g.last.isNone

/-- An option, with its value if both are one argument. -/
def option (g : Given) (s : Setting) (value : Option (List Char)) : Except UsageError Given := do
  let g ← g.settle
  match value with
  | some v => g.add s (String.ofList v)
  | none => return { g with last := some (s, none) }

/-- The value of the option that awaits one. -/
def supply (g : Given) (v : String) : Given :=
  { g with last := g.last.map fun (s, _) => (s, some v) }

end Given

def commandNames : List String := ["status", "ready", "snapshot", "collection", "help"]

/-- A command that takes nothing. -/
def bare (c : Command) : List String → Except UsageError Command
  | [] => .ok c
  | a :: rest =>
    match Token.ofChars a.toList with
    | .escape => if rest.isEmpty then .ok c else .error .unknownArgument
    | t => .error (onlyHelp t)

/-- The kind of a collection. After `--` every argument is a word. -/
def kind (escaped : Bool) (seen : Option String) : List String → Except UsageError Command
  | [] =>
    match seen with
    | some k => .ok (.collection k)
    | none => .error .missingArgument
  | a :: rest =>
    let t := if escaped then .word else Token.ofChars a.toList
    match t, seen with
    | .escape, _ => kind true seen rest
    | .word, none => kind escaped (some a) rest
    | t, _ => .error (onlyHelp t)

/-- Help on a command, or on help. -/
def helpOn : List String → UsageError
  | [] => .help
  | [a] => if commandNames.contains a then .help else .invalidSubcommand
  | _ => .invalidSubcommand

def command (name : String) (rest : List String) : Except UsageError Command :=
  match name with
  | "status" => bare .status rest
  | "ready" => bare .ready rest
  | "snapshot" => bare .snapshot rest
  | "collection" => kind false none rest
  | _ => .error (helpOn rest)

def defaultUrl : String := "http://127.0.0.1:9095"

def defaultKey : String := "CHANGE_ME_IN_PRODUCTION"

def Given.query (g : Given) (c : Command) : Query :=
  { url := g.url.getD defaultUrl, key := g.key.getD defaultKey, command := c }

/-- A line that ends without a command. -/
def withoutCommand (g : Given) : UsageError :=
  match g.settle with
  | .error e => e
  | .ok _ => if g.isEmpty then .helpOnEmpty else .missingSubcommand

/-- After `--` nothing can be a command. -/
def afterEscape (g : Given) : List String → UsageError
  | [] => withoutCommand g
  | a :: _ => if commandNames.contains a then .unknownArgument else .invalidSubcommand

def options (g : Given) : List String → Except UsageError Query
  | [] => .error (withoutCommand g)
  | a :: rest =>
    if !g.awaits && commandNames.contains a then do
      let c ← command a rest
      return (← g.settle).query c
    else
      match Token.ofChars a.toList with
      | .escape => .error (afterEscape g rest)
      | .long name value =>
        if name = "help".toList then
          match value with
          | some _ => .error .tooManyValues
          | none => do
            let _ ← g.settle
            throw .help
        else
          match Setting.ofLong? name with
          | some s => do options (← g.option s value) rest
          | none => .error .unknownArgument
      | .short c cs =>
        if c = 'h' then do
          let _ ← g.settle
          throw .help
        else
          match Setting.ofShort? c with
          | some s => do options (← g.option s (attached? cs)) rest
          | none => .error .unknownArgument
      | .word => if g.awaits then options (g.supply a) rest else .error .invalidSubcommand

end Arguments

/-- The question that the arguments put. -/
def Query.ofArguments (args : List String) : Except UsageError Query := Arguments.options {} args

end GatewayFeed.Inspect
