import GatewayFeed.Toml.Number
import GatewayFeed.Toml.Tree

/-!
Reading a TOML document: its lines first, then the tables they make together.
-/

namespace GatewayFeed.Toml

namespace Reader

def isBareChar (c : Char) : Bool := c.isAlphanum || c = '-' || c = '_'

/-- One name of a key, bare or quoted. -/
def name : Reader String := do
  let c ← peek
  if c = some '"' || c = some '\'' then line
  else
    match ← span isBareChar with
    | [] => failure
    | cs => return String.ofList cs

/-- Names with dots between them. -/
def names : Nat → Reader (List String)
  | 0 => failure
  | fuel + 1 => do
    blanks
    let n ← name
    blanks
    if ← accept ['.'] then return n :: (← names fuel) else return [n]

/-- Tables and arrays nest less deep than this, and keys have fewer names. -/
def maxDepth : Nat := 80

def key : Reader Key := do
  let ns ← names maxDepth
  match ns.getLast? with
  | some last => if ns.length < maxDepth then return ⟨ns.dropLast, last⟩ else failure
  | none => failure

def scalar : Reader Toml := do
  let c ← peek
  if c = some '"' || c = some '\'' then return .text (← string)
  else if ← accept ['t', 'r', 'u', 'e'] then return .flag true
  else if ← accept ['f', 'a', 'l', 's', 'e'] then return .flag false
  else number

/-- The items of an array after its opening bracket; a comma may follow the last one. -/
def items (item : Reader Toml) : Nat → Reader (List Toml)
  | 0 => failure
  | fuel + 1 => do
    space
    if ← accept [']'] then return []
    else
      let v ← item
      space
      if ← accept [','] then return v :: (← items item fuel)
      else
        expect [']']
        return [v]

/-- A key and a value on one line. -/
def pair (item : Reader Toml) : Reader (Key × Toml) := do
  let k ← key
  expect ['=']
  blanks
  return (k, ← item)

/-- The pairs of an inline table up to its closing brace; no comma may follow the last one. -/
def pairs (item : Reader Toml) : Nat → Reader (List (Key × Toml))
  | 0 => failure
  | fuel + 1 => do
    let p ← pair item
    blanks
    if ← accept [','] then return p :: (← pairs item fuel)
    else
      expect ['\x7d']
      return [p]

def inlineTable (item : Reader Toml) : Reader Toml := do
  blanks
  let found ← if ← accept ['\x7d'] then pure [] else pairs item ((← remaining) + 1)
  match ofPairs found with
  | some t => return t
  | none => failure

/-- A value with at most `depth` arrays and inline tables inside each other. -/
def value : Nat → Reader Toml
  | 0 => scalar
  | depth + 1 => do
    if ← accept ['['] then return .array (← items (value depth) ((← remaining) + 1))
    else if ← accept ['\x7b'] then inlineTable (value depth)
    else scalar

def header : Reader Statement := do
  if ← accept ['[', '['] then
    let k ← key
    expect [']', ']']
    return .element k
  else
    expect ['[']
    let k ← key
    expect [']']
    return .table k

def statement : Reader Statement := do
  let s ← if (← peek) = some '[' then header
    else do
      let (k, v) ← pair (value (maxDepth - 1))
      pure (.pair k v)
  endLine
  return s

def statements : Nat → Reader (List Statement)
  | 0 => failure
  | fuel + 1 => do
    blanks
    match ← peek with
    | none => return []
    | some c =>
      if c = '#' || c = '\n' || c = '\r' then
        endLine
        statements fuel
      else return (← statement) :: (← statements fuel)

end Reader

/-- The members of a document, `none` if the text is no TOML. A mark of the byte order in front of
it is passed over. -/
def parse? (text : String) : Option (List (String × Toml)) :=
  let cs := match text.toList with
    | '\ufeff' :: cs => cs
    | cs => cs
  ((Reader.statements (cs.length + 1)).run' cs).bind ofStatements

end GatewayFeed.Toml
