/-!
Media types as a `content-type` header gives them: a type, a subtype and parameters, each a name
and a value that may stand in quotes.
-/

namespace GatewayFeed

structure MediaType where
  type : List Char
  subtype : List Char
  parameters : List (List Char × List Char)
  deriving DecidableEq, Repr

namespace MediaType

def isTokenChar (c : Char) : Bool :=
  c.isAlphanum || "!#$%&'*+-.^_\x60|~".toList.contains c

/-- At least one token character, and what follows. -/
def token? (cs : List Char) : Option (List Char × List Char) :=
  match cs.takeWhile isTokenChar with
  | [] => none
  | t => some (t, cs.dropWhile isTokenChar)

def isQuotable (c : Char) : Bool := 0x20 ≤ c.toNat && c.toNat ≠ 0x7F && c ≠ '"'

/-- A quoted value, as it stands between its quotes. -/
def quoted? : List Char → Option (List Char × List Char)
  | [] => none
  | '"' :: rest => some ([], rest)
  | '\\' :: c :: rest =>
    if isQuotable c || c = '"' then (quoted? rest).map fun (v, r) => ('\\' :: c :: v, r) else none
  | c :: rest => if isQuotable c then (quoted? rest).map fun (v, r) => (c :: v, r) else none

def value? (cs : List Char) : Option (List Char × List Char) :=
  match cs with
  | '"' :: rest => (quoted? rest).map fun (v, r) => (v, r.dropWhile (· = ' '))
  | _ => token? cs

/-- Parameters with a semicolon before each; the last one may be missing. -/
def parameters? : Nat → List Char → Option (List (List Char × List Char))
  | 0, _ => none
  | _, [] => some []
  | fuel + 1, ';' :: rest =>
    match rest with
    | [] => some []
    | _ => do
      let (name, rest) ← token? (rest.dropWhile (· = ' '))
      match rest with
      | '=' :: rest =>
        let (value, rest) ← value? rest
        return (name, value) :: (← parameters? fuel rest)
      | _ => none
  | _, _ => none

def parse? (cs : List Char) : Option MediaType := do
  let (type, rest) ← token? cs
  match rest with
  | '/' :: rest =>
    let (subtype, rest) ← token? rest
    return { type, subtype, parameters := ← parameters? (rest.length + 1) rest }
  | _ => none

/-- The names of parameters do not depend on case. -/
def parameter? (m : MediaType) (name : String) : Option (List Char) :=
  (m.parameters.find? fun p => p.1.map Char.toLower = name.toList).map (·.2)

end MediaType

end GatewayFeed
