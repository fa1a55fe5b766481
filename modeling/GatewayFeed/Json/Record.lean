import GatewayFeed.Json.Skip

/-!
Typed reading. A record is given by its shape, a list of fields with a key each, and comes as an
object with the fields' keys or as an array of their values in the order of the fields. Unknown
members of an object are passed over, a repeated one is refused.
-/

namespace GatewayFeed

/-- A named value of a record, of a type that `τ` describes. -/
structure Field (τ : Type) where
  key : String
  type : τ
  deriving DecidableEq, Repr

/-- With `partialArray` the array form may leave out the last fields. -/
structure Shape (τ : Type) where
  name : String
  fields : List (Field τ)
  partialArray : Bool
  deriving DecidableEq, Repr

def Shape.field? {τ : Type} (s : Shape τ) (key : String) : Option (Field τ) :=
  s.fields.find? (·.key = key)

/-- The values of a record by key, in the order in which they were met. -/
abbrev Record (ν : Type) := List (String × ν)

def Record.has {ν : Type} (r : Record ν) (key : String) : Bool := r.any (·.1 = key)

namespace Json.Reader

variable {α τ ν : Type}

/-- What stands in the input instead of a value of the expected type. -/
def found : Reader Found := do
  match ← peek with
  | none => malformed .expectedValue
  | some b =>
    if b = 'n'.toUInt8 then
      skip
      word ['u', 'l', 'l']
      return .null
    else if b = 't'.toUInt8 then
      skip
      word ['r', 'u', 'e']
      return .flag true
    else if b = 'f'.toUInt8 then
      skip
      word ['a', 'l', 's', 'e']
      return .flag false
    else if b = '-'.toUInt8 || isDigit b then return (← number).found
    else if b = '"'.toUInt8 then
      skip
      return .text (← string)
    else if b = '['.toUInt8 then return .sequence
    else if b = 0x7B then return .map
    else malformed .expectedValue

def wrongType (e : Expected) : Reader α := do
  mismatch (.wrongType (← found) e)

/-- The first byte of a value. -/
def valueStart : Reader UInt8 := do
  match ← peekToken with
  | none => unfinished .value
  | some b => return b

/-- An integer from `low` to `high`. -/
def integer (e : Expected) (low high : Int) : Reader Int := do
  let b ← valueStart
  if b = '-'.toUInt8 || isDigit b then
    match ← number with
    | .integer n => if low ≤ n ∧ n ≤ high then return n else mismatch (.wrongValue n e)
    | n => mismatch (.wrongType n.found e)
  else wrongType e

def int64 : Reader Int64 := do
  return Int64.ofInt (← integer .int64 (-0x8000000000000000) 0x7FFFFFFFFFFFFFFF)

def int32 : Reader Int32 := do
  return Int32.ofInt (← integer .int32 (-0x80000000) 0x7FFFFFFF)

def text : Reader String := do
  if (← valueStart) = '"'.toUInt8 then
    skip
    string
  else wrongType .text

def flag : Reader Bool := do
  let b ← valueStart
  if b = 't'.toUInt8 then
    skip
    word ['r', 'u', 'e']
    return true
  else if b = 'f'.toUInt8 then
    skip
    word ['a', 'l', 's', 'e']
    return false
  else wrongType .flag

/-- `null`, or a value. -/
def nullable (value : Reader α) : Reader (Option α) := do
  if (← peekToken) = some 'n'.toUInt8 then
    skip
    word ['u', 'l', 'l']
    return none
  else return some (← value)

def items (item : Reader α) : Nat → Bool → Reader (List α)
  | 0, _ => unfinished .list
  | fuel + 1, first => do
    if ← moreItems first then
      let x ← item
      return x :: (← items item fuel false)
    else return []

def list (item : Reader α) : Reader (List α) := do
  if (← valueStart) = '['.toUInt8 then
    skip
    let xs ← items item ((← remaining) + 1) true
    endList
    return xs
  else wrongType .sequence

def entries (value : Reader α) : Nat → Bool → Reader (List (String × α))
  | 0, _ => unfinished .object
  | fuel + 1, first => do
    if ← moreMembers first then
      let key ← string
      colon
      let v ← value
      return (key, v) :: (← entries value fuel false)
    else return []

/-- All members of an object, whatever their keys. -/
def map (value : Reader α) : Reader (List (String × α)) := do
  if (← valueStart) = 0x7B then
    skip
    entries value ((← remaining) + 1) true
  else wrongType .map

def members (shape : Shape τ) (value : τ → Reader ν) : Nat → Bool → Record ν → Reader (Record ν)
  | 0, _, _ => unfinished .object
  | fuel + 1, first, seen => do
    if ← moreMembers first then
      let key ← string
      match shape.field? key with
      | some f =>
        if seen.has key then mismatch (.duplicateField key)
        else
          colon
          let v ← value f.type
          members shape value fuel false (seen ++ [(key, v)])
      | none =>
        colon
        skipValue
        members shape value fuel false seen
    else return seen

/-- Values for the fields in their order; `seen` holds those read before. -/
def positions (shape : Shape τ) (value : τ → Reader ν) :
    List (Field τ) → Record ν → Reader (Record ν)
  | [], seen => return seen
  | f :: fs, seen => do
    if ← moreItems seen.isEmpty then
      let v ← value f.type
      positions shape value fs (seen ++ [(f.key, v)])
    else if shape.partialArray then return seen
    else mismatch (.wrongLength seen.length shape.name shape.fields.length)

def record (shape : Shape τ) (value : τ → Reader ν) : Reader (Record ν) := do
  let b ← valueStart
  if b = 0x7B then
    skip
    members shape value ((← remaining) + 1) true []
  else if b = '['.toUInt8 then
    skip
    let r ← positions shape value shape.fields []
    endList
    return r
  else wrongType (.record shape.name)

/-- A whole document. -/
def document (value : Reader α) (bytes : List UInt8) : Except Fault α :=
  match value bytes with
  | .error e => .error e
  | .ok (v, rest) =>
    match endOfInput rest with
    | .error e => .error e
    | .ok _ => .ok v

end Json.Reader

end GatewayFeed
