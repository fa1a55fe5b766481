import GatewayFeed.Decimal.Nearest
import GatewayFeed.Toml.Text
import GatewayFeed.Toml.Value

/-!
Integers of 64 bits in four bases, doubles, and dates and times.
-/

namespace GatewayFeed.Toml.Reader

/-- Digits in which single underscores may stand between two digits. -/
def separated (isDigit : Char → Bool) : List Char → Bool
  | [] => false
  | [c] => isDigit c
  | c :: '_' :: cs => isDigit c && separated isDigit cs
  | c :: cs => isDigit c && separated isDigit cs

/-- At least one digit; without the underscores. -/
def digitRun (isDigit : Char → Bool) : Reader (List Char) := do
  let cs ← span fun c => isDigit c || c = '_'
  if separated isDigit cs then return cs.filter (· ≠ '_') else failure

/-- Whether the sign is a minus. -/
def sign : Reader Bool := do
  if ← accept ['-'] then return true
  else
    let _ ← accept ['+']
    return false

/-- A lone zero, or digits that do not start with one. -/
def wholePart : Reader (List Char) := do
  match ← digitRun Char.isDigit with
  | '0' :: _ :: _ => failure
  | ds => return ds

def fits (n : Int) : Reader Toml :=
  if -0x8000000000000000 ≤ n ∧ n < 0x8000000000000000 then return .integer (Int64.ofInt n)
  else failure

def isOctalDigit (c : Char) : Bool := '0' ≤ c && c ≤ '7'

def isBinaryDigit (c : Char) : Bool := c = '0' || c = '1'

/-- Only a decimal integer has a sign. -/
def integer : Reader Toml := do
  if ← accept ['0', 'x'] then fits (ofDigits 16 (← digitRun isHexDigit))
  else if ← accept ['0', 'o'] then fits (ofDigits 8 (← digitRun isOctalDigit))
  else if ← accept ['0', 'b'] then fits (ofDigits 2 (← digitRun isBinaryDigit))
  else
    let negative ← sign
    let n : Int := ofDigits 10 (← wholePart)
    fits (if negative then -n else n)

def exponent? : Reader (Option Int) := do
  if ← acceptOne ['e', 'E'] then
    let negative ← sign
    let n : Int := ofDigits 10 (← digitRun Char.isDigit)
    return some (if negative then -n else n)
  else return none

def fraction? : Reader (Option (List Char)) := do
  if ← accept ['.'] then return some (← digitRun Char.isDigit) else return none

/-- A number with a fraction or an exponent. One that is too large is refused, one that is too far
below zero is minus infinity. -/
def real : Reader Toml := do
  let negative ← sign
  let whole ← wholePart
  let fraction ← fraction?
  let exponent ← exponent?
  if fraction.isNone && exponent.isNone then failure
  else
    let places := fraction.getD []
    let x := Decimal.nearest negative (ofDigits 10 (whole ++ places))
      (exponent.getD 0 - (places.length : Int))
    if x.isInf && !negative then failure else return .real x

def infinity : Float := Float.ofBits (UInt64.ofNat Decimal.infinityBits)

def special : Reader Toml := do
  let negative ← sign
  if ← accept ['i', 'n', 'f'] then return .real (if negative then -infinity else infinity)
  else if ← accept ['n', 'a', 'n'] then return .real (infinity - infinity)
  else failure

/-- A number of exactly `size` digits between `low` and `high`. -/
def part (size low high : Nat) : Reader Nat := fun cs =>
  let ds := cs.take size
  let n := ofDigits 10 ds
  if ds.length = size && ds.all Char.isDigit && low ≤ n && n ≤ high then some (n, cs.drop size)
  else none

def isLeap (year : Nat) : Bool := year % 4 = 0 && (year % 100 ≠ 0 || year % 400 = 0)

def daysIn (year month : Nat) : Nat :=
  if month = 2 then (if isLeap year then 29 else 28)
  else if month = 4 || month = 6 || month = 9 || month = 11 then 30 else 31

def date : Reader Unit := do
  let year ← part 4 0 9999
  expect ['-']
  let month ← part 2 1 12
  expect ['-']
  let _ ← part 2 1 (daysIn year month)

/-- Seconds go up to 60, for leap seconds. -/
def time : Reader Unit := do
  let _ ← part 2 0 23
  expect [':']
  let _ ← part 2 0 59
  expect [':']
  let _ ← part 2 0 60
  if ← accept ['.'] then
    match ← span Char.isDigit with
    | [] => failure
    | _ => return ()

def offset : Reader Unit := do
  if ← acceptOne ['Z', 'z'] then return ()
  else if ← acceptOne ['+', '-'] then
    let _ ← part 2 0 23
    expect [':']
    let _ ← part 2 0 59

/-- The time after a date. -/
def timeOfDay : Reader Unit := do
  if ← acceptOne ['T', 't', ' '] then
    time
    offset
  else failure

def moment : Reader Toml := do
  (do date; timeOfDay <|> return ()) <|> time
  return .moment

def number : Reader Toml := moment <|> real <|> special <|> integer

end GatewayFeed.Toml.Reader
