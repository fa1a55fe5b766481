import GatewayFeed.Decimal.Layout
import GatewayFeed.Json.Basic
import GatewayFeed.Json.Lexical

/-!
Numbers in JSON text. A literal is taken apart into its digits first; then it becomes an exact
integer if it is one of 64 bits, and otherwise a double. The double is computed from the digits
that fit 64 bits, by multiplications and divisions with powers of ten, each of which rounds.
-/

namespace GatewayFeed.Json

/-- A number as it is written. `fraction` and `exponent` are empty digit lists only if the literal
has none. -/
structure Literal where
  negative : Bool
  whole : List Nat
  fraction : Option (List Nat)
  exponent : Option (Bool × List Nat)
  deriving DecidableEq, Repr

def isDigit (b : UInt8) : Bool := '0'.toUInt8 ≤ b && b ≤ '9'.toUInt8

namespace Reader

def digits : Reader (List Nat) := fun bs =>
  .ok ((bs.takeWhile isDigit).map (fun b => b.toNat - '0'.toNat), bs.dropWhile isDigit)

/-- At least one digit. -/
def someDigits : Reader (List Nat) := do
  match ← digits with
  | [] =>
    match ← peek with
    | none => unfinished .value
    | some _ => malformed .invalidNumber
  | ds => return ds

/-- A lone zero, or digits that do not start with one. -/
def wholePart : Reader (List Nat) := do
  match ← someDigits with
  | 0 :: _ :: _ => malformed .invalidNumber
  | ds => return ds

def fractionPart : Reader (Option (List Nat)) := do
  if (← peek) = some '.'.toUInt8 then
    skip
    return some (← someDigits)
  else return none

def exponentPart : Reader (Option (Bool × List Nat)) := do
  let b ← peek
  if b = some 'e'.toUInt8 || b = some 'E'.toUInt8 then
    skip
    let sign ← peek
    if sign = some '+'.toUInt8 || sign = some '-'.toUInt8 then skip
    return some (sign = some '-'.toUInt8, ← someDigits)
  else return none

/-- A literal after its minus sign, if it has one. -/
def literal (negative : Bool) : Reader Literal := do
  let whole ← wholePart
  let fraction ← fractionPart
  let exponent ← exponentPart
  return { negative, whole, fraction, exponent }

end Reader

/-- One more than the greatest significand and the greatest natural number that is kept exactly. -/
def word64 : Nat := 0x10000000000000000

/-- Appends digits to a significand as long as it fits 64 bits; the digits that are left over. -/
def significand (n : Nat) : List Nat → Nat × List Nat
  | [] => (n, [])
  | d :: ds => if n * 10 + d < word64 then significand (n * 10 + d) ds else (n, d :: ds)

def powerOfTen (e : Nat) : Float := Float.ofScientific 1 false e

/-- `f · 10 ^ e`, with divisors of at most `10 ^ 308`; `none` if it is too large. -/
def scaled (f : Float) (e : Int) : Option Float :=
  if e.natAbs ≤ 308 then
    if 0 ≤ e then
      let g := f * powerOfTen e.natAbs
      if g.isInf then none else some g
    else some (f / powerOfTen e.natAbs)
  else if f == 0 then some f
  else if 0 ≤ e then none
  else scaled (f / powerOfTen 308) (e + 308)
termination_by e.natAbs

/-- The greatest exponent that is kept; a literal with a greater one is zero or out of range. -/
def maxExponent : Nat := 0x7FFFFFFF

def ofDigits (ds : List Nat) : Nat := ds.foldl (fun n d => n * 10 + d) 0

def Literal.magnitude? (l : Literal) : Option Float :=
  let (s, spare) := significand 0 l.whole
  let fraction := l.fraction.getD []
  let (s, unused) := significand s fraction
  let point : Int := (spare.length : Int) - (fraction.length - unused.length : Nat)
  let (down, ds) := l.exponent.getD (false, [])
  let e := ofDigits ds
  if maxExponent < e then
    if s = 0 || down then some 0 else none
  else
    scaled s.toUInt64.toFloat
      (if down then max (point - e) (-0x80000000) else min (point + e) maxExponent)

def Literal.real? (l : Literal) : Option Float :=
  l.magnitude?.map fun f => if l.negative then -f else f

/-- Minus zero is no integer. -/
def Literal.integer? (l : Literal) : Option Int :=
  if l.fraction.isSome || l.exponent.isSome then none
  else
    let n := ofDigits l.whole
    if l.negative then if 0 < n && n ≤ 0x8000000000000000 then some (-n) else none
    else if n < word64 then some n else none

def Literal.number? (l : Literal) : Option Number :=
  match l.integer? with
  | some n => some (.integer n)
  | none => l.real?.map .real

/-- Numbers between `10 ^ -5` and `10 ^ 16` are written without an exponent. -/
def realLayout : Decimal.Layout := ⟨fun e => -5 ≤ e && e ≤ 15⟩

def Number.found : Number → Found
  | .integer n => .integer n
  | .real x => .real (realLayout.write x)

namespace Reader

def literalNumber (negative : Bool) : Reader Number := do
  match (← literal negative).number? with
  | some n => return n
  | none => malformed .numberOutOfRange

/-- A number; the input starts with its first character. -/
def number : Reader Number := do
  if (← peek) = some '-'.toUInt8 then
    skip
    literalNumber true
  else literalNumber false

end Reader

end GatewayFeed.Json
