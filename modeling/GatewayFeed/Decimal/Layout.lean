import GatewayFeed.Decimal.Shortest

/-!
How a binary number is written: always with the shortest digits that read back, in positional
notation or with an exponent as the layout says.
-/

namespace GatewayFeed.Decimal

/-- `positional e` tells whether a number with its first digit at `10 ^ e` is written without an
exponent. Positional numbers keep at least one digit on each side of the point; exponents
always carry a sign. -/
structure Layout where
  positional : Int → Bool

def zeros (n : Nat) : List Char := List.replicate n '0'

/-- Digits without the zeros at their end. -/
def significant (ds : List Char) : List Char := (ds.reverse.dropWhile (· = '0')).reverse

/-- `ds` with its first digit at `10 ^ e`. -/
def positionalChars (ds : List Char) (e : Int) : List Char :=
  if e < 0 then ['0', '.'] ++ zeros (-e - 1).toNat ++ ds
  else
    let whole := e.toNat + 1
    let rest := ds.drop whole
    ds.take whole ++ zeros (whole - ds.length) ++ ['.'] ++ (if rest.isEmpty then ['0'] else rest)

def exponentChars (ds : List Char) (e : Int) : List Char :=
  let rest := ds.drop 1
  ds.take 1 ++ (if rest.isEmpty then [] else '.' :: rest)
    ++ ['e', if e < 0 then '-' else '+'] ++ Nat.toDigits 10 e.natAbs

def Layout.magnitude (layout : Layout) (d : Dyadic) : List Char :=
  if d.mantissa = 0 then ['0', '.', '0']
  else
    let s := d.shortest
    let all := Nat.toDigits 10 s.digits
    let e := s.exponent + (all.length - 1 : Nat)
    let ds := significant all
    if layout.positional e then positionalChars ds e else exponentChars ds e

/-- Neither infinity nor NaN has digits. -/
def Layout.write (layout : Layout) (x : Float) : String :=
  if x.isNaN then "NaN"
  else
    let bits := x.toBits
    let sign := if bits.toNat / 0x8000000000000000 = 0 then "" else "-"
    if x.isInf then sign ++ "inf"
    else sign ++ String.ofList (layout.magnitude (.ofBits bits))

end GatewayFeed.Decimal
