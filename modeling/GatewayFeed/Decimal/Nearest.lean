/-!
The double nearest to a decimal, and of two equally near the even one, in exact arithmetic.
-/

namespace GatewayFeed.Decimal

/-- The bits of infinity; a number that would get these bits or more is too large. -/
def infinityBits : Nat := 0x7FF0000000000000

/-- `num / den` rounded to a whole number. -/
def roundToEven (num den : Nat) : Nat :=
  let q := num / den
  let twice := 2 * (num % den)
  if den < twice || (twice = den && q % 2 = 1) then q + 1 else q

/-- The binary exponent of the last place of a double near `num / den`: its mantissa has 53 bits
unless that takes an exponent below the least one. -/
def lastPlace (num den : Nat) : Int :=
  let k : Int := (num.log2 : Int) - den.log2 - 52
  let whole := num * Nat.pow 2 (-k).toNat / (den * Nat.pow 2 k.toNat)
  max (-1074) (if whole < 0x10000000000000 then k - 1 else k)

/-- The bits of the positive double nearest to `num / den`. A mantissa that is rounded up to
`2 ^ 53` carries into the exponent by itself. -/
def nearestQuotient (num den : Nat) : Nat :=
  let k := lastPlace num den
  let mantissa := roundToEven (num * Nat.pow 2 (-k).toNat) (den * Nat.pow 2 k.toNat)
  min infinityBits ((k + 1074).toNat * 0x10000000000000 + mantissa)

/-- The bits of the double nearest to `digits · 10 ^ e`; far outside the range of doubles the
digits do not matter. -/
def nearestBits (digits : Nat) (e : Int) : Nat :=
  let width : Int := (Nat.toDigits 10 digits).length
  if digits = 0 || width + e < -400 then 0
  else if 400 < width + e then infinityBits
  else nearestQuotient (digits * Nat.pow 10 e.toNat) (Nat.pow 10 (-e).toNat)

def nearest (negative : Bool) (digits : Nat) (e : Int) : Float :=
  Float.ofBits (UInt64.ofNat (nearestBits digits e + (if negative then 0x8000000000000000 else 0)))

end GatewayFeed.Decimal
