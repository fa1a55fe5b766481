import GatewayFeed.Decimal.Layout
import GatewayFeed.Mismatch

/-!
TOML values. The members of a table stand in the order in which the document gives them. What a
date or time says is of no use here, so only that it is one is kept.
-/

namespace GatewayFeed

inductive Toml where
  | text (s : String)
  | integer (n : Int64)
  | real (x : Float)
  | flag (b : Bool)
  | moment
  | array (items : List Toml)
  | table (members : List (String × Toml))

namespace Toml

/-- Numbers with a fraction are always written without an exponent. -/
def realLayout : Decimal.Layout := ⟨fun _ => true⟩

/-- Dates and times are told as maps. -/
def found : Toml → Found
  | .text s => .text s
  | .integer n => .integer n.toInt
  | .real x => .real (realLayout.write x)
  | .flag b => .flag b
  | .moment => .map
  | .array _ => .sequence
  | .table _ => .map

end Toml

end GatewayFeed
