import GatewayFeed.Text.Utf8

/-!
Requests to the admin pages, and whether they bring the key.
-/

namespace GatewayFeed.Admin

/-- The value of a header may be any bytes. -/
structure Request where
  method : String := "GET"
  path : List Char
  headers : List (String × List UInt8) := []
  deriving DecidableEq, Repr

/-- The value of the first header of a name, which may be spelled in any case. -/
def Request.header? (r : Request) (name : String) : Option (List UInt8) :=
  (r.headers.find? fun h => h.1.toLower = name).map (·.2)

/-- A byte of a header value that can be read as text. -/
def isVisible (b : UInt8) : Bool := b = 0x09 || (0x20 ≤ b && b < 0x7F)

/-- The header value that opens the protected pages. -/
def bearer (key : String) : List UInt8 := Utf8.encode ("Bearer " ++ key)

/-- Only a value that is all visible text can match. -/
def Request.authorized (r : Request) (key : String) : Bool :=
  match r.header? "authorization" with
  | some value => value.all isVisible && value = bearer key
  | none => false

end GatewayFeed.Admin
