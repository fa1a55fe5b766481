import GatewayFeed.Text.MediaType
import GatewayFeed.Text.Utf16
import GatewayFeed.Text.Utf8

/-!
The text of a body whose encoding is known from its media type, or from the mark at its start, which
counts more and is no part of the text.
-/

namespace GatewayFeed

inductive Charset where
  | utf8
  | utf16 (order : Utf16.Order)
  | windows1252
  deriving DecidableEq, Repr

namespace Charset

def utf8Labels : List String :=
  ["unicode-1-1-utf-8", "unicode11utf8", "unicode20utf8", "utf-8", "utf8", "x-unicode20utf8"]

def utf16Labels : List String :=
  ["csunicode", "iso-10646-ucs-2", "ucs-2", "unicode", "unicodefeff", "utf-16", "utf-16le"]

def windows1252Labels : List String :=
  ["ansi_x3.4-1968", "ascii", "cp1252", "cp819", "csisolatin1", "ibm819", "iso-8859-1",
    "iso-ir-100", "iso8859-1", "iso88591", "iso_8859-1", "iso_8859-1:1987", "l1", "latin1",
    "us-ascii", "windows-1252", "x-cp1252"]

/-- The charset that a label names, whatever its case and the blanks around it. -/
def ofLabel? (label : List Char) : Option Charset :=
  let isBlank (c : Char) : Bool := c = ' ' || c = '\t' || c = '\n' || c = '\r' || c = '\x0c'
  let inner := (((label.dropWhile isBlank).reverse.dropWhile isBlank).reverse).map Char.toLower
  let name := String.ofList inner
  if utf8Labels.contains name then some .utf8
  else if utf16Labels.contains name then some (.utf16 .littleEndian)
  else if name = "utf-16be" || name = "unicodefffe" then some (.utf16 .bigEndian)
  else if windows1252Labels.contains name then some .windows1252
  else none

/-- What stands from 0x80 to 0x9F, where five places hold the control character itself. -/
def windows1252Specials : List Char :=
  "€\u0081‚ƒ„…†‡ˆ‰Š‹Œ\u008dŽ\u008f\u0090‘’“”•–—˜™š›œ\u009džŸ".toList

def windows1252Char (b : UInt8) : Char :=
  if 0x80 ≤ b && b < 0xA0 then (windows1252Specials[b.toNat - 0x80]?).getD (Char.ofNat b.toNat)
  else Char.ofNat b.toNat

def decodeLossy (bytes : List UInt8) : Charset → String
  | .utf8 => Utf8.decodeLossy bytes
  | .utf16 order => Utf16.decodeLossy order bytes
  | .windows1252 => String.ofList (bytes.map windows1252Char)

/-- The charset of a byte order mark, and what follows the mark. -/
def ofMark? : List UInt8 → Option (Charset × List UInt8)
  | 0xEF :: 0xBB :: 0xBF :: rest => some (.utf8, rest)
  | 0xFF :: 0xFE :: rest => some (.utf16 .littleEndian, rest)
  | 0xFE :: 0xFF :: rest => some (.utf16 .bigEndian, rest)
  | _ => none

/-- The charset that a header's bytes ask for; UTF-8 if they do not name one. -/
def ofHeader (header : Option (List UInt8)) : Charset :=
  let visible (b : UInt8) : Bool := b = 9 || (0x20 ≤ b && b < 0x7F)
  (do
    let bytes ← header
    if bytes.all visible then
      let m ← MediaType.parse? (bytes.map fun (b : UInt8) => Char.ofNat b.toNat)
      ofLabel? (← m.parameter? "charset")
    else none).getD .utf8

/-- The text of a body with the given `content-type`. -/
def text (header : Option (List UInt8)) (body : List UInt8) : String :=
  match ofMark? body with
  | some (charset, rest) => charset.decodeLossy rest
  | none => (ofHeader header).decodeLossy body

end Charset

end GatewayFeed
