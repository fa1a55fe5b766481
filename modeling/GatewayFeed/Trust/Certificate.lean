import GatewayFeed.Text.Utf8
import GatewayFeed.Trust.Pem

/-!
Certificates, as far as it takes to tell whether a text holds one: the outer form of its encoding,
element by element.
-/

namespace GatewayFeed.Certificate

/-- An element of an encoding: its tag and its content. -/
structure Element where
  tag : UInt8
  content : List UInt8
  deriving DecidableEq, Repr

def ofBytes (bs : List UInt8) : Nat := bs.foldl (fun n b => n * 256 + b.toNat) 0

/-- The length of an element and what follows it: one byte below 128, or the number of up to four
bytes that hold it. -/
def length? : List UInt8 → Option (Nat × List UInt8)
  | [] => none
  | b :: rest =>
    if b < 0x80 then some (b.toNat, rest)
    else
      let size := b.toNat - 0x80
      if 0 < size && size ≤ 4 && size ≤ rest.length then
        some (ofBytes (rest.take size), rest.drop size)
      else none

def element? : List UInt8 → Option (Element × List UInt8)
  | [] => none
  | tag :: rest => do
    let (n, rest) ← length? rest
    if n ≤ rest.length then some (⟨tag, rest.take n⟩, rest.drop n) else none

def integerTag : UInt8 := 0x02

def bitsTag : UInt8 := 0x03

def sequenceTag : UInt8 := 0x30

def versionTag : UInt8 := 0xA0

/-- What follows elements with the given tags. -/
def elements? : List UInt8 → List UInt8 → Option (List UInt8)
  | [], bs => some bs
  | tag :: tags, bs => do
    let (e, rest) ← element? bs
    if e.tag = tag then elements? tags rest else none

/-- Perhaps a version, then the serial number, the algorithm, the issuer, the validity, the subject
and its key. -/
def isBody (bs : List UInt8) : Bool :=
  let rest := ((elements? [versionTag] bs).getD bs)
  (elements? (integerTag :: List.replicate 5 sequenceTag) rest).isSome

/-- A body, the algorithm and the signature. -/
def isCertificate (bs : List UInt8) : Bool :=
  match element? bs with
  | some (outer, _) =>
    outer.tag = sequenceTag
      && elements? [sequenceTag, sequenceTag, bitsTag] outer.content = some []
      && (match element? outer.content with
        | some (body, _) => isBody body.content
        | none => false)
  | none => false

def labels : List (List Char) :=
  ["CERTIFICATE", "X509 CERTIFICATE", "TRUSTED CERTIFICATE"].map String.toList

/-- Whether the first certificate of a text can be read. -/
def isIn (content : List UInt8) : Bool :=
  let ls := Pem.lines (content.map fun b => Char.ofNat b.toNat)
  match Pem.find? labels (ls.length + 1) ls with
  | some block => isCertificate block.bytes
  | none => false

end GatewayFeed.Certificate
