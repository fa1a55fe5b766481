import GatewayFeed.Url.Domain.Direction
import GatewayFeed.Url.Domain.Joiner
import GatewayFeed.Url.Domain.Mapping
import GatewayFeed.Url.Domain.Normal
import GatewayFeed.Url.Domain.Punycode
import GatewayFeed.Url.Form

/-!
Domain names with characters of any script as ASCII names. A name is mapped and composed first,
then each label is checked, and labels with characters outside ASCII are written in Punycode.
-/

namespace GatewayFeed.Url.Domain

/-- ASCII characters that no host may have. -/
def forbidden : List Char :=
  [' ', '#', '/', ':', '<', '>', '?', '@', '[', '\\', ']', '^', '|', '%']

def isForbidden (c : Char) : Bool := isControl c || forbidden.contains c

def acePrefix : List Char := ['x', 'n', '-', '-']

def isAscii (cs : List Char) : Bool := cs.all fun c => c.toNat < 0x80

/-- A label in its own script. One that was written in Punycode must need Punycode, and must be as
mapping and composing would leave it. -/
def labelText? (label : List Char) : Option (List Char) :=
  if acePrefix.isPrefixOf label then
    match Punycode.decode? (label.drop 4) with
    | some cs =>
      if isAscii cs then none
      else if cs.all isStable && normalize cs = cs then some cs
      else none
    | none => none
  else some label

def validLabel (label : List Char) : Bool :=
  match label with
  | [] => true
  | c :: _ => !isMark c && joinersAllowed [] label

def mapAll? (cs : List Char) : Option (List Char) := (cs.mapM mapChar).map List.flatten

def labelAscii (label : List Char) : List Char :=
  if isAscii label then label else acePrefix ++ Punycode.encode label

/-- The ASCII form of a name, if it is allowed. -/
def toAscii? (name : List Char) : Option (List Char) := do
  let cs ← (mapAll? name).map normalize
  let labels := Form.splitAt '.' cs
  let texts ← labels.mapM labelText?
  if texts.any (·.any isForbidden) then none
  if !texts.all validLabel then none
  if texts.any (·.any isRightToLeft) && !texts.all obeysDirectionRule then none
  some ((texts.map labelAscii).intersperse ['.']).flatten

end GatewayFeed.Url.Domain
