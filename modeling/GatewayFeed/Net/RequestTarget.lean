/-!
Targets of requests: a path, a whole URL, an authority such as `host:port`, or a lone asterisk. They
are read less kindly than URLs elsewhere: what ought to be percent-encoded mostly has to be.
-/

namespace GatewayFeed.RequestTarget

/-- What may stand in a path besides characters outside ASCII. -/
def isPathChar (c : Char) : Bool := '!' ≤ c && c ≠ '<' && c ≠ '>' && c ≠ '\x60'

/-- What may stand in a query besides characters outside ASCII. -/
def isQueryChar (c : Char) : Bool := '!' ≤ c && c ≠ '"' && c ≠ '<' && c ≠ '>'

/-- A path with, perhaps, a query and a fragment behind it. -/
def pathOf? (cs : List Char) : Option (List Char) :=
  let path := cs.takeWhile fun c => c ≠ '?' && c ≠ '#'
  let query := (cs.dropWhile fun c => c ≠ '?' && c ≠ '#').takeWhile (· ≠ '#')
  if path.all isPathChar && query.all isQueryChar then some path else none

/-- What counts while an authority is read; `colons` and `percent` count for the host only. -/
structure Authority where
  colons : Nat := 0
  opened : Bool := false
  closed : Bool := false
  percent : Bool := false
  /-- Whether nothing has come yet behind an `@`. -/
  afterUser : Bool := false
  deriving DecidableEq, Repr

namespace Authority

def isPlain (c : Char) : Bool := c.isAlphanum || "!$&'()*+,-.;=_~".toList.contains c

def step (a : Authority) (c : Char) : Option Authority :=
  let b := { a with afterUser := false }
  if c = ':' then if a.colons < 8 then some { b with colons := a.colons + 1 } else none
  else if c = '[' then if a.percent || a.opened then none else some { b with opened := true }
  else if c = ']' then
    if a.opened && !a.closed then some { b with closed := true, colons := 0, percent := false }
    else none
  else if c = '@' then some { b with colons := 0, percent := false, afterUser := true }
  else if c = '%' then some { b with percent := true }
  else if isPlain c then some b
  else none

def isComplete (a : Authority) : Bool :=
  a.opened = a.closed && a.colons ≤ 1 && !a.afterUser && !a.percent

def ends (c : Char) : Bool := c = '/' || c = '?' || c = '#'

/-- What follows the authority. -/
def rest? (a : Authority) : List Char → Option (List Char)
  | [] => if a.isComplete then some [] else none
  | c :: cs =>
    if ends c then if a.isComplete then some (c :: cs) else none
    else (a.step c).bind fun a => a.rest? cs

end Authority

/-- What follows `://`, if a scheme stands before it. -/
def afterScheme? : List Char → Option (List Char)
  | ':' :: '/' :: '/' :: rest => some rest
  | c :: rest => if c.isAlphanum || c = '+' || c = '-' || c = '.' then afterScheme? rest else none
  | [] => none

/-- The path behind the authority of a whole URL, which must not be empty. -/
def behindAuthority? (cs : List Char) : Option (List Char) := do
  let rest ← Authority.rest? {} cs
  if rest.length = cs.length then none
  else
    let path ← pathOf? rest
    return if path.isEmpty then ['/'] else path

/-- The path that a target names; a mere authority names none. -/
def path? (target : List Char) : Option (List Char) :=
  match target with
  | [] => none
  | '/' :: cs => pathOf? ('/' :: cs)
  | ['*'] => some ['*']
  | cs =>
    match afterScheme? cs with
    | some rest => behindAuthority? rest
    | none => if Authority.rest? {} cs = some [] then some [] else none

def maxLength : Nat := 65534

/-- Whether a text can be the target of a request. -/
def isTarget (cs : List Char) : Bool := cs.length ≤ maxLength && (path? cs).isSome

end GatewayFeed.RequestTarget
