import GatewayFeed.Url.Basic
import GatewayFeed.Url.Domain

/-!
Reading URLs. Tabs and line ends are ignored everywhere, and blanks and controls around the text.
A text without a scheme is read relative to a base, if there is one.
-/

namespace GatewayFeed.Url

abbrev Parse := Except Url.Error

def isBlankOrControl (c : Char) : Bool := c.toNat ≤ 0x20

/-- The characters that count. -/
def cleaned (s : String) : List Char :=
  let cs := s.toList.dropWhile isBlankOrControl
  ((cs.reverse.dropWhile isBlankOrControl).reverse).filter
    fun c => c ≠ '\t' && c ≠ '\n' && c ≠ '\r'

/-- A scheme before a colon, in small letters, and what follows the colon. -/
def scheme? (cs : List Char) : Option (List Char × List Char) :=
  let name := cs.takeWhile fun c => c.isAlphanum || c = '+' || c = '-' || c = '.'
  match name, cs.dropWhile fun c => c.isAlphanum || c = '+' || c = '-' || c = '.' with
  | first :: _, ':' :: rest => if first.isAlpha then some (name.map Char.toLower, rest) else none
  | _, _ => none

/-- Characters that end an authority. -/
def endsAuthority (special : Bool) (c : Char) : Bool :=
  c = '/' || c = '?' || c = '#' || (special && c = '\\')

/-- A domain name or an address of a special scheme. -/
def hostOf (cs : List Char) : Parse Host :=
  match cs with
  | [] => .error .emptyHost
  | '[' :: rest =>
    if rest.getLast? = some ']' then
      match ipv6? rest.dropLast with
      | some gs => .ok (.ipv6 gs)
      | none => .error .invalidIpv6
    else .error .invalidIpv6
  | cs =>
    match Utf8.decode? (percentDecode cs) with
    | none => .error .invalidDomain
    | some s =>
      match Domain.toAscii? s.toList with
      | none => .error .invalidDomain
      | some [] => .error .emptyHost
      | some name =>
        if endsInNumber name then
          match ipv4? name with
          | some n => .ok (.ipv4 n)
          | none => .error .invalidIpv4
        else .ok (.domain name)

def opaqueForbidden : List Char :=
  ['\x00', ' ', '#', '/', ':', '<', '>', '?', '@', '[', '\\', ']', '^', '|']

/-- The host of any other scheme, `none` if it is empty. -/
def opaqueHost (cs : List Char) : Parse (Option Host) :=
  match cs with
  | [] => .ok none
  | '[' :: rest =>
    if rest.getLast? = some ']' then
      match ipv6? rest.dropLast with
      | some gs => .ok (some (.ipv6 gs))
      | none => .error .invalidIpv6
    else .error .invalidIpv6
  | cs =>
    if cs.any opaqueForbidden.contains then .error .invalidHostCharacter
    else .ok (some (.domain (percentEncode [] cs)))

/-- The text of a host; a colon in brackets belongs to it. -/
def hostSpan (special : Bool) : Bool → List Char → List Char × List Char
  | _, [] => ([], [])
  | bracket, c :: cs =>
    if (c = ':' && !bracket) || endsAuthority special c then ([], c :: cs)
    else
      let bracket := if c = '[' then true else if c = ']' then false else bracket
      let (h, rest) := hostSpan special bracket cs
      (c :: h, rest)

/-- A port, and what follows it, which must be a path, a query or a fragment. -/
def portOf (scheme : List Char) (cs : List Char) : Parse (Option Nat × List Char) :=
  let ds := cs.takeWhile Char.isDigit
  let rest := cs.dropWhile Char.isDigit
  let n := ds.foldl (fun n d => n * 10 + (d.toNat - '0'.toNat)) 0
  if 65535 < n then .error .invalidPort
  else
    match rest with
    | c :: _ => if endsAuthority true c then .ok (keep ds n, rest) else .error .invalidPort
    | [] => .ok (keep ds n, rest)
where
  keep (ds : List Char) (n : Nat) : Option Nat :=
    if ds.isEmpty || usualPort? scheme = some n then none else some n

structure Authority where
  username : List Char
  password : List Char
  host : Option Host
  port : Option Nat

/-- Splits at the last `@` before the end of the authority, if there is one. -/
def userSpan (special : Bool) (cs : List Char) : Option (List Char) × List Char :=
  let span := cs.takeWhile fun c => !endsAuthority special c
  let rest := cs.dropWhile fun c => !endsAuthority special c
  if span.contains '@' then
    let after := (span.reverse.takeWhile (· ≠ '@')).reverse
    (some (span.take (span.length - after.length - 1)), after ++ rest)
  else (none, cs)

/-- What follows the two slashes. -/
def authorityOf (scheme : List Char) (cs : List Char) : Parse (Authority × List Char) := do
  let special := isSpecial scheme
  let (user, rest) := userSpan special cs
  if user = some [] && (match rest with | c :: _ => endsAuthority special c | [] => false) then
    throw .emptyHost
  let user := user.getD []
  let username := percentEncode userSet (user.takeWhile (· ≠ ':'))
  let password := percentEncode userSet ((user.dropWhile (· ≠ ':')).drop 1)
  let (hostText, rest) := hostSpan special false rest
  let host ← if special then some <$> hostOf hostText else opaqueHost hostText
  match rest with
  | ':' :: afterColon =>
    if host.isNone then throw .emptyHost
    let (port, rest) ← portOf scheme afterColon
    return (⟨username, password, host, port⟩, rest)
  | rest =>
    if host.isNone && !(username.isEmpty && password.isEmpty) then throw .emptyHost
    return (⟨username, password, host, none⟩, rest)

def lower (cs : List Char) : List Char := cs.map Char.toLower

def isSingleDot (s : List Char) : Bool := s = ['.'] || lower s = "%2e".toList

def isDoubleDot (s : List Char) : Bool :=
  ["..", "%2e.", ".%2e", "%2e%2e"].any fun d => lower s = d.toList

/-- Adds one segment; `last` says that no slash follows it. -/
def pushSegment (segments : List (List Char)) (s : List Char) (last : Bool) : List (List Char) :=
  if isDoubleDot s then segments.dropLast ++ (if last then [[]] else [])
  else if isSingleDot s then segments ++ (if last then [[]] else [])
  else segments ++ [s]

/-- Segments up to the query or the fragment; `current` is the segment so far. -/
def pathOf (special : Bool) : List (List Char) → List Char → List Char →
    List (List Char) × List Char
  | segments, current, [] => (pushSegment segments current true, [])
  | segments, current, c :: cs =>
    if c = '/' || (special && c = '\\') then
      pathOf special (pushSegment segments current false) [] cs
    else if c = '?' || c = '#' then (pushSegment segments current true, c :: cs)
    else pathOf special segments (current ++ percentChar pathSet c) cs

/-- The path after an authority. -/
def absolutePath (special : Bool) (cs : List Char) : List (List Char) × List Char :=
  match cs with
  | [] => (if special then [[]] else [], [])
  | c :: rest =>
    if c = '/' || (special && c = '\\') then pathOf special [] [] rest
    else if !special && (c = '?' || c = '#') then ([], cs)
    else pathOf special [] [] cs

def fragmentOf (cs : List Char) : List Char := percentEncode fragmentSet cs

/-- Query and fragment, with which a URL ends. -/
def withEnd (u : Url) (cs : List Char) : Url :=
  match cs with
  | '?' :: rest =>
    let set := if isSpecial u.scheme then specialQuerySet else querySet
    let u := { u with query := some (percentEncode set (rest.takeWhile (· ≠ '#'))) }
    match rest.dropWhile (· ≠ '#') with
    | '#' :: f => { u with fragment := some (fragmentOf f) }
    | _ => u
  | '#' :: f => { u with fragment := some (fragmentOf f) }
  | _ => u

def afterSlashes (scheme : List Char) (cs : List Char) : Parse Url := do
  let (a, rest) ← authorityOf scheme cs
  let (segments, rest) := absolutePath (isSpecial scheme) rest
  let u : Url :=
    { scheme, username := a.username, password := a.password, host := a.host, port := a.port
      path := .segments segments }
  return withEnd u rest

def isSlash (c : Char) : Bool := c = '/' || c = '\\'

def filePath (host : Option Host) (cs : List Char) : Url :=
  let (segments, rest) := absolutePath true cs
  withEnd { scheme := "file".toList, host, path := .segments segments } rest

def isDrive (cs : List Char) : Bool :=
  match cs with
  | [c, d] => c.isAlpha && (d = ':' || d = '|')
  | _ => false

/-- Files may have a host after two slashes; the letter of a drive is none. -/
def fileOf (cs : List Char) : Parse Url :=
  match cs with
  | a :: b :: rest =>
    if isSlash a && isSlash b then do
      let name := rest.takeWhile fun c => !endsAuthority true c
      if isDrive name then return filePath none rest
      let host ← if name.isEmpty then pure none else some <$> hostOf name
      let host := if host = some (.domain "localhost".toList) then none else host
      return filePath host (rest.dropWhile fun c => !endsAuthority true c)
    else .ok (filePath none cs)
  | cs => .ok (filePath none cs)

/-- A URL of a scheme that says nothing about its form. -/
def generalOf (scheme : List Char) (cs : List Char) : Parse Url :=
  match cs with
  | '/' :: '/' :: rest => afterSlashes scheme rest
  | '/' :: rest =>
    let (segments, rest) := pathOf false [] [] rest
    .ok (withEnd { scheme, path := .segments segments } rest)
  | cs =>
    let path := cs.takeWhile fun c => c ≠ '?' && c ≠ '#'
    .ok (withEnd { scheme, path := .opaquePath (percentEncode [] path) }
      (cs.dropWhile fun c => c ≠ '?' && c ≠ '#'))

/-- A text without a scheme, below a base. -/
def relativeOf (base : Url) (cs : List Char) : Parse Url :=
  let special := isSpecial base.scheme
  match base.path with
  | .opaquePath _ =>
    match cs with
    | '#' :: _ => .ok (withEnd { base with fragment := none } cs)
    | _ => .error .relativeToOpaque
  | .segments segments =>
    match cs with
    | [] => .ok { base with fragment := none }
    | '?' :: _ => .ok (withEnd { base with query := none, fragment := none } cs)
    | '#' :: _ => .ok (withEnd { base with fragment := none } cs)
    | c :: rest =>
      let slash (c : Char) : Bool := c = '/' || (special && c = '\\')
      if slash c then
        match rest with
        | d :: after =>
          if slash d then
            if c = '/' && d = '/' then afterSlashes base.scheme after
            else afterSlashes base.scheme (after.dropWhile slash)
          else
            let (ss, rest) := pathOf special [] [] rest
            .ok (withEnd { base with path := .segments ss, query := none, fragment := none } rest)
        | [] => .ok { base with path := .segments [[]], query := none, fragment := none }
      else
        let (ss, rest) := pathOf special segments.dropLast [] cs
        .ok (withEnd { base with path := .segments ss, query := none, fragment := none } rest)

def parseWith (base : Option Url) (s : String) : Parse Url :=
  let cs := cleaned s
  match scheme? cs with
  | some (scheme, rest) =>
    if isFile scheme then fileOf rest
    else if isSpecial scheme then
      let slashes := rest.takeWhile isSlash
      match base with
      | some b =>
        if slashes.length < 2 && b.scheme = scheme then relativeOf b rest
        else afterSlashes scheme (rest.dropWhile isSlash)
      | none => afterSlashes scheme (rest.dropWhile isSlash)
    else generalOf scheme rest
  | none =>
    match base with
    | some b => relativeOf b cs
    | none => .error .relativeWithoutBase

def parse (s : String) : Parse Url := parseWith none s

/-- The URL that a text means in a document at `base`. -/
def join (base : Url) (s : String) : Parse Url := parseWith (some base) s

end GatewayFeed.Url
