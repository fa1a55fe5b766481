import GatewayFeed.Log.Level
import GatewayFeed.Text.Blank

/-!
Which log events are shown. A filter is a list of directives such as `target=level`; for an event
the most specific one decides of those that concern it, and without one the event is not shown.
-/

namespace GatewayFeed.Log

/-- A condition on a field of an event; one on its value concerns spans only. -/
structure FieldTest where
  name : List Char
  hasValue : Bool
  deriving DecidableEq, Repr

/-- `span` says whether the directive names a span or tests its fields. -/
structure Directive where
  threshold : Threshold := some .trace
  target : Option (List Char) := none
  span : Bool := false
  fields : List FieldTest := []
  deriving DecidableEq, Repr

namespace Directive

def isNameChar (c : Char) : Bool :=
  c.isAlphanum || c = '-' || c = ':' || c = '_' || 0x80 ≤ c.toNat

/-- The level behind a `=`; without one everything passes. -/
def withLevel? (d : Directive) (cs : List Char) : Option Directive :=
  if cs.isEmpty then some d
  else (Threshold.parse? cs).map fun t => { d with threshold := t }

/-- What follows the bracket that closes a span. -/
def afterSpan? (d : Directive) : List Char → Option Directive
  | [] => some d
  | '=' :: level => d.withLevel? level
  | _ => none

def fieldTest (cs : List Char) : FieldTest :=
  ⟨cs.takeWhile (· ≠ '='), cs.contains '='⟩

/-- A span after its opening bracket: a name, and perhaps one field in braces. -/
def spanPart? (d : Directive) (cs : List Char) : Option Directive :=
  let stops (c : Char) : Bool := c = ']' || c = '\x7b'
  let name := cs.takeWhile (!stops ·)
  match cs.dropWhile (!stops ·) with
  | ']' :: rest => { d with span := true }.afterSpan? rest
  | '\x7b' :: rest =>
    let field := rest.takeWhile (· ≠ '\x7d')
    match field, rest.dropWhile (· ≠ '\x7d') with
    | [], _ => none
    | _, '\x7d' :: ']' :: rest =>
      { d with span := !name.isEmpty, fields := [fieldTest field] }.afterSpan? rest
    | _, _ => none
  | _ => none

/-- A level, a target, or a target and a level. -/
def parse? (cs : List Char) : Option Directive :=
  match cs with
  | [] => none
  | '[' :: rest => spanPart? {} rest
  | c :: _ =>
    if !isNameChar c then none
    else
      let stops (c : Char) : Bool := c = '=' || c = '['
      let head := cs.takeWhile (!stops ·)
      match cs.dropWhile (!stops ·) with
      | [] =>
        match Threshold.parse? head with
        | some t => some { threshold := t }
        | none => some { target := some head }
      | '=' :: level => withLevel? { target := some head } level
      | _ :: rest => spanPart? { target := some head } rest

/-- Whether it concerns spans. -/
def isDynamic (d : Directive) : Bool := d.span || !d.fields.isEmpty

/-- Whether it concerns events by themselves. -/
def isStatic (d : Directive) : Bool := !d.span && !d.fields.any (·.hasValue)

/-- How specific it is: a longer target counts more, then more fields. -/
def weight (d : Directive) : Nat × Nat :=
  (match d.target with
    | none => 0
    | some t => t.length + 1, d.fields.length)

def concerns (d : Directive) (target : List Char) (fields : List (List Char)) : Bool :=
  (match d.target with
    | none => true
    | some t => t.isPrefixOf target)
  && d.fields.all fun f => fields.contains f.name

/-- Whether `d` comes before `e`, which it does not replace. -/
def isBefore (d e : Directive) : Bool :=
  let a := d.weight
  let b := e.weight
  b.1 < a.1 || (a.1 = b.1 && (b.2 < a.2
    || (a.2 = b.2 && (e.fields.map (·.name) < d.fields.map (·.name)))))

/-- Whether `d` concerns the same events as `e`. -/
def sameAs (d e : Directive) : Bool :=
  d.target = e.target && d.fields.map (·.name) = e.fields.map (·.name)

end Directive

/-- Directives for events, the most specific one first. -/
structure Filter where
  directives : List Directive
  deriving DecidableEq, Repr

namespace Filter

/-- A directive takes the place of an earlier one for the same events. -/
def insert (d : Directive) : List Directive → List Directive
  | [] => [d]
  | e :: es =>
    if d.sameAs e then d :: es
    else if d.isBefore e then d :: e :: es
    else e :: insert d es

/-- The filter of some directives; `default` holds if there are none at all. -/
def ofDirectives (default : Threshold) (ds : List Directive) : Filter :=
  let events := (ds.filter fun d => !d.isDynamic) ++ ds.filter fun d => d.isDynamic && d.isStatic
  if ds.isEmpty then ⟨[{ threshold := default }]⟩
  else ⟨events.foldl (fun es d => insert d es) []⟩

def trim (cs : List Char) : List Char :=
  ((cs.dropWhile Text.isBlank).reverse.dropWhile Text.isBlank).reverse

/-- The parts between commas. -/
def parts : List Char → List (List Char)
  | [] => [[]]
  | c :: cs =>
    match parts cs with
    | [] => [[c]]
    | p :: ps => if c = ',' then [] :: p :: ps else (c :: p) :: ps

/-- A filter all of whose directives are well formed. The empty one shows nothing. -/
def parse? (text : String) : Option Filter :=
  if text.isEmpty then some (ofDirectives none [])
  else ((parts text.toList).mapM fun p => Directive.parse? (trim p)).map (ofDirectives none)

/-- The filter of those directives that are well formed; errors are shown if there are none. -/
def ofText (text : String) : Filter :=
  ofDirectives (some .error) ((parts text.toList).filterMap fun p => Directive.parse? (trim p))

/-- A level that holds for the agent and for the requests to its admin pages. -/
def directiveOf (level : String) : String :=
  "gateway_adapter=" ++ level ++ ",tower_http=" ++ level

/-- The filter that the environment asks for, or else the one of the configured level. -/
def choose (fromEnvironment : Option String) (level : String) : Filter :=
  (fromEnvironment.bind parse?).getD (ofText (directiveOf level))

/-- Whether an event of a target is shown, with the names of its fields. -/
def shows (f : Filter) (target : List Char) (level : Level) (fields : List (List Char)) : Bool :=
  match f.directives.find? fun d => d.concerns target fields with
  | some d => d.threshold.lets level
  | none => false

end Filter

end GatewayFeed.Log
