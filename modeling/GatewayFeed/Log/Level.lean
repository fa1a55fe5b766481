/-!
Levels of log events, and thresholds that let events of some levels pass.
-/

namespace GatewayFeed.Log

inductive Level where
  | error
  | warn
  | info
  | debug
  | trace
  deriving DecidableEq, Repr

namespace Level

def name : Level → String
  | error => "ERROR"
  | warn => "WARN"
  | info => "INFO"
  | debug => "DEBUG"
  | trace => "TRACE"

/-- One for the gravest level. -/
def rank : Level → Nat
  | error => 1
  | warn => 2
  | info => 3
  | debug => 4
  | trace => 5

def all : List Level := [error, warn, info, debug, trace]

end Level

/-- The level up to which events pass; `none` lets nothing pass. -/
abbrev Threshold := Option Level

namespace Threshold

def lets (t : Threshold) (l : Level) : Bool :=
  match t with
  | none => false
  | some m => l.rank ≤ m.rank

def ofRank? (n : Nat) : Option Threshold :=
  if n = 0 then some none else (Level.all.find? (·.rank = n)).map some

def ofDigits? (cs : List Char) : Option Threshold :=
  let ds := match cs with
    | '+' :: rest => rest
    | _ => cs
  if ds.isEmpty || !ds.all Char.isDigit then none
  else ofRank? (ds.foldl (fun n c => n * 10 + (c.toNat - '0'.toNat)) 0)

/-- A number from 0 for nothing to 5 for everything, or a name in any case. -/
def parse? (cs : List Char) : Option Threshold :=
  match ofDigits? cs with
  | some t => some t
  | none =>
    let name := String.ofList (cs.map Char.toUpper)
    if name = "OFF" then some none else (Level.all.find? (·.name = name)).map some

end Threshold

end GatewayFeed.Log
