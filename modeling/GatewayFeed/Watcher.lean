import GatewayFeed.Settings.Document

/-!
Watching the settings file. The whole directory is watched; a change of the file itself makes the
watcher read it as it is by then and send the settings, if it gives any.
-/

namespace GatewayFeed

/-- A change in the watched directory. A file is always replaced as a whole. -/
inductive Change where
  | replaced (name : String) (content : List UInt8)
  | removed
  deriving DecidableEq, Repr

/-- `pending` holds, for each change that is not handled yet, whether it calls for reading the
file; `sent` is in order. -/
structure Watcher where
  file : Option (List UInt8)
  pending : List Bool := []
  sent : List Settings := []
  deriving Repr

namespace Watcher

def fileName : String := "adapter.toml"

/-- A removal gives nothing to read. -/
def concerns : Change → Bool
  | .replaced name _ => name = fileName
  | .removed => false

def content (before : Option (List UInt8)) : Change → Option (List UInt8)
  | .replaced name new => if name = fileName then some new else before
  | .removed => none

inductive Step where
  | change (c : Change)
  /-- The watcher comes to the next change. -/
  | handle
  deriving DecidableEq, Repr

/-- The settings that reading the file gives; a file without any sends nothing. -/
def reading (password : Option String) (file : Option (List UInt8)) : List Settings :=
  match Settings.load file password with
  | .ok s => [s]
  | .error _ => []

def step (password : Option String) (w : Watcher) : Step → Watcher
  | .change c => { w with file := content w.file c, pending := w.pending ++ [concerns c] }
  | .handle =>
    match w.pending with
    | [] => w
    | true :: rest => { w with pending := rest, sent := w.sent ++ reading password w.file }
    | false :: rest => { w with pending := rest }

def run (password : Option String) (w : Watcher) (steps : List Step) : Watcher :=
  steps.foldl (step password) w

/-- A change that is handled before the next one. -/
def settle (password : Option String) (w : Watcher) (c : Change) : Watcher :=
  w.run password [.change c, .handle]

end Watcher

end GatewayFeed
