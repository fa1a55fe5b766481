import GatewayFeed.Snapshot

/-!
The store holds the current snapshot. Publishing replaces it by a changed copy, so that whoever
holds an older one keeps what it shows.
-/

namespace GatewayFeed

/-- A snapshot that was current at some time; its serial number tells it from all others. -/
structure Published where
  serial : Nat
  snapshot : Snapshot

structure Store where
  current : Published

namespace Store

def empty : Store := ⟨⟨0, .empty⟩⟩

def snapshot (s : Store) : Snapshot := s.current.snapshot

/-- The successor of a snapshot. -/
def next (p : Published) (cs : List Collection) : Published :=
  ⟨p.serial + 1, p.snapshot.setAll cs⟩

/-- Puts collections into their slots, in their order; without collections nothing happens. -/
def publish (s : Store) (cs : List Collection) : Store :=
  if cs.isEmpty then s else ⟨next s.current cs⟩

end Store

end GatewayFeed
