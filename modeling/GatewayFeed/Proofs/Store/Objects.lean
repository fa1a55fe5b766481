import Mathlib.Logic.Function.Basic
import GatewayFeed.Proofs.Snapshot.Slots

/-! Snapshots as objects. Whoever holds a snapshot holds a handle, and what a handle shows depends on what
is done to its object. Publishing makes a new object and never changes one. -/

namespace GatewayFeed

namespace Store

/-- Publishing several times puts all collections into their slots, in this order. -/
theorem snapshot_publish_all (s : Store) (css : List (List Collection)) :
    (css.foldl publish s).snapshot = s.snapshot.setAll css.flatten := by
  induction css generalizing s with
  | nil => rfl
  | cons cs css ih =>
    rw [List.foldl_cons, ih, snapshot_publish, List.flatten_cons, Snapshot.setAll, Snapshot.setAll,
      Snapshot.setAll, List.foldl_append]

/-- The current snapshot stays the same one exactly if nothing is published. -/
theorem serial_publish_eq_iff (s : Store) (cs : List Collection) :
    (s.publish cs).current.serial = s.current.serial ↔ cs = [] := by
  unfold publish
  split
  · rename_i h
    simpa using h
  · rename_i h
    simpa [next] using h

end Store

/-- Tells a snapshot from all others, also from those that show the same. -/
abbrev Handle := Nat

/-- Snapshots by their handles, of which those below `fresh` were given out. -/
structure Memory where
  shows : Handle → Snapshot
  fresh : Handle
  /-- What the store holds. -/
  current : Handle

namespace Memory

/-- A new store holds an empty snapshot. -/
def new : Memory := ⟨fun _ => .empty, 1, 0⟩

/-- The snapshot that readers of the store get. -/
def snapshot (m : Memory) : Snapshot := m.shows m.current

def make (m : Memory) (s : Snapshot) : Memory :=
  { m with shows := Function.update m.shows m.fresh s, fresh := m.fresh + 1 }

def install (m : Memory) (r : Handle) : Memory := { m with current := r }

/-- Changes an object in its place. -/
def change (m : Memory) (r : Handle) (c : Collection) : Memory :=
  { m with shows := Function.update m.shows r ((m.shows r).set c) }

/-- Publishing while nobody else does, and the handle that comes back. -/
def publish (m : Memory) (cs : List Collection) : Memory × Handle :=
  if cs.isEmpty then (m, m.current)
  else ((m.make (m.snapshot.setAll cs)).install m.fresh, m.fresh)

variable {m : Memory} {r : Handle}

@[simp] theorem shows_make_fresh (m : Memory) (s : Snapshot) : (m.make s).shows m.fresh = s := by
  simp [make]

theorem shows_make (s : Snapshot) (h : r < m.fresh) : (m.make s).shows r = m.shows r :=
  Function.update_of_ne (Nat.ne_of_lt h) ..

@[simp] theorem shows_install (m : Memory) (r q : Handle) : (m.install r).shows q = m.shows q := rfl

@[simp] theorem current_install (m : Memory) (r : Handle) : (m.install r).current = r := rfl

@[simp] theorem shows_change_self (m : Memory) (r : Handle) (c : Collection) :
    (m.change r c).shows r = (m.shows r).set c := by
  simp [change]

theorem shows_change_of_ne {q : Handle} (c : Collection) (h : q ≠ r) :
    (m.change r c).shows q = m.shows q :=
  Function.update_of_ne h ..

/-- What publishing can do. -/
theorem publish_cases (m : Memory) (cs : List Collection) :
    (cs = [] ∧ m.publish cs = (m, m.current)) ∨
    (cs ≠ [] ∧ m.publish cs = ((m.make (m.snapshot.setAll cs)).install m.fresh, m.fresh)) := by
  unfold publish
  split
  · rename_i h
    exact .inl ⟨List.isEmpty_iff.1 h, rfl⟩
  · rename_i h
    exact .inr ⟨fun hcs => h (by rw [hcs]; rfl), rfl⟩

theorem current_publish (m : Memory) (cs : List Collection) : (m.publish cs).2 = (m.publish cs).1.current := by
  rcases m.publish_cases cs with ⟨-, h⟩ | ⟨-, h⟩
  · rw [h]
  · rw [h]
    rfl

theorem snapshot_publish (m : Memory) (cs : List Collection) :
    (m.publish cs).1.snapshot = m.snapshot.setAll cs := by
  rcases m.publish_cases cs with ⟨rfl, h⟩ | ⟨-, h⟩
  · rw [h]
    rfl
  · rw [h, snapshot, current_install, shows_install, shows_make_fresh]

/-- No object that was given out is changed by publishing. -/
theorem shows_publish (cs : List Collection) (h : r < m.fresh) : (m.publish cs).1.shows r = m.shows r := by
  rcases m.publish_cases cs with ⟨-, hp⟩ | ⟨-, hp⟩
  · rw [hp]
  · rw [hp, shows_install, shows_make _ h]

theorem publish_eq_current_iff (cs : List Collection) (h : m.current < m.fresh) :
    (m.publish cs).2 = m.current ↔ cs = [] := by
  rcases m.publish_cases cs with ⟨hcs, hp⟩ | ⟨hcs, hp⟩
  · rw [hp]
    simpa using hcs
  · rw [hp]
    simp only [hcs, iff_false]
    exact Nat.ne_of_gt h

end Memory

end GatewayFeed
