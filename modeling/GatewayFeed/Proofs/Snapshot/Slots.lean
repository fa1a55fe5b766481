import GatewayFeed.Store

/-! A snapshot is a map from kinds to collections in which the last one written for a kind counts. -/

namespace GatewayFeed

namespace Snapshot

theorem get_set (s : Snapshot) (c : Collection) (k : Kind) :
    (s.set c).get k = if c.kind = k then some c else s.get k := by
  obtain ⟨j, xs⟩ := c
  by_cases h : j = k
  · subst h
    simp [get, set]
  · simp [get, set, h]

theorem eq_of_get {s t : Snapshot} (h : ∀ k, s.get k = t.get k) : s = t := by
  refine ext fun k => Option.map_injective (fun x y hxy => ?_) (h k)
  cases hxy
  rfl

@[simp] theorem setAll_cons (s : Snapshot) (c : Collection) (cs : List Collection) :
    s.setAll (c :: cs) = (s.set c).setAll cs := rfl

theorem get_setAll (s : Snapshot) (cs : List Collection) (k : Kind) :
    (s.setAll cs).get k = ((cs.filter (·.kind = k)).getLast?).or (s.get k) := by
  induction cs generalizing s with
  | nil => rfl
  | cons c cs ih =>
    rw [setAll_cons, ih, get_set]
    by_cases h : c.kind = k
    · cases hl : (cs.filter (·.kind = k)).getLast? <;> simp [h, List.getLast?_cons, hl]
    · simp [h]

theorem isPopulated_eq_isSome_get (s : Snapshot) (k : Kind) : s.isPopulated k = (s.get k).isSome := by
  simp [isPopulated, get]

end Snapshot

namespace Store

theorem snapshot_publish (s : Store) (cs : List Collection) :
    (s.publish cs).snapshot = s.snapshot.setAll cs := by
  unfold publish
  split
  · rename_i h
    rw [List.isEmpty_iff] at h
    subst h
    rfl
  · rfl

theorem get_publish (s : Store) (cs : List Collection) (k : Kind) :
    (s.publish cs).snapshot.get k = ((cs.filter (·.kind = k)).getLast?).or (s.snapshot.get k) := by
  rw [snapshot_publish, Snapshot.get_setAll]

end Store

end GatewayFeed
