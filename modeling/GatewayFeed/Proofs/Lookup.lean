import Mathlib.Data.List.Perm.Basic
import Mathlib.Data.List.TakeWhile

/-! Lookup in lists, by key and by position, where a list is cut, and what a partial function makes of all
members. -/

namespace GatewayFeed

variable {α β : Type} [BEq α] [LawfulBEq α] {l l' : List (α × β)} {a : α} {b : β}

theorem mem_of_lookup (h : l.lookup a = some b) : (a, b) ∈ l := by
  obtain ⟨l₁, l₂, rfl, -⟩ := List.lookup_eq_some_iff.1 h
  simp

theorem lookup_eq_none_of_not_mem (h : a ∉ l.map (·.1)) : l.lookup a = none := by
  rw [List.lookup_eq_none_iff]
  intro p hp
  have hne : a ≠ p.1 := fun he => h (he ▸ List.mem_map_of_mem hp)
  simpa using hne

theorem lookup_of_mem (hn : (l.map (·.1)).Nodup) (h : (a, b) ∈ l) : l.lookup a = some b := by
  induction l with
  | nil => cases h
  | cons p l ih =>
    rw [List.map_cons, List.nodup_cons] at hn
    rcases List.mem_cons.1 h with rfl | h
    · simp
    · have hne : a ≠ p.1 := fun he => hn.1 (he ▸ List.mem_map_of_mem h)
      rw [List.lookup_cons, beq_false_of_ne hne]
      exact ih hn.2 h

theorem lookup_eq_some_iff_mem (hn : (l.map (·.1)).Nodup) : l.lookup a = some b ↔ (a, b) ∈ l :=
  ⟨mem_of_lookup, lookup_of_mem hn⟩

/-- The order of pairs does not matter where no key occurs twice. -/
theorem lookup_perm (h : l.Perm l') (hn : (l.map (·.1)).Nodup) (a : α) : l.lookup a = l'.lookup a := by
  have hn' : (l'.map (·.1)).Nodup := (h.map _).nodup_iff.1 hn
  ext b
  rw [lookup_eq_some_iff_mem hn, lookup_eq_some_iff_mem hn', h.mem_iff]

theorem lookup_filter {p : α → Bool} (ha : p a = true) :
    (l.filter fun x => p x.1).lookup a = l.lookup a := by
  induction l with
  | nil => rfl
  | cons x l ih =>
    obtain ⟨c, d⟩ := x
    by_cases hc : p c = true
    · rw [List.filter_cons, if_pos hc, List.lookup_cons, List.lookup_cons, ih]
    · have hne : a ≠ c := fun he => hc (he ▸ ha)
      rw [List.filter_cons, if_neg hc, ih, List.lookup_cons, beq_false_of_ne hne]

/-- What stands at a position after another entry was put somewhere. -/
theorem getElem?_set_cases {γ : Type} {l : List γ} {c d : γ} {i j : Nat} (h : (l.set i c)[j]? = some d) :
    j = i ∧ d = c ∨ j ≠ i ∧ l[j]? = some d := by
  rw [List.getElem?_set] at h
  split at h
  · rename_i he
    split at h
    · cases h
      exact .inl ⟨he.symm, rfl⟩
    · cases h
  · rename_i he
    exact .inr ⟨fun hj => he hj.symm, h⟩

theorem getElem?_set_of_some {γ : Type} {l : List γ} {c : γ} {i : Nat} (h : l[i]? = some c) (d : γ) :
    (l.set i d)[i]? = some d :=
  List.getElem?_set_self (List.getElem?_eq_some_iff.1 h).1

/-- An entry that differs from the old one only where `f` does not look. -/
theorem map_set_of_some {γ δ : Type} {l : List γ} {c d : γ} {i : Nat} {f : γ → δ} (h : l[i]? = some c)
    (hf : f d = f c) : (l.set i d).map f = l.map f := by
  obtain ⟨hlt, rfl⟩ := List.getElem?_eq_some_iff.1 h
  rw [List.map_set, hf]
  apply List.ext_getElem (by simp)
  intro n hn hn'
  rw [List.getElem_set]
  split
  · rename_i he
    subst he
    rw [List.getElem_map]
  · rfl

/-- A list is cut where its first part ends, if only the first part passes the test. -/
theorem takeWhile_append_ends {γ : Type} {p : γ → Bool} {cs rest : List γ} (h : ∀ c ∈ cs, p c = true)
    (hr : ∀ c ∈ rest.head?, p c = false) :
    (cs ++ rest).takeWhile p = cs ∧ (cs ++ rest).dropWhile p = rest := by
  rw [List.takeWhile_append_of_pos h, List.dropWhile_append_of_pos h]
  cases rest with
  | nil => simp
  | cons c rest =>
    have hc : ¬ p c = true := by simp [hr c rfl]
    rw [List.takeWhile_cons_of_neg hc, List.dropWhile_cons_of_neg hc, List.append_nil]
    exact ⟨rfl, rfl⟩

/-- What stands before the first `c` can be read off the whole list. -/
theorem eq_of_append_cons {γ : Type} {c : γ} {xs ys us vs : List γ} (hx : c ∉ xs) (hy : c ∉ ys)
    (h : xs ++ c :: us = ys ++ c :: vs) : xs = ys := by
  classical
  have hends : ∀ zs ws : List γ, c ∉ zs → (zs ++ c :: ws).takeWhile (· ≠ c) = zs := by
    intro zs ws hzs
    refine (takeWhile_append_ends (fun d hd => ?_) (by simp)).1
    exact decide_eq_true fun he => hzs (he ▸ hd)
  rw [← hends xs us hx, h, hends ys vs hy]

/-- What does not pass the test is never dropped. -/
theorem mem_dropWhile_iff {γ : Type} {p : γ → Bool} {c : γ} {cs : List γ} (hc : p c = false) :
    c ∈ cs.dropWhile p ↔ c ∈ cs := by
  constructor
  · intro h
    exact (List.dropWhile_sublist p).subset h
  · intro h
    rw [← List.takeWhile_append_dropWhile (p := p) (l := cs)] at h
    rcases List.mem_append.1 h with h | h
    · have hpass := List.mem_takeWhile_imp h
      rw [hc] at hpass
      cases hpass
    · exact h

theorem eq_ok_of_toOption {ε γ : Type} {x : Except ε γ} {c : γ} (h : x.toOption = some c) : x = .ok c := by
  cases x with
  | error e => cases h
  | ok d => exact congrArg Except.ok (Option.some.inj h)

theorem mapM_some {γ δ : Type} {f : γ → Option δ} {g : γ → δ} (xs : List γ) (h : ∀ x ∈ xs, f x = some (g x)) :
    xs.mapM f = some (xs.map g) := by
  induction xs with
  | nil => rfl
  | cons x xs ih =>
    rw [List.mapM_cons, h x List.mem_cons_self, ih fun y hy => h y (List.mem_cons_of_mem _ hy)]
    rfl

theorem mapM_eq_none_iff {γ δ : Type} {f : γ → Option δ} {xs : List γ} :
    xs.mapM f = none ↔ ∃ x ∈ xs, f x = none := by
  induction xs with
  | nil => simp
  | cons x xs ih =>
    rw [List.mapM_cons, List.exists_mem_cons_iff, ← ih]
    cases f x <;> cases xs.mapM f <;> simp

theorem exists_of_mem_mapM {γ δ : Type} {f : γ → Option δ} {xs : List γ} {ys : List δ}
    (h : xs.mapM f = some ys) {y : δ} (hy : y ∈ ys) : ∃ x ∈ xs, f x = some y := by
  induction xs generalizing ys with
  | nil =>
    cases h
    cases hy
  | cons x xs ih =>
    rw [List.mapM_cons] at h
    obtain ⟨z, hz, h⟩ := Option.bind_eq_some_iff.1 h
    obtain ⟨zs, hzs, h⟩ := Option.bind_eq_some_iff.1 h
    cases h
    rcases List.mem_cons.1 hy with rfl | hy
    · exact ⟨x, List.mem_cons_self, hz⟩
    · obtain ⟨a, ha, hfa⟩ := ih hzs hy
      exact ⟨a, List.mem_cons_of_mem x ha, hfa⟩

end GatewayFeed
