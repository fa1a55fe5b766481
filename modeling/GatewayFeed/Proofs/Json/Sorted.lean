import Mathlib.Data.List.Induction
import GatewayFeed.Json.Basic

/-! The members of an object by their keys: sorted, each key once, and with the value that came last. -/

namespace GatewayFeed.Json

/-- Members in the order of their keys, none of which is repeated. -/
def Sorted (ms : List (String × Json)) : Prop := ms.Pairwise fun a b => a.1 < b.1

variable {key : String} {v : Json} {ms : List (String × Json)}

theorem mem_of_mem_insertMember {m : String × Json} (h : m ∈ insertMember key v ms) : m = (key, v) ∨ m ∈ ms := by
  induction ms with
  | nil => exact .inl (List.mem_singleton.1 h)
  | cons e ms ih =>
    rw [insertMember] at h
    split at h
    · exact List.mem_cons.1 h
    split at h
    · exact (List.mem_cons.1 h).imp_right (List.mem_cons_of_mem e)
    · rcases List.mem_cons.1 h with rfl | h
      · exact .inr List.mem_cons_self
      · exact (ih h).imp_right (List.mem_cons_of_mem e)

theorem Sorted.insertMember (h : Sorted ms) : Sorted (insertMember key v ms) := by
  induction ms with
  | nil => exact List.pairwise_singleton _ _
  | cons e ms ih =>
    obtain ⟨hfirst, hrest⟩ := List.pairwise_cons.1 h
    rw [Json.insertMember]
    split
    · rename_i hlt
      refine List.pairwise_cons.2 ⟨fun m hm => ?_, h⟩
      rcases List.mem_cons.1 hm with rfl | hm
      · exact hlt
      · exact String.lt_trans hlt (hfirst m hm)
    split
    · rename_i heq
      exact List.pairwise_cons.2 ⟨fun m hm => heq ▸ hfirst m hm, hrest⟩
    · rename_i hnot hne
      have hlt : e.1 < key := by
        refine String.not_le.1 fun hle => ?_
        exact hne (String.le_antisymm hle (String.not_lt.1 hnot))
      refine List.pairwise_cons.2 ⟨fun m hm => ?_, ih hrest⟩
      rcases mem_of_mem_insertMember hm with rfl | hm
      · exact hlt
      · exact hfirst m hm

theorem lookup_insertMember (key : String) (v : Json) (ms : List (String × Json)) (k : String) :
    (insertMember key v ms).lookup k = if k = key then some v else ms.lookup k := by
  have hcons : ∀ (key : String) (v : Json) (ms : List (String × Json)),
      ((key, v) :: ms).lookup k = if k = key then some v else ms.lookup k := by
    intro key v ms
    rw [List.lookup_cons]
    by_cases hk : k = key
    · simp [hk]
    · rw [beq_false_of_ne hk, if_neg hk]
  induction ms with
  | nil => exact hcons key v []
  | cons e ms ih =>
    obtain ⟨k', w⟩ := e
    rw [insertMember]
    split
    · exact hcons key v _
    split
    · rename_i heq
      subst heq
      rw [hcons, hcons]
      split <;> rfl
    · rename_i hne
      rw [hcons, hcons, ih]
      by_cases hk : k = key
      · subst hk
        rw [if_neg hne, if_pos rfl, if_pos rfl]
      · rw [if_neg hk, if_neg hk]

/-- A key behind all others comes last. -/
theorem insertMember_of_lt (h : ∀ m ∈ ms, m.1 < key) : Json.insertMember key v ms = ms ++ [(key, v)] := by
  induction ms with
  | nil => rfl
  | cons m ms ih =>
    have hm := h m List.mem_cons_self
    have hne : key ≠ m.1 := fun he => String.lt_irrefl _ (he ▸ hm)
    rw [Json.insertMember, if_neg (String.lt_asymm hm), if_neg hne,
      ih fun x hx => h x (List.mem_cons_of_mem _ hx)]
    rfl

theorem sortedMembers_concat (ms : List (String × Json)) (m : String × Json) :
    sortedMembers (ms ++ [m]) = Json.insertMember m.1 m.2 (sortedMembers ms) := by
  simp [sortedMembers]

theorem sorted_sortedMembers (ms : List (String × Json)) : Sorted (sortedMembers ms) := by
  induction ms using List.reverseRecOn with
  | nil => exact .nil
  | append_singleton ms m ih =>
    rw [sortedMembers_concat]
    exact ih.insertMember

theorem mem_of_mem_sortedMembers {m : String × Json} (h : m ∈ sortedMembers ms) : m ∈ ms := by
  induction ms using List.reverseRecOn with
  | nil => exact h
  | append_singleton ms e ih =>
    rw [sortedMembers_concat] at h
    rcases mem_of_mem_insertMember h with rfl | h
    · exact List.mem_append_right _ List.mem_cons_self
    · exact List.mem_append_left _ (ih h)

theorem sortedMembers_of_sorted (h : Sorted ms) : sortedMembers ms = ms := by
  induction ms using List.reverseRecOn with
  | nil => rfl
  | append_singleton ms m ih =>
    obtain ⟨hms, -, hlast⟩ := List.pairwise_append.1 h
    rw [sortedMembers_concat, ih hms]
    exact insertMember_of_lt fun e he => hlast e he m List.mem_cons_self

/-- Of several members with one key the last one counts. -/
theorem lookup_sortedMembers (ms : List (String × Json)) (k : String) :
    (sortedMembers ms).lookup k = ((ms.filter (·.1 = k)).getLast?).map (·.2) := by
  induction ms using List.reverseRecOn with
  | nil => rfl
  | append_singleton ms m ih =>
    rw [sortedMembers_concat, lookup_insertMember, ih, List.filter_append]
    by_cases hk : k = m.1
    · simp [hk]
    · simp [hk, Ne.symm hk]

end GatewayFeed.Json
