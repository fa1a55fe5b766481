import Mathlib.Data.List.Basic
import Mathlib.Data.List.TakeWhile
import Mathlib.Tactic.SplitIfs
import GatewayFeed.Proofs.Url.Segments
import GatewayFeed.Url.Basic

/-! Slashes at the end of a path. A path that ends in more slashes than its text lets expect has got them
from dots behind an empty segment. -/

namespace GatewayFeed

def trailingSlashes (cs : List Char) : Nat := (cs.reverse.takeWhile (· = '/')).length

section Trailing

variable {cs : List Char}

theorem withoutSlashes_append_trailing (cs : List Char) :
    Endpoint.withoutSlashes cs ++ List.replicate (trailingSlashes cs) '/' = cs := by
  have hslashes : cs.reverse.takeWhile (· = '/') = List.replicate (trailingSlashes cs) '/' := by
    rw [List.eq_replicate_iff]
    refine ⟨rfl, ?_⟩
    intro c hc
    simpa using List.mem_takeWhile_imp hc
  have hsplit := List.takeWhile_append_dropWhile (p := fun c => decide (c = '/')) (l := cs.reverse)
  rw [hslashes] at hsplit
  have hreverse := congrArg List.reverse hsplit
  rwa [List.reverse_append, List.reverse_reverse, List.reverse_replicate] at hreverse

theorem trailingSlashes_append_replicate (cs : List Char) (n : Nat) :
    trailingSlashes (cs ++ List.replicate n '/') = trailingSlashes cs + n := by
  unfold trailingSlashes
  rw [List.reverse_append, List.reverse_replicate, List.takeWhile_append_of_pos (by simp), List.length_append,
    List.length_replicate, Nat.add_comm]

theorem withoutSlashes_append_replicate (cs : List Char) (n : Nat) :
    Endpoint.withoutSlashes (cs ++ List.replicate n '/') = Endpoint.withoutSlashes cs := by
  unfold Endpoint.withoutSlashes
  rw [List.reverse_append, List.reverse_replicate, List.dropWhile_append_of_pos (by simp)]

theorem withoutSlashes_eq_iff : Endpoint.withoutSlashes cs = cs ↔ trailingSlashes cs = 0 := by
  have hsplit := withoutSlashes_append_trailing cs
  constructor
  · intro h
    rw [h] at hsplit
    simpa using hsplit
  · intro h
    rwa [h, List.replicate_zero, List.append_nil] at hsplit

theorem trailingSlashes_eq_zero {c : Char} (h : cs.getLast? = some c) (hc : c ≠ '/') : trailingSlashes cs = 0 := by
  rw [← List.head?_reverse] at h
  obtain ⟨rest, hrest⟩ := List.head?_eq_some_iff.1 h
  rw [trailingSlashes, hrest, List.takeWhile_cons_of_neg (by simpa using hc)]
  rfl

end Trailing

namespace Url

open Walk

theorem chars_append (ss ss' : List (List Char)) :
    (Path.segments (ss ++ ss')).chars = (Path.segments ss).chars ++ (Path.segments ss').chars :=
  List.flatMap_append

theorem chars_empty_segments (n : Nat) : (Path.segments (List.replicate n [])).chars = List.replicate n '/' := by
  induction n with
  | zero => rfl
  | succ n ih =>
    rw [List.replicate_succ, List.replicate_succ, ← ih]
    rfl

theorem trailingSlashes_append_empty (ss : List (List Char)) (n : Nat) :
    trailingSlashes (Path.segments (ss ++ List.replicate n [])).chars =
      trailingSlashes (Path.segments ss).chars + n := by
  rw [chars_append, chars_empty_segments, trailingSlashes_append_replicate]

theorem withoutSlashes_append_empty (ss : List (List Char)) (n : Nat) :
    Endpoint.withoutSlashes (Path.segments (ss ++ List.replicate n [])).chars =
      Endpoint.withoutSlashes (Path.segments ss).chars := by
  rw [chars_append, chars_empty_segments, withoutSlashes_append_replicate]

theorem upperHex_ne_slash : ∀ n < 16, upperHex n ≠ '/' := by decide

/-- What is written for a character of a segment ends in no slash. -/
theorem getLast?_percentChar {c : Char} (hc : isSlash c = false) :
    ∃ x, (percentChar pathSet c).getLast? = some x ∧ x ≠ '/' := by
  unfold percentChar
  split
  · have hne : Utf8.encodeChar c ≠ [] := by
      unfold Utf8.encodeChar
      dsimp only
      split_ifs <;> exact List.cons_ne_nil _ _
    obtain ⟨bs, b, hbs⟩ := (List.eq_nil_or_concat' (Utf8.encodeChar c)).resolve_left hne
    refine ⟨upperHex (b.toNat % 16), ?_, upperHex_ne_slash _ (Nat.mod_lt _ (by decide))⟩
    rw [hbs, List.flatMap_append, List.flatMap_singleton, List.getLast?_append]
    rfl
  · refine ⟨c, rfl, ?_⟩
    intro he
    rw [he] at hc
    cases hc

theorem pushSegment_cases (ss : List (List Char)) (s : List Char) :
    pushSegment ss s true = pushSegment ss s false ++ [[]] ∨ ∀ last, pushSegment ss s last = ss ++ [s] := by
  unfold pushSegment
  split
  · exact .inl (by simp)
  · split
    · exact .inl (by simp)
    · exact .inr fun _ => rfl

theorem finish_append_slashes {n : Nat} (cs : List Char) (hn : 0 < n) :
    (walkPath (cs ++ List.replicate n '/')).finish = above cs ++ List.replicate n [] := by
  cases n with
  | zero => cases hn
  | succ n =>
    rw [List.replicate_succ, walkPath_append_slash, walk_slashes, List.replicate_succ', ← List.append_assoc]
    rfl

/-- Where a path ends without a slash: behind dots there is one more empty segment than above it. -/
theorem finish_cases {cs : List Char} (hstart : StartsPath cs)
    (h : ∀ c, cs.getLast? = some c → isSlash c = false) :
    (walkPath cs).finish = above cs ++ [[]] ∨
      (walkPath cs).finish = above cs ∧ trailingSlashes (Path.segments (above cs)).chars = 0 := by
  cases cs with
  | nil => exact .inl rfl
  | cons c cs =>
    rcases pushSegment_cases (walk ⟨[], []⟩ cs).segments (walk ⟨[], []⟩ cs).current with hdots | hplain
    · exact .inl hdots
    · refine .inr ⟨(hplain true).trans (hplain false).symm, ?_⟩
      rcases List.eq_nil_or_concat' cs with rfl | ⟨ds, d, rfl⟩
      · have hslash := hstart c rfl
        rw [h c rfl] at hslash
        cases hslash
      · have hd : isSlash d = false := h d (List.getLast?_concat (l := c :: ds))
        have habove : above (c :: (ds ++ [d])) = (walk ⟨[], []⟩ ds).segments ++
            [(walk ⟨[], []⟩ ds).current ++ percentChar pathSet d] := by
          rw [walk_append, walk_cons, read_other hd] at hplain
          rw [above, walk_append, walk_cons, read_other hd]
          exact hplain false
        obtain ⟨x, hx, hne⟩ := getLast?_percentChar hd
        refine trailingSlashes_eq_zero ?_ hne
        rw [habove, chars_append, List.getLast?_append]
        have hlast : (Path.segments [(walk ⟨[], []⟩ ds).current ++ percentChar pathSet d]).chars =
            '/' :: (walk ⟨[], []⟩ ds).current ++ percentChar pathSet d := by
          simp [Path.chars]
        rw [hlast, List.getLast?_append, hx]
        rfl

/-- A path is what is above its end, but for empty segments. -/
theorem exists_finish_eq (cs : List Char) (n : Nat) :
    ∃ k, (walkPath (cs ++ List.replicate n '/')).finish = above cs ++ List.replicate k [] := by
  rcases Nat.eq_zero_or_pos n with rfl | hpos
  · rw [List.replicate_zero, List.append_nil]
    cases cs with
    | nil => exact ⟨1, rfl⟩
    | cons c cs =>
      rcases pushSegment_cases (walk ⟨[], []⟩ cs).segments (walk ⟨[], []⟩ cs).current with hdots | hplain
      · exact ⟨1, hdots⟩
      · exact ⟨0, (hplain true).trans ((hplain false).symm.trans (List.append_nil _).symm)⟩
  · exact ⟨n, finish_append_slashes cs hpos⟩

/-- A backslash counts as a slash where a path is read, and is none where slashes are taken away. -/
theorem above_backslash {cs : List Char} (hstart : StartsPath cs) (h : cs.getLast? = some '\\') :
    trailingSlashes (Path.segments (above cs)).chars ≠ 0 := by
  cases cs with
  | nil => cases h
  | cons c cs =>
    have habove : ∃ ss, above (c :: cs) = ss ++ [[]] := by
      rcases List.eq_nil_or_concat' cs with rfl | ⟨ds, d, rfl⟩
      · exact ⟨[], rfl⟩
      · rw [← List.cons_append, List.getLast?_concat] at h
        cases h
        refine ⟨(walk ⟨[], []⟩ ds).enter, ?_⟩
        rw [above, walk_append, walk_cons, read_slash rfl]
        rfl
    obtain ⟨ss, hss⟩ := habove
    rw [hss, show [[]] = List.replicate 1 ([] : List Char) from rfl, trailingSlashes_append_empty]
    exact Nat.succ_ne_zero _

/-- When the slashes that end the text of a path are all that end the path. -/
theorem above_closed_iff {cs : List Char} {n : Nat} (hstart : StartsPath cs)
    (hn : n = 0 → cs.getLast? ≠ some '/') :
    trailingSlashes (Path.segments (above cs)).chars = 0 ↔
      (n = 0 → cs.getLast? ≠ some '\\') ∧
        trailingSlashes (Path.segments (walkPath (cs ++ List.replicate n '/')).finish).chars ≤ max 1 n := by
  rcases Nat.eq_zero_or_pos n with rfl | hpos
  · rw [List.replicate_zero, List.append_nil]
    by_cases hb : cs.getLast? = some '\\'
    · have hne := above_backslash hstart hb
      constructor
      · intro h
        exact absurd h hne
      · intro h
        exact absurd hb (h.1 rfl)
    · have hlast : ∀ c, cs.getLast? = some c → isSlash c = false := by
        intro c hc
        by_contra hs
        rw [Bool.not_eq_false, isSlash, Bool.or_eq_true, decide_eq_true_eq, decide_eq_true_eq] at hs
        rcases hs with rfl | rfl
        · exact hn rfl hc
        · exact hb hc
      rcases finish_cases hstart hlast with hf | ⟨hf, hz⟩
      · rw [hf, show [[]] = List.replicate 1 ([] : List Char) from rfl, trailingSlashes_append_empty]
        constructor
        · intro h
          exact ⟨fun _ => hb, by omega⟩
        · intro h
          omega
      · rw [hf, hz]
        exact ⟨fun _ => ⟨fun _ => hb, Nat.zero_le _⟩, fun _ => rfl⟩
  · rw [finish_append_slashes cs hpos, trailingSlashes_append_empty]
    constructor
    · intro h
      exact ⟨fun h0 => absurd h0 (Nat.ne_of_gt hpos), by omega⟩
    · intro h
      omega

end Url

end GatewayFeed
