import GatewayFeed.Proofs.Json.Containers
import GatewayFeed.Proofs.Lookup

/-! A record means its members, by name. An object has them under its keys and an array under the keys
of the fields in their order; known members must be typed and must not be repeated, and any others
do not count. -/

namespace GatewayFeed

open Json (Written Member Padded)
open Json.Written (keyed? positional? record?)

/-- Values by name, in the order in which they are written. -/
abbrev Members := List (String × Written)

variable {τ ν : Type}

/-- A member by the name that its key spells. -/
def Json.Member.named? (m : Member Written) : Option (String × Written) :=
  m.key.text?.map fun k => (k, m.value.value)

theorem Record.has_iff (r : Record ν) (key : String) : r.has key = true ↔ key ∈ r.map (·.1) := by
  simp [Record.has]

namespace Shape

def knows (s : Shape τ) (name : String) : Bool := (s.field? name).isSome

/-- The known names among some members. -/
def knownNames (s : Shape τ) (ms : Members) : List String := (ms.map (·.1)).filter s.knows

/-- Where the names of the fields differ, each finds its own field. -/
def Distinct (s : Shape τ) : Prop := (s.fields.map (·.key)).Nodup

instance (s : Shape τ) : Decidable s.Distinct := inferInstanceAs (Decidable (List.Nodup _))

theorem field?_of_mem {s : Shape τ} (h : s.Distinct) {fd : Field τ} (hfd : fd ∈ s.fields) :
    s.field? fd.key = some fd := by
  obtain ⟨name, fields, partialArray⟩ := s
  unfold Distinct at h
  unfold field?
  simp only at h hfd ⊢
  induction fields with
  | nil => cases hfd
  | cons x xs ih =>
    rw [List.map_cons, List.nodup_cons] at h
    rcases List.mem_cons.1 hfd with rfl | hmem
    · simp
    · have hne : x.key ≠ fd.key := fun he => h.1 (he ▸ List.mem_map_of_mem hmem)
      rw [List.find?_cons_of_neg (by simpa using hne)]
      exact ih h.2 hmem

/-- The members of a record; an array may be too long, or too short for the shape. -/
def members? (s : Shape τ) : Written → Option Members
  | .object ms _ => ms.mapM Member.named?
  | .array ps _ =>
    if ps.length = s.fields.length ∨ (s.partialArray = true ∧ ps.length ≤ s.fields.length) then
      some ((s.fields.map (·.key)).zip (ps.map (·.value)))
    else none
  | _ => none

/-- The values of the known members, with those of `seen` before them. -/
def collect (s : Shape τ) (f : τ → Written → Option ν) : Record ν → Members → Option (Record ν)
  | seen, [] => some seen
  | seen, (name, v) :: ms =>
    match s.field? name with
    | some fd =>
      if seen.has name then none
      else (f fd.type v).bind fun x => collect s f (seen ++ [(name, x)]) ms
    | none => collect s f seen ms

theorem keyed?_eq_collect (s : Shape τ) (f : τ → Written → Option ν) (seen : Record ν)
    (ms : List (Member Written)) :
    keyed? s f seen ms = (ms.mapM Member.named?).bind (s.collect f seen) := by
  induction ms generalizing seen with
  | nil => rfl
  | cons m ms ih =>
    rw [List.mapM_cons, keyed?, Member.named?]
    cases hk : m.key.text? with
    | none => rfl
    | some k =>
      cases hms : ms.mapM Member.named? with
      | none =>
        simp only [hms, Option.bind_none] at ih
        simp only [Option.bind_some, ih, Option.bind_fun_none, ite_self]
        cases s.field? k <;> rfl
      | some xs =>
        simp only [hms, Option.bind_some] at ih
        simp only [Option.bind_some, ih]
        cases hfd : s.field? k <;> simp [collect, hfd]

theorem positional?_eq_collect {s : Shape τ} (f : τ → Written → Option ν) (seen : Record ν)
    {fds : List (Field τ)} (hfds : ∀ fd ∈ fds, s.field? fd.key = some fd)
    (hn : (seen.map (·.1) ++ fds.map (·.key)).Nodup) (ps : List (Padded Written)) :
    positional? s f fds seen ps =
      if ps.length = fds.length ∨ (s.partialArray = true ∧ ps.length ≤ fds.length) then
        s.collect f seen ((fds.map (·.key)).zip (ps.map (·.value)))
      else none := by
  induction fds generalizing seen ps with
  | nil =>
    cases ps with
    | nil => simp [positional?, collect]
    | cons p ps => simp [positional?]
  | cons fd fds ih =>
    cases ps with
    | nil => simp [positional?, collect]
    | cons p ps =>
      have hfd := hfds fd List.mem_cons_self
      have hseen : seen.has fd.key = false := by
        rw [← Bool.not_eq_true, Record.has_iff]
        intro hmem
        exact (List.nodup_append.1 hn).2.2 _ hmem _ List.mem_cons_self rfl
      have hn' : ∀ x : ν, ((seen ++ [(fd.key, x)]).map (·.1) ++ fds.map (·.key)).Nodup := by
        intro x
        simpa using hn
      have hrest := fun x =>
        ih (seen ++ [(fd.key, x)]) (fun fd hmem => hfds fd (List.mem_cons_of_mem _ hmem)) (hn' x) ps
      simp only [positional?, hrest, List.map_cons, List.zip_cons_cons, collect, hfd, hseen,
        List.length_cons, Nat.add_right_cancel_iff, Nat.add_le_add_iff_right]
      split <;> simp

/-- A record is read from its members, whichever of the two forms it has. -/
theorem record?_eq_collect {s : Shape τ} (h : s.Distinct) (f : τ → Written → Option ν) (v : Written) :
    record? s f v = (s.members? v).bind (s.collect f []) := by
  cases v with
  | object ms closing => exact s.keyed?_eq_collect f [] ms
  | array ps closing =>
    rw [record?, members?, positional?_eq_collect f [] (fun fd => field?_of_mem h) h]
    split <;> rfl
  | _ => rfl

/-- Members are collected if no known name is repeated and what stands under each is typed. -/
theorem isSome_collect (s : Shape τ) (f : τ → Written → Option ν) (seen : Record ν) (ms : Members) :
    (s.collect f seen ms).isSome = true ↔ (s.knownNames ms).Nodup ∧
      (∀ name ∈ s.knownNames ms, name ∉ seen.map (·.1)) ∧
      ∀ m ∈ ms, ∀ fd, s.field? m.1 = some fd → (f fd.type m.2).isSome = true := by
  induction ms generalizing seen with
  | nil => simp [collect, knownNames]
  | cons m ms ih =>
    obtain ⟨name, v⟩ := m
    cases hfd : s.field? name with
    | none =>
      have hknown : s.knownNames ((name, v) :: ms) = s.knownNames ms := by simp [knownNames, knows, hfd]
      rw [collect, hfd, hknown]
      simp [ih, hfd]
    | some fd =>
      have hknown : s.knownNames ((name, v) :: ms) = name :: s.knownNames ms := by
        simp [knownNames, knows, hfd]
      rw [collect, hfd, hknown, List.nodup_cons]
      simp only [List.forall_mem_cons]
      by_cases hseen : seen.has name = true
      · have hmem := (seen.has_iff name).1 hseen
        simp [hseen, hmem]
      have hmem : name ∉ seen.map (·.1) := fun h => hseen ((seen.has_iff name).2 h)
      cases hx : f fd.type v with
      | none => simp [hseen, hfd, hx]
      | some x =>
        have hnames : ∀ n, n ∉ (seen ++ [(name, x)]).map (·.1) ↔ n ∉ seen.map (·.1) ∧ n ≠ name := by
          intro n
          simp [not_or]
        simp only [hseen, if_false, Bool.false_eq_true, Option.bind_some, ih, hnames, hmem, not_false_eq_true,
          true_and, hfd, Option.some.injEq, forall_eq', hx, Option.isSome_some]
        constructor
        · rintro ⟨hn, hs, hm⟩
          exact ⟨⟨fun h => (hs name h).2 rfl, hn⟩, fun n h => (hs n h).1, hm⟩
        · rintro ⟨⟨hnot, hn⟩, hs, hm⟩
          exact ⟨hn, fun n h => ⟨hs n h, fun he => hnot (he ▸ h)⟩, hm⟩

/-- What is collected under a known name is what its first member means. -/
theorem lookup_collect {s : Shape τ} {f : τ → Written → Option ν} {seen r : Record ν} {ms : Members}
    (h : s.collect f seen ms = some r) {name : String} {fd : Field τ} (hfd : s.field? name = some fd) :
    r.lookup name = (seen.lookup name).or ((ms.lookup name).bind (f fd.type)) := by
  induction ms generalizing seen with
  | nil =>
    cases h
    simp
  | cons m ms ih =>
    obtain ⟨name', v⟩ := m
    rw [collect] at h
    cases hfd' : s.field? name' with
    | none =>
      have hne : name ≠ name' := fun he => by simp [← he, hfd] at hfd'
      rw [hfd'] at h
      rw [ih h, List.lookup_cons, beq_false_of_ne hne]
    | some fd' =>
      rw [hfd'] at h
      simp only at h
      split at h
      · cases h
      rename_i hseen
      obtain ⟨x, hx, h⟩ := Option.bind_eq_some_iff.1 h
      rw [ih h, List.lookup_append]
      by_cases he : name = name'
      · subst he
        obtain rfl : fd = fd' := Option.some.inj (hfd.symm.trans hfd')
        have hnone : seen.lookup name = none :=
          lookup_eq_none_of_not_mem fun hmem => hseen ((seen.has_iff name).2 hmem)
        simp [hnone, hx]
      · rw [List.lookup_cons, List.lookup_cons, beq_false_of_ne he]
        simp

end Shape

end GatewayFeed
