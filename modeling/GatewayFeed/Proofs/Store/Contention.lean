import Mathlib.Data.List.Nodup
import GatewayFeed.Proofs.Lookup
import GatewayFeed.Proofs.Run
import GatewayFeed.Proofs.Store.Objects

/-! Several calls that publish at once. Each reads what is current, makes a successor of it, and installs
the successor if what it read is current still; otherwise it starts over. The calls take effect one after
another, in the order in which they install, and each gives back what it has installed itself. -/

namespace GatewayFeed

/-- Where a call stands. -/
inductive Publisher.Stage where
  | called
  | read (old : Handle)
  | built (old new : Handle)
  | installed
  | returned (r : Handle)

/-- A call that publishes. -/
structure Publisher where
  collections : List Collection
  stage : Publisher.Stage := .called
  /-- The successor that it has made last. -/
  made : Option Handle := none

/-- A try to install a successor. -/
structure Attempt where
  publisher : Nat
  new : Handle
  succeeded : Bool
  deriving DecidableEq

namespace Publisher

/-- The successor that a call is about to install. -/
def pending? (p : Publisher) : Option Handle :=
  match p.stage with
  | .built _ new => some new
  | _ => none

/-- Whether no try of a call has succeeded. -/
def Unserved (as : List Attempt) (i : Nat) : Prop := ∀ a ∈ as, a.publisher = i → a.succeeded = false

/-- What holds of a call at its stage, after the tries `as`. -/
def Fits (m : Memory) (as : List Attempt) (i : Nat) (p : Publisher) : Prop :=
  match p.stage with
  | .called => Unserved as i
  | .read old => old < m.fresh ∧ Unserved as i
  | .built old new =>
    old < m.fresh ∧ new < m.fresh ∧ m.shows new = (m.shows old).setAll p.collections ∧
      p.made = some new ∧ (∀ a ∈ as, a.new ≠ new) ∧ Unserved as i
  | .installed => ∃ r, p.made = some r ∧ ⟨i, r, true⟩ ∈ as
  | .returned r => p.collections = [] ∨ ⟨i, r, true⟩ ∈ as

variable {m : Memory} {as : List Attempt} {i : Nat} {p : Publisher} {b : Attempt}

theorem Unserved.append (h : Unserved as i) (hb : b.publisher = i → b.succeeded = false) :
    Unserved (as ++ [b]) i := by
  intro a ha
  rcases List.mem_append.1 ha with ha | ha
  · exact h a ha
  · rw [List.mem_singleton.1 ha]
    exact hb

theorem Fits.make (h : p.Fits m as i) (s : Snapshot) : p.Fits (m.make s) as i := by
  unfold Fits at h ⊢
  split at h
  · exact h
  · exact ⟨Nat.lt_succ_of_lt h.1, h.2⟩
  · obtain ⟨hold, hnew, hshows, hrest⟩ := h
    refine ⟨Nat.lt_succ_of_lt hold, Nat.lt_succ_of_lt hnew, ?_, hrest⟩
    rw [Memory.shows_make _ hold, Memory.shows_make _ hnew, hshows]
  · exact h
  · exact h

/-- The tries of other calls do not matter, except that they install other successors. -/
theorem Fits.attempt (h : p.Fits m as i) (hb : b.publisher ≠ i) (hp : p.pending? ≠ some b.new) (r : Handle) :
    p.Fits (m.install r) (as ++ [b]) i := by
  have hunserved : Unserved as i → Unserved (as ++ [b]) i := fun h => h.append fun he => absurd he hb
  unfold Fits at h ⊢
  split at h
  · exact hunserved h
  · exact ⟨h.1, hunserved h.2⟩
  · rename_i old new hs
    obtain ⟨hold, hnew, hshows, hmade, hfree, hu⟩ := h
    refine ⟨hold, hnew, hshows, hmade, ?_, hunserved hu⟩
    intro a ha
    rcases List.mem_append.1 ha with ha | ha
    · exact hfree a ha
    · rw [List.mem_singleton.1 ha]
      intro he
      exact hp (by simp [pending?, hs, he])
  · obtain ⟨r, hmade, hr⟩ := h
    exact ⟨r, hmade, List.mem_append_left _ hr⟩
  · exact h.imp_right fun hr => List.mem_append_left _ hr

end Publisher

structure Contention where
  memory : Memory
  publishers : List Publisher
  attempts : List Attempt := []

namespace Contention

def begin (store : Store) (calls : List (List Collection)) : Contention where
  memory := ⟨fun _ => store.snapshot, 1, 0⟩
  publishers := calls.map fun cs => { collections := cs }

def setPublisher (c : Contention) (i : Nat) (p : Publisher) : Contention :=
  { c with publishers := c.publishers.set i p }

/-- The next step of a call, which goes by its position in the list. A call that has returned takes none. -/
def step (c : Contention) (i : Nat) : Option Contention :=
  match c.publishers[i]? with
  | none => none
  | some p =>
    match p.stage with
    | .called =>
      if p.collections.isEmpty then
        some (c.setPublisher i { p with stage := .returned c.memory.current })
      else some (c.setPublisher i { p with stage := .read c.memory.current })
    | .read old =>
      let new := c.memory.fresh
      some { c.setPublisher i { p with stage := .built old new, made := some new } with
        memory := c.memory.make ((c.memory.shows old).setAll p.collections) }
    | .built old new =>
      if c.memory.current = old then
        some { c.setPublisher i { p with stage := .installed } with
          memory := c.memory.install new, attempts := c.attempts ++ [⟨i, new, true⟩] }
      else
        some { c.setPublisher i { p with stage := .called } with
          attempts := c.attempts ++ [⟨i, new, false⟩] }
    | .installed =>
      some (c.setPublisher i { p with stage := .returned (p.made.getD c.memory.current) })
    | .returned _ => none

/-- Steps of the calls in any order. -/
def run (c : Contention) (is : List Nat) : Option Contention := is.foldlM step c

/-- The tries that succeeded, in this order. -/
def swaps (c : Contention) : List Attempt := c.attempts.filter (·.succeeded)

/-- The store after the calls of some attempts, one after another. -/
def serial (store : Store) (calls : List (List Collection)) (as : List Attempt) : Store :=
  (as.map fun a => calls.getD a.publisher []).foldl Store.publish store

variable {store : Store} {calls : List (List Collection)} {c c' : Contention} {i j : Nat} {p q : Publisher}

/-- What a single step can do. -/
inductive Step (c : Contention) (i : Nat) (p : Publisher) : Contention → Prop
  | skip (hs : p.stage = .called) (hcs : p.collections = []) :
      Step c i p (c.setPublisher i { p with stage := .returned c.memory.current })
  | read (hs : p.stage = .called) (hcs : p.collections ≠ []) :
      Step c i p (c.setPublisher i { p with stage := .read c.memory.current })
  | build {old : Handle} (hs : p.stage = .read old) :
      Step c i p { c.setPublisher i { p with stage := .built old c.memory.fresh, made := some c.memory.fresh } with
        memory := c.memory.make ((c.memory.shows old).setAll p.collections) }
  | install {old new : Handle} (hs : p.stage = .built old new) (hc : c.memory.current = old) :
      Step c i p { c.setPublisher i { p with stage := .installed } with
        memory := c.memory.install new, attempts := c.attempts ++ [⟨i, new, true⟩] }
  | fail {old new : Handle} (hs : p.stage = .built old new) (hc : c.memory.current ≠ old) :
      Step c i p { c.setPublisher i { p with stage := .called } with
        attempts := c.attempts ++ [⟨i, new, false⟩] }
  | finish (hs : p.stage = .installed) :
      Step c i p (c.setPublisher i { p with stage := .returned (p.made.getD c.memory.current) })

theorem step_of_eq_some (h : c.step i = some c') : ∃ p, c.publishers[i]? = some p ∧ Step c i p c' := by
  unfold step at h
  split at h
  · cases h
  rename_i p hp
  refine ⟨p, hp, ?_⟩
  split at h
  · rename_i hs
    split at h
    · rename_i hcs
      cases h
      exact .skip hs (List.isEmpty_iff.1 hcs)
    · rename_i hcs
      cases h
      exact .read hs fun he => hcs (List.isEmpty_iff.2 he)
  · rename_i hs
    cases h
    exact .build hs
  · rename_i hs
    split at h
    · rename_i hc
      cases h
      exact .install hs hc
    · rename_i hc
      cases h
      exact .fail hs hc
  · rename_i hs
    cases h
    exact .finish hs
  · cases h

theorem Step.eq_some (hi : c.publishers[i]? = some p) (h : Step c i p c') : c.step i = some c' := by
  cases h with
  | skip hs hcs => simp [step, hi, hs, hcs]
  | read hs hcs => simp [step, hi, hs, hcs]
  | build hs => simp [step, hi, hs]
  | install hs hc => simp [step, hi, hs, hc]
  | fail hs hc => simp [step, hi, hs, hc]
  | finish hs => simp [step, hi, hs]

/-- Every call fits its stage, and no successor is made twice or tried twice. -/
structure Sound (calls : List (List Collection)) (c : Contention) : Prop where
  calls : c.publishers.map (·.collections) = calls
  current_lt : c.memory.current < c.memory.fresh
  attempts_lt : ∀ a ∈ c.attempts, a.new < c.memory.fresh
  attempts_nodup : (c.attempts.map (·.new)).Nodup
  fits : ∀ (i : Nat) (p : Publisher), c.publishers[i]? = some p → p.Fits c.memory c.attempts i
  pending : ∀ (i j : Nat) (p q : Publisher) (r : Handle), c.publishers[i]? = some p →
    c.publishers[j]? = some q → p.pending? = some r → q.pending? = some r → i = j

theorem sound_begin (store : Store) (calls : List (List Collection)) :
    Sound calls (begin store calls) := by
  have hcalled : ∀ (i : Nat) (p : Publisher), (begin store calls).publishers[i]? = some p → p.stage = .called := by
    intro i p hp
    rw [begin, List.getElem?_map] at hp
    obtain ⟨cs, -, rfl⟩ := Option.map_eq_some_iff.1 hp
    rfl
  refine ⟨?_, Nat.one_pos, nofun, List.nodup_nil, ?_, ?_⟩
  · simp [begin, Function.comp_def]
  · intro i p hp
    rw [Publisher.Fits, hcalled i p hp]
    exact nofun
  · intro i j p q r hp hq hr
    rw [Publisher.pending?, hcalled i p hp] at hr
    cases hr

theorem Sound.setPublisher {p' : Publisher} (h : Sound calls c) (hi : c.publishers[i]? = some p)
    (hcs : p'.collections = p.collections) (hf : p'.Fits c.memory c.attempts i)
    (hn : ∀ (j : Nat) (q : Publisher) (r : Handle), c.publishers[j]? = some q → q.pending? = some r →
      p'.pending? ≠ some r) :
    Sound calls (c.setPublisher i p') := by
  refine ⟨(map_set_of_some hi hcs).trans h.calls, h.current_lt, h.attempts_lt, h.attempts_nodup, ?_, ?_⟩
  · intro j q hq
    rcases getElem?_set_cases hq with ⟨rfl, rfl⟩ | ⟨-, hq⟩
    · exact hf
    · exact h.fits j q hq
  · intro j k q q' r hq hq' hr hr'
    rcases getElem?_set_cases hq with ⟨rfl, rfl⟩ | ⟨-, hold⟩
    · rcases getElem?_set_cases hq' with ⟨rfl, rfl⟩ | ⟨-, hold'⟩
      · rfl
      · exact absurd hr (hn k q' r hold' hr')
    · rcases getElem?_set_cases hq' with ⟨rfl, rfl⟩ | ⟨-, hold'⟩
      · exact absurd hr' (hn j q r hold hr)
      · exact h.pending j k q q' r hold hold' hr hr'

theorem Sound.make (h : Sound calls c) (s : Snapshot) : Sound calls { c with memory := c.memory.make s } where
  calls := h.calls
  current_lt := Nat.lt_succ_of_lt h.current_lt
  attempts_lt a ha := Nat.lt_succ_of_lt (h.attempts_lt a ha)
  attempts_nodup := h.attempts_nodup
  fits i p hp := (h.fits i p hp).make s
  pending := h.pending

/-- What is pending was given out. -/
theorem Sound.pending_lt {r : Handle} (h : Sound calls c) (hi : c.publishers[i]? = some p)
    (hr : p.pending? = some r) : r < c.memory.fresh := by
  have hf := h.fits i p hi
  unfold Publisher.pending? at hr
  split at hr
  · rename_i old new hs
    cases hr
    rw [Publisher.Fits, hs] at hf
    exact hf.2.1
  · cases hr

/-- A call tries the successor that it has made, whatever is current after that. -/
theorem Sound.attempt {p' : Publisher} {b : Attempt} {r : Handle} (h : Sound calls c)
    (hi : c.publishers[i]? = some p) (hb : b.publisher = i) (hp : p.pending? = some b.new)
    (hfree : ∀ a ∈ c.attempts, a.new ≠ b.new) (hcs : p'.collections = p.collections)
    (hn : p'.pending? = none) (hf : p'.Fits (c.memory.install r) (c.attempts ++ [b]) i)
    (hr : r < c.memory.fresh) :
    Sound calls { c.setPublisher i p' with memory := c.memory.install r, attempts := c.attempts ++ [b] } := by
  refine ⟨(map_set_of_some hi hcs).trans h.calls, hr, ?_, ?_, ?_, ?_⟩
  · intro a ha
    rcases List.mem_append.1 ha with ha | ha
    · exact h.attempts_lt a ha
    · rw [List.mem_singleton.1 ha]
      exact h.pending_lt hi hp
  · rw [List.map_append, List.nodup_append]
    refine ⟨h.attempts_nodup, List.pairwise_singleton _ _, ?_⟩
    intro x hx y hy
    obtain ⟨a, ha, rfl⟩ := List.mem_map.1 hx
    rw [List.mem_singleton.1 hy]
    exact hfree a ha
  · intro j q hq
    rcases getElem?_set_cases hq with ⟨rfl, rfl⟩ | ⟨hj, hq⟩
    · exact hf
    · refine (h.fits j q hq).attempt (fun he => hj (he.symm.trans hb)) ?_ r
      intro hq'
      exact hj (h.pending j i q p b.new hq hi hq' hp)
  · intro j k q q' x hq hq' hx hx'
    rcases getElem?_set_cases hq with ⟨rfl, rfl⟩ | ⟨-, hq⟩
    · rw [hn] at hx
      cases hx
    · rcases getElem?_set_cases hq' with ⟨rfl, rfl⟩ | ⟨-, hq'⟩
      · rw [hn] at hx'
        cases hx'
      · exact h.pending j k q q' x hq hq' hx hx'

theorem sound_step (h : Sound calls c) (hi : c.publishers[i]? = some p) (hs : Step c i p c') : Sound calls c' := by
  have hf := h.fits i p hi
  cases hs with
  | skip hs hcs => exact h.setPublisher hi rfl (.inl hcs) nofun
  | read hs hcs =>
    rw [Publisher.Fits, hs] at hf
    exact h.setPublisher hi rfl ⟨h.current_lt, hf⟩ nofun
  | @build old hs =>
    rw [Publisher.Fits, hs] at hf
    obtain ⟨hold, hu⟩ := hf
    refine (h.make _).setPublisher hi rfl ?_ ?_
    · refine ⟨Nat.lt_succ_of_lt hold, Nat.lt_succ_self _, ?_, rfl, ?_, hu⟩
      · rw [Memory.shows_make_fresh, Memory.shows_make _ hold]
      · intro a ha
        exact Nat.ne_of_lt (h.attempts_lt a ha)
    · intro j q r hq hr he
      cases he
      exact Nat.lt_irrefl _ (h.pending_lt hq hr)
  | @install old new hs hc =>
    have hp : p.pending? = some new := by rw [Publisher.pending?, hs]
    rw [Publisher.Fits, hs] at hf
    obtain ⟨-, hnew, -, hmade, hfree, -⟩ := hf
    exact h.attempt hi rfl hp hfree rfl rfl ⟨new, hmade, by simp⟩ hnew
  | @fail old new hs hc =>
    have hp : p.pending? = some new := by rw [Publisher.pending?, hs]
    rw [Publisher.Fits, hs] at hf
    obtain ⟨-, -, -, -, hfree, hu⟩ := hf
    exact h.attempt (r := c.memory.current) hi rfl hp hfree rfl rfl (hu.append fun _ => rfl) h.current_lt
  | finish hs =>
    rw [Publisher.Fits, hs] at hf
    obtain ⟨r, hmade, hr⟩ := hf
    refine h.setPublisher hi rfl (.inr ?_) nofun
    rw [hmade]
    exact hr

/-- The swaps `as` took effect one after another, each in a snapshot of its own. -/
structure InOrder (store : Store) (calls : List (List Collection)) (m : Memory) (as : List Attempt) : Prop where
  once : (as.map (·.publisher)).Nodup
  snapshot : m.snapshot = (serial store calls as).snapshot
  shows : ∀ (n : Nat) (a : Attempt), as[n]? = some a →
    m.shows a.new = (serial store calls (as.take (n + 1))).snapshot

theorem inOrder_begin (store : Store) (calls : List (List Collection)) :
    InOrder store calls (begin store calls).memory [] :=
  ⟨List.nodup_nil, rfl, nofun⟩

theorem serial_append (store : Store) (calls : List (List Collection)) (as : List Attempt) (a : Attempt) :
    serial store calls (as ++ [a]) = (serial store calls as).publish (calls.getD a.publisher []) := by
  rw [serial, List.map_append, List.foldl_append]
  rfl

/-- Handles of swaps are not given out again, so making a snapshot leaves what they show. -/
theorem InOrder.make {m : Memory} {as : List Attempt} (h : InOrder store calls m as)
    (hcurrent : m.current < m.fresh) (has : ∀ a ∈ as, a.new < m.fresh) (s : Snapshot) :
    InOrder store calls (m.make s) as := by
  refine ⟨h.once, ?_, ?_⟩
  · rw [← h.snapshot]
    exact Memory.shows_make s hcurrent
  · intro n a ha
    rw [← h.shows n a ha]
    exact Memory.shows_make s (has a (List.mem_of_getElem? ha))

/-- A successor of what is current takes its place behind all others. -/
theorem InOrder.install {m : Memory} {as : List Attempt} {new : Handle} (h : InOrder store calls m as)
    (hnew : m.shows new = m.snapshot.setAll (calls.getD i [])) (hfree : ∀ a ∈ as, a.publisher ≠ i) :
    InOrder store calls (m.install new) (as ++ [⟨i, new, true⟩]) := by
  have hserial : m.shows new = (serial store calls (as ++ [⟨i, new, true⟩])).snapshot := by
    rw [serial_append, Store.snapshot_publish, ← h.snapshot, hnew]
  refine ⟨?_, hserial, ?_⟩
  · rw [List.map_append, List.nodup_append]
    refine ⟨h.once, List.pairwise_singleton _ _, ?_⟩
    intro x hx y hy
    obtain ⟨a, ha, rfl⟩ := List.mem_map.1 hx
    rw [List.mem_singleton.1 hy]
    exact hfree a ha
  · intro n a ha
    rcases Nat.lt_or_ge n as.length with hlt | hge
    · rw [List.getElem?_append_left hlt] at ha
      rw [List.take_append_of_le_length hlt]
      exact h.shows n a ha
    · rw [List.getElem?_append_right hge, List.getElem?_singleton] at ha
      split at ha
      · rename_i hn
        cases ha
        have htake : (as ++ [(⟨i, new, true⟩ : Attempt)]).take (n + 1) = as ++ [⟨i, new, true⟩] := by
          apply List.take_of_length_le
          rw [List.length_append, List.length_singleton]
          omega
        rw [htake]
        exact hserial
      · cases ha

theorem Sound.getD_calls (h : Sound calls c) (hi : c.publishers[i]? = some p) :
    calls.getD i [] = p.collections := by
  rw [← h.calls, List.getD_eq_getElem?_getD, List.getElem?_map, hi]
  rfl

theorem inOrder_step (hsound : Sound calls c) (h : InOrder store calls c.memory c.swaps)
    (hi : c.publishers[i]? = some p) (hs : Step c i p c') : InOrder store calls c'.memory c'.swaps := by
  cases hs with
  | skip hs hcs => exact h
  | read hs hcs => exact h
  | build hs =>
    refine h.make hsound.current_lt ?_ _
    intro a ha
    exact hsound.attempts_lt a (List.mem_of_mem_filter ha)
  | @install old new hs hc =>
    have hf := hsound.fits i p hi
    rw [Publisher.Fits, hs] at hf
    obtain ⟨-, -, hnew, -, -, hunserved⟩ := hf
    have hswaps : (c.attempts ++ [(⟨i, new, true⟩ : Attempt)]).filter (·.succeeded) =
        c.swaps ++ [⟨i, new, true⟩] := by
      rw [List.filter_append]
      rfl
    rw [swaps, hswaps]
    refine h.install ?_ ?_
    · rw [hsound.getD_calls hi, hnew, ← hc]
      rfl
    · intro a ha he
      obtain ⟨ha, hsucceeded⟩ := List.mem_filter.1 ha
      rw [hunserved a ha he] at hsucceeded
      cases hsucceeded
  | @fail old new hs hc =>
    have hswaps : (c.attempts ++ [(⟨i, new, false⟩ : Attempt)]).filter (·.succeeded) = c.swaps := by
      rw [List.filter_append]
      exact List.append_nil _
    rw [swaps, hswaps]
    exact h
  | finish hs => exact h

theorem run_nil (c : Contention) : c.run [] = some c := rfl

theorem inOrder_run {is : List Nat} (hsound : Sound calls c) (h : InOrder store calls c.memory c.swaps)
    (hr : c.run is = some c') : Sound calls c' ∧ InOrder store calls c'.memory c'.swaps := by
  refine foldlM_induction (P := fun c => Sound calls c ∧ InOrder store calls c.memory c.swaps) ?_ hr ⟨hsound, h⟩
  intro c₁ c₂ i h₁ ⟨hsound, h⟩
  obtain ⟨p, hi, hs⟩ := step_of_eq_some h₁
  exact ⟨sound_step hsound hi hs, inOrder_step hsound h hi hs⟩

theorem run_step {is : List Nat} {c'' : Contention} (hi : c.publishers[i]? = some p) (hs : Step c i p c')
    (hr : c'.run is = some c'') : c.run (i :: is) = some c'' :=
  foldlM_cons (hs.eq_some hi) hr

/-- A call that nobody disturbs does what publishing does at once. -/
theorem run_alone (hi : c.publishers[i]? = some p) (hs : p.stage = .called) :
    ∃ is c' p', c.run is = some c' ∧ c'.memory = (c.memory.publish p.collections).1 ∧
      c'.publishers[i]? = some p' ∧ p'.stage = .returned (c.memory.publish p.collections).2 := by
  rcases c.memory.publish_cases p.collections with ⟨hcs, hp⟩ | ⟨hcs, hp⟩
  · rw [hp]
    have hrun := run_step hi (.skip hs hcs) (run_nil _)
    exact ⟨_, _, _, hrun, rfl, getElem?_set_of_some hi _, rfl⟩
  · rw [hp]
    have hread := getElem?_set_of_some hi { p with stage := .read c.memory.current }
    have hbuilt := getElem?_set_of_some hread
      { p with stage := .built c.memory.current c.memory.fresh, made := some c.memory.fresh }
    have hinstalled := getElem?_set_of_some hbuilt
      { p with stage := .installed, made := some c.memory.fresh }
    have hrun := run_step hi (.read hs hcs) <| run_step hread (.build rfl) <|
      run_step hbuilt (.install rfl rfl) <| run_step hinstalled (.finish rfl) (run_nil _)
    exact ⟨_, _, _, hrun, rfl, getElem?_set_of_some hinstalled _, rfl⟩

/-- Two tries with the same successor are the same try. -/
theorem Sound.attempt_eq {a b : Attempt} (h : Sound calls c) (ha : a ∈ c.attempts) (hb : b ∈ c.attempts)
    (hnew : a.new = b.new) : a = b :=
  List.inj_on_of_nodup_map h.attempts_nodup ha hb hnew

/-- Whatever steps of the calls come between each other: what is current is what the calls that have
installed give one after another, in the order of their installing, and no call is among them twice. A
call with something to publish that has returned gives back the snapshot that it has installed itself,
which no other try, of this or of another call, was about. -/
theorem publishes_in_order {is : List Nat} (h : (begin store calls).run is = some c) :
    c.memory.snapshot = (serial store calls c.swaps).snapshot ∧
    (c.swaps.map (·.publisher)).Nodup ∧
    ∀ (i : Nat) (p : Publisher) (r : Handle), c.publishers[i]? = some p → p.stage = .returned r →
      p.collections ≠ [] → ∃ n, c.swaps[n]? = some ⟨i, r, true⟩ ∧
        c.memory.shows r = (serial store calls (c.swaps.take (n + 1))).snapshot ∧
        ∀ a ∈ c.attempts, a.new = r → a = ⟨i, r, true⟩ := by
  obtain ⟨hsound, horder⟩ := inOrder_run (sound_begin store calls) (inOrder_begin store calls) h
  refine ⟨horder.snapshot, horder.once, ?_⟩
  intro i p r hi hs hcs
  have hf := hsound.fits i p hi
  rw [Publisher.Fits, hs] at hf
  have hmem : ⟨i, r, true⟩ ∈ c.attempts := hf.resolve_left hcs
  have hswap : ⟨i, r, true⟩ ∈ c.swaps := List.mem_filter.2 ⟨hmem, rfl⟩
  obtain ⟨n, hn⟩ := List.getElem?_of_mem hswap
  refine ⟨n, hn, horder.shows n _ hn, ?_⟩
  intro a ha hnew
  exact hsound.attempt_eq ha hmem hnew

def twoCalls : List (List Collection) := [[⟨.subscriptions, []⟩, ⟨.apis, []⟩], [⟨.applications, []⟩]]

/-- The first call reads before the second one installs, so it has to start over. -/
def overtaken : List Nat := [0, 1, 0, 1, 1, 0, 0, 1, 0, 0, 0]

theorem publishes_in_order_overtaken :
    ∃ c, (begin .empty twoCalls).run overtaken = some c ∧
      c.attempts = [⟨1, 2, true⟩, ⟨0, 1, false⟩, ⟨0, 3, true⟩] ∧
      c.memory.snapshot = (serial .empty twoCalls [⟨1, 2, true⟩, ⟨0, 3, true⟩]).snapshot ∧
      c.memory.shows 2 = (serial .empty twoCalls [⟨1, 2, true⟩]).snapshot := by
  have hsome : ((begin .empty twoCalls).run overtaken).isSome = true := rfl
  obtain ⟨c, hc⟩ := Option.isSome_iff_exists.1 hsome
  have hattempts : ((begin .empty twoCalls).run overtaken).map (·.attempts) =
      some [⟨1, 2, true⟩, ⟨0, 1, false⟩, ⟨0, 3, true⟩] := rfl
  have hpublisher : ((begin .empty twoCalls).run overtaken).bind (·.publishers[1]?) =
      some ⟨[⟨.applications, []⟩], .returned 2, some 2⟩ := rfl
  rw [hc, Option.map_some] at hattempts
  rw [hc, Option.bind_some] at hpublisher
  have hlog := Option.some.inj hattempts
  obtain ⟨hsnapshot, -, hreturned⟩ := publishes_in_order hc
  obtain ⟨n, hn, hshows, -⟩ := hreturned 1 _ 2 hpublisher rfl (List.cons_ne_nil _ _)
  rw [swaps, hlog] at hsnapshot hshows
  refine ⟨c, hc, hlog, hsnapshot, ?_⟩
  have hfirst : n = 0 := by
    rw [swaps, hlog] at hn
    rcases n with _ | _ | n
    · rfl
    · simp at hn
    · simp at hn
  rw [hshows, hfirst]
  rfl

end Contention

end GatewayFeed
