import GatewayFeed.Proofs.Run
import GatewayFeed.Proofs.Store.Objects

/-! A store over its history. What was published last for a kind counts, whoever got a snapshot keeps what
it shows, and a change to a copy is seen in that copy alone. -/

namespace GatewayFeed

/-- A store, and the handles that its clients have. -/
structure Desk where
  memory : Memory := .new
  /-- Snapshots that clients hold, or that came back when they published. -/
  views : List Handle := []
  /-- Copies that clients have made, which are theirs to change. -/
  copies : List Handle := []

namespace Desk

inductive Act where
  | publish (cs : List Collection)
  | hold
  | copy (r : Handle)
  | set (r : Handle) (c : Collection)

def Act.published : Act → List Collection
  | publish cs => cs
  | _ => []

def step (d : Desk) : Act → Option Desk
  | .publish cs =>
    some { d with memory := (d.memory.publish cs).1, views := d.views ++ [(d.memory.publish cs).2] }
  | .hold => some { d with views := d.views ++ [d.memory.current] }
  | .copy r =>
    if r ∈ d.views ∨ r ∈ d.copies then
      some { d with
        memory := d.memory.make (d.memory.shows r), copies := d.copies ++ [d.memory.fresh] }
    else none
  | .set r c => if r ∈ d.copies then some { d with memory := d.memory.change r c } else none

def run (d : Desk) (as : List Act) : Option Desk := as.foldlM step d

/-- The store after the same publishes. -/
def stored (as : List Act) : Store := (as.map Act.published).foldl Store.publish .empty

variable {d d' : Desk} {a : Act} {as : List Act}

/-- What a single step can do. -/
inductive Step (d : Desk) : Act → Desk → Prop
  | publish (cs : List Collection) : Step d (.publish cs)
      { d with memory := (d.memory.publish cs).1, views := d.views ++ [(d.memory.publish cs).2] }
  | hold : Step d .hold { d with views := d.views ++ [d.memory.current] }
  | copy {r : Handle} (hr : r ∈ d.views ∨ r ∈ d.copies) : Step d (.copy r)
      { d with memory := d.memory.make (d.memory.shows r), copies := d.copies ++ [d.memory.fresh] }
  | set {r : Handle} (c : Collection) (hr : r ∈ d.copies) : Step d (.set r c)
      { d with memory := d.memory.change r c }

theorem step_of_eq_some (h : d.step a = some d') : Step d a d' := by
  cases a with
  | publish cs => cases h; exact .publish cs
  | hold => cases h; exact .hold
  | copy r =>
    simp only [step] at h
    split at h
    · rename_i hr
      cases h
      exact .copy hr
    · cases h
  | set r c =>
    simp only [step] at h
    split at h
    · rename_i hr
      cases h
      exact .set c hr
    · cases h

/-- Copies are apart from what the store and its readers have, and all handles were given out. -/
structure Apart (d : Desk) : Prop where
  current_lt : d.memory.current < d.memory.fresh
  views_lt : ∀ r ∈ d.views, r < d.memory.fresh
  copies_lt : ∀ r ∈ d.copies, r < d.memory.fresh
  not_current : d.memory.current ∉ d.copies
  not_view : ∀ r ∈ d.views, r ∉ d.copies

theorem apart_new : Apart {} := by
  refine ⟨Nat.one_pos, ?_, ?_, ?_, ?_⟩ <;> simp

theorem Apart.hold (h : Apart d) : Apart { d with views := d.views ++ [d.memory.current] } := by
  refine ⟨h.current_lt, ?_, h.copies_lt, h.not_current, ?_⟩
  · intro r hr
    rcases List.mem_append.1 hr with hr | hr
    · exact h.views_lt r hr
    · rw [List.mem_singleton.1 hr]
      exact h.current_lt
  · intro r hr
    rcases List.mem_append.1 hr with hr | hr
    · exact h.not_view r hr
    · rw [List.mem_singleton.1 hr]
      exact h.not_current

/-- A snapshot that was just made is nobody's copy. -/
theorem Apart.make (h : Apart d) (s : Snapshot) :
    Apart { d with memory := (d.memory.make s).install d.memory.fresh } := by
  refine ⟨Nat.lt_succ_self _, ?_, ?_, ?_, h.not_view⟩
  · intro r hr
    exact Nat.lt_succ_of_lt (h.views_lt r hr)
  · intro r hr
    exact Nat.lt_succ_of_lt (h.copies_lt r hr)
  · intro hr
    exact Nat.lt_irrefl _ (h.copies_lt _ hr)

theorem Apart.step (h : Apart d) (hs : Step d a d') : Apart d' := by
  cases hs with
  | publish cs =>
    rcases d.memory.publish_cases cs with ⟨-, hp⟩ | ⟨-, hp⟩
    · rw [hp]
      exact h.hold
    · rw [hp]
      exact (h.make (d.memory.snapshot.setAll cs)).hold
  | hold => exact h.hold
  | @copy r hr =>
    refine ⟨Nat.lt_succ_of_lt h.current_lt, ?_, ?_, ?_, ?_⟩
    · intro q hq
      exact Nat.lt_succ_of_lt (h.views_lt q hq)
    · intro q hq
      rcases List.mem_append.1 hq with hq | hq
      · exact Nat.lt_succ_of_lt (h.copies_lt q hq)
      · rw [List.mem_singleton.1 hq]
        exact Nat.lt_succ_self _
    · intro hq
      rcases List.mem_append.1 hq with hq | hq
      · exact h.not_current hq
      · exact Nat.ne_of_lt h.current_lt (List.mem_singleton.1 hq)
    · intro q hv hq
      rcases List.mem_append.1 hq with hq | hq
      · exact h.not_view q hv hq
      · exact Nat.ne_of_lt (h.views_lt q hv) (List.mem_singleton.1 hq)
  | set c hr => exact ⟨h.current_lt, h.views_lt, h.copies_lt, h.not_current, h.not_view⟩

/-- A step changes no object but the one that it sets. -/
theorem shows_step (hs : Step d a d') {q : Handle} (hq : q < d.memory.fresh) (ha : ∀ c, a ≠ .set q c) :
    d'.memory.shows q = d.memory.shows q := by
  cases hs with
  | publish cs => exact Memory.shows_publish cs hq
  | hold => rfl
  | copy hr => exact Memory.shows_make _ hq
  | @set r c hr =>
    refine Memory.shows_change_of_ne c ?_
    rintro rfl
    exact ha c rfl

theorem shows_view_step (h : Apart d) (hs : Step d a d') {q : Handle} (hq : q ∈ d.views) :
    d'.memory.shows q = d.memory.shows q := by
  refine shows_step hs (h.views_lt q hq) ?_
  rintro c rfl
  cases hs with
  | set c hr => exact h.not_view q hq hr

theorem mem_views_step (hs : Step d a d') {q : Handle} (hq : q ∈ d.views) : q ∈ d'.views := by
  cases hs with
  | publish cs => exact List.mem_append_left _ hq
  | hold => exact List.mem_append_left _ hq
  | copy hr => exact hq
  | set c hr => exact hq

theorem snapshot_step (h : Apart d) (hs : Step d a d') :
    d'.memory.snapshot = d.memory.snapshot.setAll a.published := by
  cases hs with
  | publish cs => exact d.memory.snapshot_publish cs
  | hold => rfl
  | copy hr => exact Memory.shows_make _ h.current_lt
  | @set r c hr =>
    refine Memory.shows_change_of_ne c ?_
    intro (he : d.memory.current = r)
    exact h.not_current (he ▸ hr)

theorem Apart.run (h : Apart d) (hr : d.run as = some d') : Apart d' :=
  foldlM_induction (fun hs h => h.step (step_of_eq_some hs)) hr h

theorem shows_view_run (h : Apart d) (hr : d.run as = some d') {q : Handle} (hq : q ∈ d.views) :
    d'.memory.shows q = d.memory.shows q := by
  have hkept : Apart d' ∧ q ∈ d'.views ∧ d'.memory.shows q = d.memory.shows q := by
    refine foldlM_induction (P := fun d' => Apart d' ∧ q ∈ d'.views ∧ d'.memory.shows q = d.memory.shows q)
      ?_ hr ⟨h, hq, rfl⟩
    intro d₁ d₂ a hs ⟨hapart, hview, hshows⟩
    have hs := step_of_eq_some hs
    exact ⟨hapart.step hs, mem_views_step hs hview, (shows_view_step hapart hs hview).trans hshows⟩
  exact hkept.2.2

theorem snapshot_run (h : Apart d) (hr : d.run as = some d') :
    d'.memory.snapshot = d.memory.snapshot.setAll (as.flatMap Act.published) := by
  induction as generalizing d with
  | nil => cases hr; rfl
  | cons a as ih =>
    obtain ⟨d₁, h₁, h₂⟩ := foldlM_cons_eq_some hr
    have hs := step_of_eq_some h₁
    rw [ih (h.step hs) h₂, snapshot_step h hs, List.flatMap_cons, Snapshot.setAll, Snapshot.setAll,
      Snapshot.setAll, List.foldl_append]

/-- What was published before counts less than what was published after. -/
theorem get_run (h : Apart d) (hr : d.run as = some d') (k : Kind) :
    d'.memory.snapshot.get k =
      (((as.flatMap Act.published).filter (·.kind = k)).getLast?).or (d.memory.snapshot.get k) := by
  rw [snapshot_run h hr, Snapshot.get_setAll]

theorem snapshot_stored (as : List Act) :
    (stored as).snapshot = Snapshot.empty.setAll (as.flatMap Act.published) := by
  rw [stored, Store.snapshot_publish_all, List.flatMap_def]
  rfl

def oneSubscription : Collection :=
  ⟨.subscriptions, [(⟨1, "Gold", 7, 3, "UNBLOCKED", none⟩ : Subscription)]⟩

/-- One kind twice in one list, and a copy that a client takes. -/
def taking : List Act := [.publish [oneSubscription, ⟨.subscriptions, []⟩], .copy 1]

/-- The copy is changed, nothing is published, then something of another kind. -/
def changing : List Act := [.set 2 oneSubscription, .publish [], .publish [⟨.apis, []⟩]]

/-- After any history the store shows for each kind what was published last, as the store does that the
same lists were published to. What a client holds or got back shows the same ever after, and no populated
kind is lost. Setting a collection changes one slot of one copy, and publishing gives back what is current
then, which is a new snapshot unless there was nothing to publish. -/
theorem last_published_counts {before after : List Act} {d₀ d : Desk} (h₀ : run {} before = some d₀)
    (h : d₀.run after = some d) :
    d.memory.snapshot = (stored (before ++ after)).snapshot ∧
    (∀ k, d.memory.snapshot.get k =
      (((before ++ after).flatMap Act.published).filter (·.kind = k)).getLast?) ∧
    (∀ r ∈ d₀.views, d.memory.shows r = d₀.memory.shows r) ∧
    (∀ k, d₀.memory.snapshot.isPopulated k = true → d.memory.snapshot.isPopulated k = true) ∧
    (∀ r ∈ d.copies, ∀ c, ∃ d', d.step (.set r c) = some d' ∧
      (∀ k, (d'.memory.shows r).get k = if c.kind = k then some c else (d.memory.shows r).get k) ∧
      (∀ q, q ≠ r → d'.memory.shows q = d.memory.shows q) ∧
      d'.memory.current = d.memory.current ∧ d.memory.current ≠ r) ∧
    ∀ cs, ∃ d', d.step (.publish cs) = some d' ∧ d'.views = d.views ++ [d'.memory.current] ∧
      (d'.memory.current = d.memory.current ↔ cs = []) ∧
      (((stored (before ++ after)).publish cs).current.serial =
        (stored (before ++ after)).current.serial ↔ cs = []) := by
  have hapart₀ : Apart d₀ := apart_new.run h₀
  have hapart : Apart d := hapart₀.run h
  have hrun : run {} (before ++ after) = some d := foldlM_append h₀ h
  refine ⟨?_, ?_, ?_, ?_, ?_, ?_⟩
  · rw [snapshot_stored]
    exact snapshot_run apart_new hrun
  · intro k
    rw [get_run apart_new hrun]
    exact Option.or_none
  · intro r hr
    exact shows_view_run hapart₀ h hr
  · intro k hk
    rw [Snapshot.isPopulated_eq_isSome_get] at hk ⊢
    rw [get_run hapart₀ h, Option.isSome_or, hk, Bool.or_true]
  · intro r hr c
    refine ⟨{ d with memory := d.memory.change r c }, if_pos hr, ?_, ?_, rfl, ?_⟩
    · intro k
      rw [Memory.shows_change_self, Snapshot.get_set]
    · intro q hq
      exact Memory.shows_change_of_ne c hq
    · rintro rfl
      exact hapart.not_current hr
  · intro cs
    have hcurrent := d.memory.current_publish cs
    have hsame := Memory.publish_eq_current_iff cs hapart.current_lt
    rw [hcurrent] at hsame
    exact ⟨_, rfl, by rw [hcurrent], hsame, Store.serial_publish_eq_iff _ cs⟩

theorem published_counts_after_changing :
    ∃ d₀ d, run {} taking = some d₀ ∧ d₀.run changing = some d ∧
      d.memory.snapshot.get .subscriptions = some ⟨.subscriptions, []⟩ ∧
      d.memory.shows 1 = d₀.memory.shows 1 := by
  have hsome : (run {} (taking ++ changing)).isSome = true := rfl
  obtain ⟨d, hd⟩ := Option.isSome_iff_exists.1 hsome
  obtain ⟨d₀, h₀, h⟩ : ∃ d₀, run {} taking = some d₀ ∧ d₀.run changing = some d :=
    foldlM_append_eq_some hd
  have hviews : (run {} taking).map (·.views) = some [1] := rfl
  rw [h₀, Option.map_some] at hviews
  obtain ⟨-, hlast, hkept, -, -, -⟩ := last_published_counts h₀ h
  refine ⟨d₀, d, h₀, h, hlast .subscriptions, hkept 1 ?_⟩
  rw [Option.some.inj hviews]
  exact List.mem_singleton_self 1

end Desk

end GatewayFeed
