import Mathlib.Data.List.Induction
import GatewayFeed.Proofs.Run
import GatewayFeed.Signals

/-! A router of signals with all that happens around it. Its source offers one signal after another, with or
without an end. Shutdown may be triggered elsewhere at any time; a router that is then offered a signal may
still take it, or see the shutdown and end. Tokens are derived from the shutdown's own and from each other,
and cancelled, by anyone. The router that is computed event by event does one of these runs (`exists_run`). -/

namespace GatewayFeed

namespace Routing

/-- The path of a token leads to it from the shutdown's own, which has the empty one. -/
structure Token where
  path : List Nat := []
  cancelled : Bool := false

namespace Token

/-- What is derived from a cancelled token is cancelled. -/
def derive (t : Token) (n : Nat) : Token := { t with path := t.path ++ [n] }

/-- What cancelling the token at `path` leaves of a token. -/
def cancel (path : List Nat) (t : Token) : Token :=
  { t with cancelled := t.cancelled || path.isPrefixOf t.path }

end Token

end Routing

/-- The shutdown's own token comes first and that of the running cycle second. `taken` are the signals that
the router has taken, and `sent` counts the messages that it has put on the reload channel. -/
structure Routing where
  router : Router := {}
  tokens : List Routing.Token := [{}, Routing.Token.derive {} 1]
  taken : List Signal := []
  sent : Nat := 0
  received : Nat := 0

namespace Routing

/-- Tokens go by their position in the list. -/
inductive Act where
  /-- The router takes the next signal and acts on it. -/
  | take
  /-- The router sees the shutdown and ends. -/
  | leave
  | derive (i : Nat)
  /-- Somebody cancels a token; whoever cancels the first one triggers shutdown. -/
  | cancel (i : Nat)
  /-- The receiver takes a message from the reload channel. -/
  | receive
  | dropReceiver

/-- What the router is to see of a token that is cancelled. -/
def eventOf : Nat → Router.Event
  | 0 => .trigger
  | 1 => .cancelCycle
  | _ => .nothing

def take (r : Routing) (s : Signal) : Routing :=
  let router := r.router.step (.signal s)
  { r with
    router
    tokens := if s = .shutdown then r.tokens.map (Token.cancel []) else r.tokens
    taken := r.taken ++ [s]
    sent := r.sent + (router.queued - r.router.queued) }

/-- The source offers `source i` after `i` signals. -/
def step (source : Nat → Option Signal) (r : Routing) : Act → Option Routing
  | .take => if r.router.finished then none else (source r.taken.length).map r.take
  | .leave =>
    if r.router.triggered && !r.router.finished then some { r with router := r.router.settle } else none
  | .derive i => r.tokens[i]?.map fun t => { r with tokens := r.tokens ++ [t.derive r.tokens.length] }
  | .cancel i => r.tokens[i]?.map fun t =>
    { r with router := r.router.step (eventOf i), tokens := r.tokens.map (Token.cancel t.path) }
  | .receive =>
    match r.router.queued with
    | 0 => none
    | n + 1 => some { r with router.queued := n, received := r.received + 1 }
  | .dropReceiver => some { r with router := r.router.step .dropReloads }

def run (source : Nat → Option Signal) (r : Routing) (as : List Act) : Option Routing := as.foldlM (step source) r

variable {source : Nat → Option Signal} {r r' : Routing} {a : Act} {as bs : List Act} {s : Signal}

theorem take_of_dropped (hf : r.router.finished = false) (hd : r.router.receiverDropped = true) :
    r.take .reload = { r with taken := r.taken ++ [.reload] } := by
  simp [take, Router.step, Router.take, hf, hd]

theorem take_reload (hf : r.router.finished = false) (hd : r.router.receiverDropped = false) :
    r.take .reload = { r with
      router.queued := r.router.queued + 1, taken := r.taken ++ [.reload], sent := r.sent + 1 } := by
  simp [take, Router.step, Router.take, hf, hd]

theorem take_shutdown (hf : r.router.finished = false) :
    r.take .shutdown = { r with
      router := { r.router with triggered := true, cycleCancelled := true, finished := true }
      tokens := r.tokens.map (Token.cancel []), taken := r.taken ++ [.shutdown] } := by
  simp [take, Router.step, Router.take, Router.trigger, hf]

/-- What a cancelled token is to a router. -/
theorem step_eventOf (r : Router) (i : Nat) : r.step (eventOf i) =
    { r with triggered := r.triggered || i = 0, cycleCancelled := r.cycleCancelled || i ≤ 1 } := by
  match i with
  | 0 => simp [eventOf, Router.step, Router.trigger]
  | 1 => simp [eventOf, Router.step]
  | i + 2 => simp [eventOf, Router.step]

/-- What a single step can do. -/
inductive Step (source : Nat → Option Signal) (r : Routing) : Act → Routing → Prop
  | pass (hs : source r.taken.length = some .reload) (hf : r.router.finished = false)
      (hd : r.router.receiverDropped = false) : Step source r .take { r with
        router.queued := r.router.queued + 1, taken := r.taken ++ [.reload], sent := r.sent + 1 }
  | refuse (hs : source r.taken.length = some .reload) (hf : r.router.finished = false)
      (hd : r.router.receiverDropped = true) : Step source r .take { r with taken := r.taken ++ [.reload] }
  | shutdown (hs : source r.taken.length = some .shutdown) (hf : r.router.finished = false) :
      Step source r .take { r with
        router := { r.router with triggered := true, cycleCancelled := true, finished := true }
        tokens := r.tokens.map (Token.cancel []), taken := r.taken ++ [.shutdown] }
  | leave (ht : r.router.triggered = true) (hf : r.router.finished = false) :
      Step source r .leave { r with router.finished := true }
  | derive {i : Nat} {t : Token} (hi : r.tokens[i]? = some t) :
      Step source r (.derive i) { r with tokens := r.tokens ++ [t.derive r.tokens.length] }
  | cancel {i : Nat} {t : Token} (hi : r.tokens[i]? = some t) : Step source r (.cancel i) { r with
      router.triggered := r.router.triggered || i = 0
      router.cycleCancelled := r.router.cycleCancelled || i ≤ 1
      tokens := r.tokens.map (Token.cancel t.path) }
  | receive {n : Nat} (hq : r.router.queued = n + 1) :
      Step source r .receive { r with router.queued := n, received := r.received + 1 }
  | dropReceiver : Step source r .dropReceiver { r with router.receiverDropped := true, router.queued := 0 }

theorem step_of_eq_some (h : r.step source a = some r') : Step source r a r' := by
  cases a with
  | take =>
    simp only [step] at h
    split at h
    · cases h
    · rename_i hf
      rw [Bool.not_eq_true] at hf
      obtain ⟨s, hs, rfl⟩ := Option.map_eq_some_iff.1 h
      cases s with
      | reload =>
        cases hd : r.router.receiverDropped with
        | true => exact take_of_dropped hf hd ▸ .refuse hs hf hd
        | false => exact take_reload hf hd ▸ .pass hs hf hd
      | shutdown => exact take_shutdown hf ▸ .shutdown hs hf
  | leave =>
    simp only [step] at h
    split at h
    · rename_i ht
      rw [Bool.and_eq_true, Bool.not_eq_true'] at ht
      cases h
      rw [Router.settle, if_pos ht.1]
      exact .leave ht.1 ht.2
    · cases h
  | derive i =>
    obtain ⟨t, hi, rfl⟩ := Option.map_eq_some_iff.1 h
    exact .derive hi
  | cancel i =>
    obtain ⟨t, hi, rfl⟩ := Option.map_eq_some_iff.1 h
    rw [step_eventOf]
    exact .cancel hi
  | receive =>
    simp only [step] at h
    split at h
    · cases h
    · rename_i n hq
      cases h
      exact .receive hq
  | dropReceiver =>
    cases h
    exact .dropReceiver

theorem run_concat (h : run source r (as ++ [a]) = some r') :
    ∃ r₁, run source r as = some r₁ ∧ Step source r₁ a r' := by
  obtain ⟨r₁, h₁, h₂⟩ := foldlM_append_eq_some h
  obtain ⟨r₂, h₂, h₃⟩ := foldlM_cons_eq_some h₂
  cases h₃
  exact ⟨r₁, h₁, step_of_eq_some h₂⟩

/-- What the router has done after the steps `as` is what the source and the others have asked for. -/
structure Sound (source : Nat → Option Signal) (as : List Act) (r : Routing) : Prop where
  offered : ∀ i s, r.taken[i]? = some s → source i = some s
  sent : r.router.receiverDropped = false → r.sent = r.taken.count .reload
  sent_le : r.sent ≤ r.taken.count .reload
  delivered : r.router.receiverDropped = false → r.received + r.router.queued = r.sent
  triggered : r.router.triggered = true ↔ .shutdown ∈ r.taken ∨ .cancel 0 ∈ as
  finished : .shutdown ∈ r.taken → r.router.finished = true
  ended : r.router.finished = true → r.router.triggered = true

theorem offered_concat (h : ∀ i s, r.taken[i]? = some s → source i = some s)
    (hs : source r.taken.length = some s) : ∀ i s', (r.taken ++ [s])[i]? = some s' → source i = some s' := by
  intro i s' hi
  rcases Nat.lt_trichotomy i r.taken.length with hlt | rfl | hgt
  · rw [List.getElem?_append_left hlt] at hi
    exact h i s' hi
  · rw [List.getElem?_concat_length] at hi
    cases hi
    exact hs
  · rw [List.getElem?_eq_none (by rw [List.length_append, List.length_singleton]; omega)] at hi
    cases hi

theorem sound_step (hs : Step source r a r') (h : Sound source as r) : Sound source (as ++ [a]) r' := by
  have hreload : (r.taken ++ [Signal.reload]).count .reload = r.taken.count .reload + 1 := by simp
  have hshutdown : (r.taken ++ [Signal.shutdown]).count .reload = r.taken.count .reload := by simp
  cases hs with
  | pass hs hf hd => exact {
      offered := offered_concat h.offered hs
      sent := fun _ => by rw [hreload, h.sent hd]
      sent_le := hreload ▸ Nat.succ_le_succ h.sent_le
      delivered := fun _ => by rw [← Nat.add_assoc, h.delivered hd]
      triggered := by simpa using h.triggered
      finished := by simpa using h.finished
      ended := h.ended }
  | refuse hs hf hd => exact {
      offered := offered_concat h.offered hs
      sent := fun hn => by rw [hd] at hn; cases hn
      sent_le := hreload ▸ Nat.le_succ_of_le h.sent_le
      delivered := fun hn => by rw [hd] at hn; cases hn
      triggered := by simpa using h.triggered
      finished := by simpa using h.finished
      ended := h.ended }
  | shutdown hs hf => exact {
      offered := offered_concat h.offered hs
      sent := fun hd => hshutdown ▸ h.sent hd
      sent_le := hshutdown ▸ h.sent_le
      delivered := h.delivered
      triggered := by simp
      finished := fun _ => rfl
      ended := fun _ => rfl }
  | leave ht hf => exact { h with
      triggered := by simpa using h.triggered
      finished := fun _ => rfl
      ended := fun _ => ht }
  | derive hi => exact { h with triggered := by simpa using h.triggered }
  | cancel hi => exact { h with
      triggered := by
        rw [Bool.or_eq_true, decide_eq_true_iff, h.triggered, List.mem_append, List.mem_singleton,
          Act.cancel.injEq, or_assoc, eq_comm (a := 0)]
      ended := fun hf => by rw [h.ended hf]; rfl }
  | @receive n hq => exact { h with
      delivered := fun hd => by rw [← h.delivered hd, hq, Nat.add_assoc, Nat.add_comm 1]
      triggered := by simpa using h.triggered }
  | dropReceiver => exact { h with
      sent := nofun
      delivered := nofun
      triggered := by simpa using h.triggered }

theorem sound_run (h : run source {} as = some r) : Sound source as r := by
  induction as using List.reverseRecOn generalizing r with
  | nil =>
    cases h
    exact ⟨nofun, fun _ => rfl, Nat.le_refl 0, fun _ => rfl, by simp, nofun, nofun⟩
  | append_singleton as a ih =>
    obtain ⟨r₁, h₁, hs⟩ := run_concat h
    exact sound_step hs (ih h₁)

/-- The flags of a router are those of the first two tokens, and a token is cancelled with any that it is
derived from, at whatever depth. -/
structure Rooted (router : Router) (tokens : List Token) : Prop where
  own : tokens[0]? = some ⟨[], router.triggered⟩
  cycle : tokens[1]? = some ⟨[1], router.cycleCancelled⟩
  named : ∀ i t, tokens[i]? = some t → i ≠ 0 → i ∈ t.path
  small : ∀ t ∈ tokens, ∀ n ∈ t.path, n < tokens.length
  below : ∀ t ∈ tokens, ∀ u ∈ tokens, t.path <+: u.path → t.cancelled = true → u.cancelled = true

namespace Rooted

variable {router router' : Router} {tokens : List Token} {i : Nat} {t : Token}

theorem isPrefixOf_own (h : Rooted router tokens) (hi : tokens[i]? = some t) :
    t.path.isPrefixOf [] = decide (i = 0) := by
  rw [Bool.eq_iff_iff, List.isPrefixOf_iff_prefix, List.prefix_nil, decide_eq_true_iff]
  constructor
  · intro hnil
    by_contra hne
    have hmem := h.named i t hi hne
    rw [hnil] at hmem
    cases hmem
  · rintro rfl
    rw [h.own] at hi
    cases hi
    rfl

theorem isPrefixOf_cycle (h : Rooted router tokens) (hi : tokens[i]? = some t) :
    t.path.isPrefixOf [1] = decide (i ≤ 1) := by
  rw [Bool.eq_iff_iff, List.isPrefixOf_iff_prefix, decide_eq_true_iff]
  constructor
  · intro hpre
    by_contra hlt
    have hmem := hpre.subset (h.named i t hi (by omega))
    rw [List.mem_singleton] at hmem
    omega
  · intro hle
    obtain rfl | rfl : i = 0 ∨ i = 1 := by omega
    · rw [h.own] at hi
      cases hi
      exact List.nil_prefix
    · rw [h.cycle] at hi
      cases hi
      exact List.prefix_refl _

theorem cancel (h : Rooted router tokens) (hi : tokens[i]? = some t)
    (ht : router'.triggered = (router.triggered || i = 0))
    (hc : router'.cycleCancelled = (router.cycleCancelled || i ≤ 1)) :
    Rooted router' (tokens.map (Token.cancel t.path)) := by
  refine ⟨?_, ?_, ?_, ?_, ?_⟩
  · rw [List.getElem?_map, h.own, Option.map_some, Token.cancel, h.isPrefixOf_own hi, ht]
  · rw [List.getElem?_map, h.cycle, Option.map_some, Token.cancel, h.isPrefixOf_cycle hi, hc]
  · intro j u hj hne
    rw [List.getElem?_map] at hj
    obtain ⟨v, hv, rfl⟩ := Option.map_eq_some_iff.1 hj
    exact h.named j v hv hne
  · intro u hu
    obtain ⟨v, hv, rfl⟩ := List.mem_map.1 hu
    rw [List.length_map]
    exact h.small v hv
  · intro u hu v hv hpre hcancelled
    obtain ⟨u₀, hu₀, rfl⟩ := List.mem_map.1 hu
    obtain ⟨v₀, hv₀, rfl⟩ := List.mem_map.1 hv
    simp only [Token.cancel, Bool.or_eq_true, List.isPrefixOf_iff_prefix] at hpre hcancelled ⊢
    rcases hcancelled with hcancelled | habove
    · exact .inl (h.below u₀ hu₀ v₀ hv₀ hpre hcancelled)
    · exact .inr (habove.trans hpre)

theorem derive (h : Rooted router tokens) (ht : t ∈ tokens) :
    Rooted router (tokens ++ [t.derive tokens.length]) := by
  have hpos : 1 < tokens.length := (List.getElem?_eq_some_iff.1 h.cycle).1
  -- no path reaches the new position yet
  have hnew : ∀ u ∈ tokens, ¬ t.path ++ [tokens.length] <+: u.path := by
    intro u hu hpre
    have hlt := h.small u hu tokens.length (hpre.subset (by simp))
    omega
  refine ⟨?_, ?_, ?_, ?_, ?_⟩
  · rw [List.getElem?_append_left (by omega)]
    exact h.own
  · rw [List.getElem?_append_left hpos]
    exact h.cycle
  · intro i u hi hne
    rw [List.getElem?_append] at hi
    split at hi
    · exact h.named i u hi hne
    · rename_i hge
      obtain ⟨hlt, hu⟩ := List.getElem?_eq_some_iff.1 hi
      rw [List.length_singleton] at hlt
      have hlast : i = tokens.length := by omega
      subst hlast
      simp [← hu, Token.derive]
  · intro u hu n hn
    rw [List.length_append, List.length_singleton]
    rcases List.mem_append.1 hu with hu | hu
    · exact Nat.lt_succ_of_lt (h.small u hu n hn)
    · rw [List.mem_singleton.1 hu, Token.derive, List.mem_append, List.mem_singleton] at hn
      rcases hn with hn | rfl
      · exact Nat.lt_succ_of_lt (h.small t ht n hn)
      · exact Nat.lt_succ_self _
  · intro u hu v hv hpre hcancelled
    rcases List.mem_append.1 hu with hu | hu <;> rcases List.mem_append.1 hv with hv | hv
    · exact h.below u hu v hv hpre hcancelled
    · rw [List.mem_singleton.1 hv] at hpre ⊢
      rcases List.prefix_concat_iff.1 hpre with hsame | hpre
      · exact absurd (hsame ▸ List.prefix_refl _) (hnew u hu)
      · exact h.below u hu t ht hpre hcancelled
    · rw [List.mem_singleton.1 hu] at hpre
      exact absurd hpre (hnew v hv)
    · rw [List.mem_singleton.1 hv, ← List.mem_singleton.1 hu]
      exact hcancelled

theorem all_cancelled (h : Rooted router tokens) (ht : router.triggered = true) :
    ∀ t ∈ tokens, t.cancelled = true := by
  intro t hmem
  exact h.below _ (List.mem_of_getElem? h.own) t hmem List.nil_prefix ht

end Rooted

theorem rooted_step (hs : Step source r a r') (h : Rooted r.router r.tokens) : Rooted r'.router r'.tokens := by
  cases hs with
  | shutdown hs hf => exact h.cancel h.own (by simp) (by simp)
  | derive hi => exact h.derive (List.mem_of_getElem? hi)
  | cancel hi => exact h.cancel hi rfl rfl
  | _ => exact ⟨h.own, h.cycle, h.named, h.small, h.below⟩

theorem rooted_run (h : run source {} as = some r) : Rooted r.router r.tokens := by
  refine foldlM_induction (P := fun r : Routing => Rooted r.router r.tokens)
    (fun h => rooted_step (step_of_eq_some h)) h ⟨rfl, rfl, ?_, ?_, ?_⟩
  · intro i t hi hne
    match i with
    | 0 => exact absurd rfl hne
    | 1 => cases hi; exact List.mem_singleton_self 1
  · decide
  · decide

theorem triggered_step (hs : Step source r a r') (ht : r.router.triggered = true) :
    r'.router.triggered = true := by
  cases hs with
  | shutdown hs hf => rfl
  | cancel hi => simp [ht]
  | _ => exact ht

theorem triggered_run (h : run source r as = some r') (ht : r.router.triggered = true) :
    r'.router.triggered = true :=
  foldlM_induction (P := fun r : Routing => r.router.triggered = true)
    (fun h => triggered_step (step_of_eq_some h)) h ht

/-- A router that has ended stays as it is but for what others do to its channel. -/
theorem finished_step (hs : Step source r a r') (hf : r.router.finished = true) :
    r'.router.finished = true ∧ r'.taken = r.taken ∧ r'.sent = r.sent := by
  cases hs with
  | pass _ hn => rw [hf] at hn; cases hn
  | refuse _ hn => rw [hf] at hn; cases hn
  | shutdown _ hn => rw [hf] at hn; cases hn
  | leave _ hn => rw [hf] at hn; cases hn
  | _ => exact ⟨hf, rfl, rfl⟩

theorem finished_run (h : run source r as = some r') (hf : r.router.finished = true) :
    r'.router.finished = true ∧ r'.taken = r.taken ∧ r'.sent = r.sent := by
  refine foldlM_induction
    (P := fun q : Routing => q.router.finished = true ∧ q.taken = r.taken ∧ q.sent = r.sent)
    ?_ h ⟨hf, rfl, rfl⟩
  rintro q q' a h ⟨hf, htaken, hsent⟩
  obtain ⟨hf', htaken', hsent'⟩ := finished_step (step_of_eq_some h) hf
  exact ⟨hf', htaken'.trans htaken, hsent'.trans hsent⟩

/-- A router that has not ended can take what it is offered. -/
theorem exists_take (hs : source r.taken.length = some s) (hf : r.router.finished = false) :
    r.step source .take = some (r.take s) := by
  simp [step, hs, hf]

/-- Whatever the source offers and whenever shutdown is triggered elsewhere: the router takes signals in the
order in which they are offered, as long as it has not ended, and puts one message on the reload channel for
each reload that it takes while there is a receiver, and no other. Shutdown is triggered by a signal to shut
down that the router takes or by somebody else, not by a reload; it stays triggered, with every token that is
ever derived from it cancelled. Having taken such a signal, or having ended because it saw the shutdown, the
router takes and sends nothing more. -/
theorem routes_each_signal (h : run source {} as = some r) :
    (∀ i s, r.taken[i]? = some s → source i = some s) ∧
    (∀ s, source r.taken.length = some s → r.router.finished = false →
      ∃ r', r.step source .take = some r' ∧ r'.taken = r.taken ++ [s] ∧
        (s = .reload → r'.router.triggered = r.router.triggered ∧ r'.tokens = r.tokens)) ∧
    (r.router.receiverDropped = false →
      r.sent = r.taken.count .reload ∧ r.received + r.router.queued = r.sent) ∧
    r.sent ≤ r.taken.count .reload ∧
    (r.router.triggered = true ↔ .shutdown ∈ r.taken ∨ .cancel 0 ∈ as) ∧
    r.tokens[0]? = some ⟨[], r.router.triggered⟩ ∧
    (r.router.finished = true → r.router.triggered = true) ∧
    ∀ bs r', run source r bs = some r' →
      (r.router.triggered = true → r'.router.triggered = true ∧ ∀ t ∈ r'.tokens, t.cancelled = true) ∧
      (.shutdown ∈ r.taken ∨ r.router.finished = true → r'.taken = r.taken ∧ r'.sent = r.sent) := by
  have hsound := sound_run h
  refine ⟨hsound.offered, ?_, fun hd => ⟨hsound.sent hd, hsound.delivered hd⟩, hsound.sent_le,
    hsound.triggered, (rooted_run h).own, hsound.ended, ?_⟩
  · intro s hs hf
    refine ⟨r.take s, exists_take hs hf, rfl, ?_⟩
    rintro rfl
    cases hd : r.router.receiverDropped with
    | true => rw [take_of_dropped hf hd]; exact ⟨rfl, rfl⟩
    | false => rw [take_reload hf hd]; exact ⟨rfl, rfl⟩
  · intro bs r' hr'
    constructor
    · intro ht
      have ht' := triggered_run hr' ht
      exact ⟨ht', (rooted_run (foldlM_append h hr')).all_cancelled ht'⟩
    · rintro (hmem | hf)
      · exact (finished_run hr' (hsound.finished hmem)).2
      · exact (finished_run hr' hf).2

/-- Reloads without end. Shutdown is triggered elsewhere between the second and the third. -/
def threeReloads : List Act := [.take, .derive 1, .derive 2, .take, .receive, .cancel 0, .take]

theorem routes_each_signal_past_trigger :
    ∃ r r', run (fun _ => some .reload) {} threeReloads = some r ∧
      run (fun _ => some .reload) r [.leave, .derive 3] = some r' ∧
      r.sent = r.taken.count .reload ∧ ∀ t ∈ r'.tokens, t.cancelled = true := by
  have hrun : (run (fun _ => some .reload) {} threeReloads).bind (fun r =>
      (run (fun _ => some .reload) r [.leave, .derive 3]).map fun _ =>
        (r.router.receiverDropped, r.router.triggered)) = some (false, true) := by decide
  obtain ⟨r, hr, hrun⟩ := Option.bind_eq_some_iff.1 hrun
  obtain ⟨r', hr', hflags⟩ := Option.map_eq_some_iff.1 hrun
  obtain ⟨hdropped, htriggered⟩ := Prod.mk.inj hflags
  obtain ⟨-, -, hsent, -, -, -, -, hlater⟩ := routes_each_signal hr
  exact ⟨r, r', hr, hr', (hsent hdropped).1, ((hlater _ r' hr').1 htriggered).2⟩

theorem exists_settled (source : Nat → Option Signal) (r : Routing) :
    ∃ bs, run source r bs = some { r with router := r.router.settle } := by
  cases ht : r.router.triggered with
  | false =>
    refine ⟨[], ?_⟩
    rw [Router.settle, ht]
    rfl
  | true =>
    cases hf : r.router.finished with
    | false => exact ⟨[.leave], foldlM_cons (by simp [step, ht, hf]) rfl⟩
    | true =>
      have hsame : r.router.settle = r.router := by rw [Router.settle, if_pos ht, ← hf]
      rw [hsame]
      exact ⟨[], rfl⟩

theorem exists_drained (source : Nat → Option Signal) (r : Routing) :
    ∃ bs r', run source r bs = some r' ∧ r'.router = r.router.drain.2 ∧
      r'.received = r.received + r.router.drain.1 ∧ r'.tokens = r.tokens ∧ r'.taken = r.taken := by
  unfold Router.drain
  generalize hq : r.router.queued = n
  induction n generalizing r with
  | zero =>
    have hsame : { r.router with queued := 0 } = r.router := by rw [← hq]
    exact ⟨[], r, rfl, hsame.symm, rfl, rfl, rfl⟩
  | succ n ih =>
    obtain ⟨bs, r', hbs, hrouter, hreceived, hrest⟩ :=
      ih { r with router.queued := n, received := r.received + 1 } rfl
    refine ⟨.receive :: bs, r', foldlM_cons (by simp only [step, hq]) hbs, hrouter, ?_, hrest⟩
    rw [hreceived]
    exact Nat.add_right_comm r.received 1 n

def signal? : Router.Event → Option Signal
  | .signal s => some s
  | _ => none

theorem exists_run_of_event (h : Rooted r.router r.tokens) (e : Router.Event)
    (he : ∀ s ∈ signal? e, r.router.finished = false → source r.taken.length = some s) :
    ∃ bs r', run source r bs = some r' ∧ r'.router = r.router.step e ∧
      (r.router.finished = false → r'.taken = r.taken ++ (signal? e).toList) := by
  have hcancel : ∀ i t, r.tokens[i]? = some t → run source r [.cancel i] = some { r with
      router := r.router.step (eventOf i), tokens := r.tokens.map (Token.cancel t.path) } := by
    intro i t hi
    exact foldlM_cons (by simp only [step, hi, Option.map_some]) rfl
  have hnone : r.taken = r.taken ++ [] := (List.append_nil _).symm
  cases e with
  | signal s =>
    cases hf : r.router.finished with
    | true => exact ⟨[], r, rfl, by simp [Router.step, hf], nofun⟩
    | false => exact ⟨[.take], r.take s, foldlM_cons (exists_take (he s rfl hf) hf) rfl, rfl, fun _ => rfl⟩
  | trigger => exact ⟨_, _, hcancel 0 _ h.own, rfl, fun _ => hnone⟩
  | cancelCycle => exact ⟨_, _, hcancel 1 _ h.cycle, rfl, fun _ => hnone⟩
  | dropReloads => exact ⟨[.dropReceiver], _, rfl, rfl, fun _ => hnone⟩
  | nothing => exact ⟨[], r, rfl, rfl, fun _ => hnone⟩

/-- A router that is computed event by event, with its channel emptied after each, is one of those here, if
the source offers the signals among the events. -/
theorem exists_run (es : List Router.Event)
    (h : ∀ i s, (es.filterMap signal?)[i]? = some s → source i = some s) :
    ∃ as r, run source {} as = some r ∧
      r.router = es.foldl (fun router e => (router.step e).settle.drain.2) {} := by
  suffices hall : ∃ as r, run source {} as = some r ∧
      r.router = es.foldl (fun router e => (router.step e).settle.drain.2) {} ∧
      (r.router.finished = false → r.taken = es.filterMap signal?) by
    obtain ⟨as, r, hr, hrouter, -⟩ := hall
    exact ⟨as, r, hr, hrouter⟩
  induction es using List.reverseRecOn with
  | nil => exact ⟨[], {}, rfl, rfl, fun _ => rfl⟩
  | append_singleton es e ih =>
    have hbefore : ∀ i s, (es.filterMap signal?)[i]? = some s → source i = some s := by
      intro i s hi
      apply h i s
      rw [List.filterMap_append, List.getElem?_append_left (List.getElem?_eq_some_iff.1 hi).1, hi]
    obtain ⟨as, r, hr, hrouter, htaken⟩ := ih hbefore
    have hnext : ∀ s ∈ signal? e, r.router.finished = false → source r.taken.length = some s := by
      intro s hs hf
      apply h
      rw [htaken hf, List.filterMap_append, List.filterMap_cons_some hs]
      simp
    obtain ⟨bs, r₁, hr₁, hrouter₁, htaken₁⟩ := exists_run_of_event (rooted_run hr) e hnext
    obtain ⟨cs, hr₂⟩ := exists_settled source r₁
    obtain ⟨ds, r₃, hr₃, hrouter₃, -, -, htaken₃⟩ := exists_drained source { r₁ with router := r₁.router.settle }
    have hlast := foldlM_append (foldlM_append hr₁ hr₂) hr₃
    refine ⟨_, r₃, foldlM_append hr hlast, ?_, ?_⟩
    · rw [List.foldl_append, ← hrouter, hrouter₃, hrouter₁]
      rfl
    · intro hf₃
      cases hf : r.router.finished with
      | true =>
        rw [(finished_run hlast hf).1] at hf₃
        cases hf₃
      | false =>
        rw [htaken₃, htaken₁ hf, htaken hf, List.filterMap_append]
        cases hs : signal? e with
        | none => rw [List.filterMap_cons_none hs]; rfl
        | some s => rw [List.filterMap_cons_some hs]; rfl

end Routing

end GatewayFeed
