import GatewayFeed.Proofs.Agent.Service

/-! What becomes of the settings that are sent to an agent and of the requests to read the file again. Each of
them that the agent takes up gives one cycle, with the settings that are in use from then on. -/

namespace GatewayFeed.Agent

theorem valid_accept {password : Option String} {s : Settings} {x : Request} (hs : s.problems = [])
    (hx : ∀ new, x = .update new → new.problems = []) : (accept password s x).problems = [] := by
  cases x with
  | update new => exact hx new rfl
  | reload file =>
    cases h : Settings.load file password with
    | error e => simpa only [accept, h] using hs
    | ok new => simpa only [accept, h] using Settings.problems_of_load h

/-- Whatever is accepted after settings without a broken rule, if all that was sent has none either. -/
theorem valid_scanl {password : Option String} {s : Settings} {xs : List Request} (hs : s.problems = [])
    (hxs : ∀ new ∈ xs.filterMap Request.update?, new.problems = []) :
    ∀ s' ∈ xs.scanl (accept password) s, s'.problems = [] := by
  induction xs generalizing s with
  | nil =>
    intro s' hmem
    rw [List.scanl_nil, List.mem_singleton] at hmem
    rw [hmem]
    exact hs
  | cons x xs ih =>
    intro s' hmem
    rw [List.scanl_cons, List.mem_cons] at hmem
    rcases hmem with rfl | hmem
    · exact hs
    · refine ih (valid_accept hs ?_) ?_ s' hmem
      · rintro new rfl
        exact hxs new (by simp [Request.update?])
      · intro new hnew
        refine hxs new ?_
        rw [List.filterMap_cons]
        split
        · exact hnew
        · exact List.mem_cons_of_mem _ hnew

namespace Service

variable {w : Surroundings} {once : Bool} {p p' : Service} {a : Act} {as : List Act} {s₀ : Settings}

/-- One cycle has begun for each request that was taken up, besides the first one, with what the watcher has
sent in the order in which it was. -/
structure Faithful (w : Surroundings) (s₀ : Settings) (p : Service) : Prop where
  settings : p.agent.settings = p.taken.foldl (accept w.password) s₀
  cycles : p.agent.cycles = if p.activity.isLaunched then [] else p.taken.scanl (accept w.password) s₀
  untaken : p.activity.isLaunched = true → p.taken = []
  delivered : p.taken.filterMap Request.update? ++ p.agent.updates ++ p.inHand = p.watcher.sent

theorem Faithful.take {x : Request} {q : Service} (h : Faithful w s₀ p) (hp : p.activity.isLaunched = false)
    (hs : q.agent.settings = accept w.password p.agent.settings x) (hc : q.agent.cycles = p.agent.cycles)
    (ht : q.taken = p.taken ++ [x]) (hd : q.taken.filterMap Request.update? ++ q.agent.updates ++ q.inHand = q.watcher.sent) :
    Faithful w s₀ (q.begin w false) := by
  have hsettings : q.agent.settings = q.taken.foldl (accept w.password) s₀ := by
    rw [hs, ht, List.foldl_append, h.settings]
    rfl
  refine ⟨hsettings, ?_, nofun, hd⟩
  change q.agent.cycles ++ [q.agent.settings] = q.taken.scanl (accept w.password) s₀
  rw [hc, h.cycles, hp, hs, ht, h.settings, List.scanl_append]
  rfl

theorem faithful_step (hs : Step w once p a p') (h : Faithful w s₀ p) : Faithful w s₀ p' := by
  cases hs with
  | change c => exact ⟨h.settings, h.cycles, h.untaken, h.delivered.trans (sent_change w p c).symm⟩
  | signal s =>
    refine ⟨h.settings, ?_, ?_, h.delivered⟩
    · simpa [Service.signal] using h.cycles
    · simpa [Service.signal] using h.untaken
  | begin hp =>
    have hnone : p.taken = [] := h.untaken (by rw [hp]; rfl)
    refine ⟨h.settings, ?_, nofun, h.delivered⟩
    change p.agent.cycles ++ [p.agent.settings] = p.taken.scanl (accept w.password) s₀
    rw [h.cycles, hp, h.settings, hnone]
    rfl
  | cycle hp hr =>
    have hcycles := h.cycles
    rw [hp] at hcycles
    exact ⟨h.settings, hcycles, nofun, h.delivered⟩
  | @leave first r e hp he =>
    have hcycles := h.cycles
    rw [hp] at hcycles
    obtain ⟨es, hleave⟩ := leave_eq once p first r e
    rw [hleave]
    cases first with
    | true => exact ⟨h.settings, hcycles, nofun, h.delivered⟩
    | false => exact ⟨h.settings, hcycles, nofun, h.delivered⟩
  | watch works hp he =>
    have hcycles := h.cycles
    rw [hp] at hcycles
    exact ⟨h.settings, hcycles, nofun, h.delivered⟩
  | handle hw hh =>
    rw [handle_eq]
    refine ⟨h.settings, h.cycles, h.untaken, ?_⟩
    have hdelivered := h.delivered
    rw [hh, List.append_nil] at hdelivered
    simp only [hdelivered]
  | send hh =>
    refine ⟨h.settings, h.cycles, h.untaken, ?_⟩
    have hdelivered := h.delivered
    rw [hh] at hdelivered
    simpa using hdelivered
  | finish hp he ht => exact ⟨h.settings, h.cycles, h.untaken, h.delivered⟩
  | update hp he ht hu =>
    refine h.take (by rw [hp]; rfl) rfl rfl rfl ?_
    have hdelivered := h.delivered
    rw [hu] at hdelivered
    simpa [Request.update?] using hdelivered
  | reload hp he ht hu hq =>
    obtain ⟨es, hreload⟩ := reload_eq w p
    rw [hreload]
    refine h.take (by rw [hp]; rfl) rfl rfl rfl ?_
    simpa [Request.update?, List.filterMap_cons] using h.delivered
  | idle hp he ht hu hq => exact h

theorem valid_reading {password : Option String} {file : Option (List UInt8)} {s : Settings}
    (h : s ∈ Watcher.reading password file) : s.problems = [] := by
  unfold Watcher.reading at h
  split at h
  · rename_i s' hload
    rw [List.mem_singleton] at h
    rw [h]
    exact Settings.problems_of_load hload
  · cases h

theorem valid_sent_step (hs : Step w once p a p') (h : ∀ s ∈ p.watcher.sent, s.problems = []) :
    ∀ s ∈ p'.watcher.sent, s.problems = [] := by
  cases hs with
  | change c =>
    rw [sent_change]
    exact h
  | handle hw hh =>
    rw [handle_eq]
    intro s hmem
    rcases List.mem_append.1 hmem with hmem | hmem
    · exact h s hmem
    · split at hmem
      · exact valid_reading hmem
      · cases hmem
  | _ => exact h

/-- Requests to read the file again that come before the shutdown. -/
def requests : List Act → Nat
  | [] => 0
  | .signal .shutdown :: _ => 0
  | .signal .reload :: as => requests as + 1
  | _ :: as => requests as

/-- How a router is that nobody else triggers or leaves. -/
structure Whole (r : Router) : Prop where
  finished : r.finished = r.triggered
  cycleCancelled : r.cycleCancelled = r.triggered
  receiverDropped : r.receiverDropped = false

theorem settle_shutdown {r : Router} (h : Whole r) : (r.step (.signal .shutdown)).settle =
    { r with triggered := true, cycleCancelled := true, finished := true } := by
  obtain ⟨triggered, cancelled, finished, dropped, queued⟩ := r
  obtain ⟨hf, hc, hd⟩ := h
  dsimp only at hf hc hd
  subst hf hc hd
  cases cancelled <;> rfl

theorem settle_reload {r : Router} (h : Whole r) :
    (r.step (.signal .reload)).settle = { r with queued := r.queued + if r.triggered then 0 else 1 } := by
  obtain ⟨triggered, cancelled, finished, dropped, queued⟩ := r
  obtain ⟨hf, hc, hd⟩ := h
  dsimp only at hf hc hd
  subst hf hc hd
  cases cancelled <;> rfl

theorem whole_signal {r : Router} (h : Whole r) (s : Signal) : Whole (r.step (.signal s)).settle := by
  cases s with
  | reload =>
    rw [settle_reload h]
    exact ⟨h.finished, h.cycleCancelled, h.receiverDropped⟩
  | shutdown =>
    rw [settle_shutdown h]
    exact ⟨rfl, rfl, h.receiverDropped⟩

/-- Requests to read the file again, those that were taken up and those that still wait. -/
def asked (p : Service) : Nat := p.taken.countP Request.isReload + p.agent.router.queued

/-- Only signals bring requests, and none after the shutdown. -/
theorem asked_step (hs : Step w once p a p') (h : Whole p.agent.router) : Whole p'.agent.router ∧
    (a = .signal .shutdown ∧ p'.agent.router.triggered = true ∧ p'.asked = p.asked ∨
      a = .signal .reload ∧ p'.agent.router.triggered = p.agent.router.triggered ∧
        p'.asked = p.asked + (if p.agent.router.triggered then 0 else 1) ∨
      (∀ s, a ≠ .signal s) ∧ p'.agent.router.triggered = p.agent.router.triggered ∧ p'.asked = p.asked) := by
  cases hs with
  | signal s =>
    refine ⟨whole_signal h s, ?_⟩
    cases s with
    | shutdown => exact .inl ⟨rfl, by simp [Service.signal, settle_shutdown h],
        by simp [asked, Service.signal, settle_shutdown h]⟩
    | reload => exact .inr (.inl ⟨rfl, by simp [Service.signal, settle_reload h],
        by simp [asked, Service.signal, settle_reload h, Nat.add_assoc]⟩)
  | @leave first r e hp he =>
    obtain ⟨es, hleave⟩ := leave_eq once p first r e
    rw [hleave]
    exact ⟨h, .inr (.inr ⟨nofun, rfl, rfl⟩)⟩
  | update hp he ht hu =>
    refine ⟨h, .inr (.inr ⟨nofun, rfl, ?_⟩)⟩
    change (p.taken ++ [Request.update _]).countP Request.isReload + p.agent.router.queued = _
    rw [List.countP_append]
    rfl
  | reload hp he ht hu hq =>
    obtain ⟨es, hreload⟩ := reload_eq w p
    rw [hreload]
    refine ⟨⟨h.finished, h.cycleCancelled, h.receiverDropped⟩, .inr (.inr ⟨nofun, rfl, ?_⟩)⟩
    change (p.taken ++ [Request.reload _]).countP Request.isReload + (p.agent.router.queued - 1) = _
    rw [List.countP_append, asked]
    simp [Request.isReload]
    omega
  | _ => exact ⟨h, .inr (.inr ⟨nofun, rfl, rfl⟩)⟩

theorem asked_run (h : p.run w once as = some p') (hw : Whole p.agent.router) :
    p'.asked = p.asked + (if p.agent.router.triggered then 0 else requests as) := by
  induction as generalizing p with
  | nil =>
    cases h
    simp [requests]
  | cons a as ih =>
    obtain ⟨p₁, h₁, h₂⟩ := foldlM_cons_eq_some h
    obtain ⟨hw₁, hcases⟩ := asked_step (step_of_eq_some h₁) hw
    rw [ih h₂ hw₁]
    rcases hcases with ⟨rfl, ht, hasked⟩ | ⟨rfl, ht, hasked⟩ | ⟨ha, ht, hasked⟩
    · simp [hasked, ht, requests]
    · rw [hasked, ht, requests]
      split <;> omega
    · have hrequests : requests (a :: as) = requests as := by
        cases a with
        | signal s => exact absurd rfl (ha s)
        | _ => rfl
      rw [hasked, ht, hrequests]

/-- Requests are taken up one at a time, and none after the shutdown. -/
theorem taken_step (hs : Step w once p a p') :
    p.taken <+: p'.taken ∧ (p.agent.router.triggered = true → p'.taken = p.taken) := by
  cases hs with
  | update hp he ht hu => exact ⟨List.prefix_append _ _, fun hc => by rw [ht] at hc; cases hc⟩
  | reload hp he ht hu hq => exact ⟨List.prefix_append _ _, fun hc => by rw [ht] at hc; cases hc⟩
  | _ => exact ⟨List.prefix_rfl, fun _ => rfl⟩

theorem taken_run (h : p.run w once as = some p') : p.taken <+: p'.taken :=
  run_induction (P := fun q => p.taken <+: q.taken) (fun hs hp => hp.trans (taken_step hs).1) h List.prefix_rfl

theorem taken_of_shutdown (h : p.run w once (.signal .shutdown :: as) = some p') (hw : Whole p.agent.router) :
    p'.taken = p.taken := by
  obtain ⟨p₁, h₁, h₂⟩ := foldlM_cons_eq_some h
  cases h₁
  have htriggered : (p.signal .shutdown).agent.router.triggered = true := by simp [signal, settle_shutdown hw]
  have hkept : Whole p'.agent.router ∧ p'.agent.router.triggered = true ∧ p'.taken = p.taken := by
    refine run_induction (P := fun q => Whole q.agent.router ∧ q.agent.router.triggered = true ∧ q.taken = p.taken)
      ?_ h₂ ⟨whole_signal hw _, htriggered, rfl⟩
    rintro q q' a hs ⟨hwhole, ht, htaken⟩
    obtain ⟨hwhole', hcases⟩ := asked_step hs hwhole
    refine ⟨hwhole', ?_, ((taken_step hs).2 ht).trans htaken⟩
    rcases hcases with ⟨-, ht', -⟩ | ⟨-, ht', -⟩ | ⟨-, ht', -⟩
    · exact ht'
    · exact ht'.trans ht
    · exact ht'.trans ht
  exact hkept.2.2

end Service

end GatewayFeed.Agent
