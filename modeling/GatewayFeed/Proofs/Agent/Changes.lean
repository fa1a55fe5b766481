import GatewayFeed.Proofs.Agent.Cycles

/-! Whether an agent that is at rest uses what its settings file holds. It does once the file was replaced under
the watcher's eyes, or was read again on request. What happens to the file before that, while the first cycle
runs, nobody notices. -/

namespace GatewayFeed.Agent

namespace Activity

def isWaiting : Activity → Bool
  | waiting => true
  | _ => false

/-- Whether the agent has come to where it waits. -/
def isLater : Activity → Bool
  | cycling false _ => true
  | waiting => true
  | _ => false

@[simp] theorem isLater_told (triggered : Bool) (a : Activity) : (a.told triggered).isLater = a.isLater := by
  cases a with
  | cycling first r => cases first <;> rfl
  | _ => rfl

end Activity

namespace Service

variable {w : Surroundings} {once : Bool} {p p' : Service} {a : Act} {as : List Act} {s₀ : Settings}

/-- An agent that waits, with nothing to take up and nothing on its way. -/
def idle (p : Service) : Bool :=
  p.activity.isWaiting && !p.agent.ended && p.agent.updates.isEmpty && p.agent.router.queued == 0 &&
    p.watcher.pending.isEmpty && p.inHand.isEmpty

/-- A file is watched only after the first cycle. Before, no change is noticed. -/
structure Noticing (p : Service) : Prop where
  watching : p.watching = true → p.activity.isLater = true
  unnoticed : p.watching = false → p.watcher.pending = [] ∧ p.watcher.sent = []

theorem noticing_step (hs : Step w once p a p') (h : Noticing p) : Noticing p' := by
  cases hs with
  | change c =>
    refine ⟨h.watching, fun hw => ?_⟩
    obtain ⟨hpending, hsent⟩ := h.unnoticed hw
    refine ⟨?_, (sent_change w p c).trans hsent⟩
    change p.watching = false at hw
    simp only [Service.change, hw, Bool.false_eq_true, if_false, hpending]
  | signal s => exact ⟨fun hw => by simpa [Service.signal] using h.watching hw, h.unnoticed⟩
  | begin hp =>
    have hnot := h.watching
    rw [hp] at hnot
    exact ⟨fun hw => absurd (hnot hw) Bool.false_ne_true, h.unnoticed⟩
  | @cycle first r r' b hp hr =>
    have hlater := h.watching
    rw [hp] at hlater
    cases first with
    | true => exact ⟨hlater, h.unnoticed⟩
    | false => exact ⟨hlater, h.unnoticed⟩
  | @leave first r e hp he =>
    have hlater := h.watching
    rw [hp] at hlater
    cases first with
    | true => exact ⟨hlater, h.unnoticed⟩
    | false => exact ⟨hlater, h.unnoticed⟩
  | watch works hp he =>
    have hnot := h.watching
    rw [hp] at hnot
    exact ⟨fun _ => rfl, fun _ => h.unnoticed (Bool.eq_false_iff.2 fun hw => Bool.false_ne_true (hnot hw))⟩
  | handle hw hh => exact ⟨h.watching, fun hn => absurd (hn.symm.trans hw) Bool.false_ne_true⟩
  | update hp he ht hu => exact ⟨fun _ => rfl, h.unnoticed⟩
  | reload hp he ht hu hq => exact ⟨fun _ => rfl, h.unnoticed⟩
  | _ => exact ⟨h.watching, h.unnoticed⟩

theorem watching_step (hs : Step w once p a p') (h : Noticing p) (hw : p.watching = true) : p'.watching = true := by
  cases hs with
  | watch works hp he =>
    have hlater := h.watching hw
    rw [hp] at hlater
    cases hlater
  | _ => exact hw

/-- The file waits to be read, or what it holds is in use or on its way. -/
def CaughtUp (w : Surroundings) (p : Service) : Prop :=
  true ∈ p.watcher.pending ∨ ∀ s, Settings.load p.watcher.file w.password = .ok s →
    (p.agent.settings :: (p.agent.updates ++ p.inHand)).getLast? = some s

theorem caughtUp_replaced (new : List UInt8) (hw : p.watching = true) :
    CaughtUp w (p.change w (.replaced Watcher.fileName new)) := by
  rw [Service.change, if_pos hw]
  exact .inl (List.mem_append_right _ (List.mem_singleton.2 (by simp [Watcher.concerns])))

/-- A change that calls for reading the file is one that waits to be handled; no other gives the file a text. -/
theorem CaughtUp.change (h : CaughtUp w p) (hw : p.watching = true) (c : Change) : CaughtUp w (p.change w c) := by
  rw [Service.change, if_pos hw]
  rcases h with h | h
  · exact .inl (List.mem_append_left _ h)
  · cases c with
    | removed => exact .inr fun s hs => absurd hs Settings.load_none_ne_ok
    | replaced name new =>
      by_cases hname : name = Watcher.fileName
      · subst hname
        exact .inl (List.mem_append_right _ (List.mem_singleton.2 (by simp [Watcher.concerns])))
      · refine .inr fun s hs => h s ?_
        simpa only [Watcher.step, Watcher.content, if_neg hname] using hs

theorem CaughtUp.handle (h : CaughtUp w p) (hh : p.inHand = []) : CaughtUp w (p.handle w) := by
  rw [handle_eq]
  cases hp : p.watcher.pending with
  | nil =>
    rcases h with h | h
    · rw [hp] at h
      cases h
    · refine .inr fun s hs => ?_
      rw [hh] at h
      exact h s hs
  | cons due rest =>
    cases due with
    | true =>
      refine .inr fun s hs => ?_
      change (p.agent.settings :: (p.agent.updates ++ Watcher.reading w.password p.watcher.file)).getLast? = some s
      rw [Watcher.reading_of_ok hs, ← List.cons_append, List.getLast?_concat]
    | false =>
      rcases h with h | h
      · rw [hp] at h
        exact .inl (by simpa using h)
      · refine .inr fun s hs => ?_
        rw [hh] at h
        exact h s hs

theorem settings_reload {s : Settings} (hs : Settings.load p.watcher.file w.password = .ok s) :
    (p.reload w).agent.settings = s := by
  obtain ⟨es, hreload⟩ := reload_eq w p
  rw [hreload]
  simp only [begin, accept, hs]

theorem CaughtUp.reload (h : CaughtUp w p) (hu : p.agent.updates = []) : CaughtUp w (p.reload w) := by
  rcases h with h | h
  · exact .inl h
  · refine .inr fun s hs => ?_
    have hlast := h s hs
    obtain ⟨es, hreload⟩ := reload_eq w p
    rw [settings_reload (p := p) hs, hreload]
    change (s :: (p.agent.updates ++ p.inHand)).getLast? = some s
    rw [hu, List.nil_append] at hlast ⊢
    -- what the watcher has in hand is taken up later than what was just read
    cases hh : p.inHand with
    | nil => rfl
    | cons x xs =>
      rw [hh] at hlast
      exact hlast

theorem caughtUp_step (hs : Step w once p a p') (hw : p.watching = true) (h : CaughtUp w p) : CaughtUp w p' := by
  cases hs with
  | change c => exact h.change hw c
  | handle _ hh => exact h.handle hh
  | send hh =>
    rcases h with h | h
    · exact .inl h
    · refine .inr fun s hs => ?_
      have hlast := h s hs
      rw [hh] at hlast
      simpa using hlast
  | @leave first r e hp he =>
    obtain ⟨es, hleave⟩ := leave_eq once p first r e
    rw [hleave]
    exact h
  | update hp he ht hu =>
    rcases h with h | h
    · exact .inl h
    · refine .inr fun s hs => ?_
      have hlast := h s hs
      rw [hu] at hlast
      exact hlast
  | reload hp he ht hu hq => exact h.reload hu
  | _ => exact h

theorem caughtUp_run (h : p.run w once as = some p') (hn : Noticing p) (hw : p.watching = true)
    (hc : CaughtUp w p) : CaughtUp w p' := by
  have hkept : Noticing p' ∧ p'.watching = true ∧ CaughtUp w p' := by
    refine run_induction (P := fun q => Noticing q ∧ q.watching = true ∧ CaughtUp w q) ?_ h ⟨hn, hw, hc⟩
    rintro q q' a hs ⟨hn, hw, hc⟩
    exact ⟨noticing_step hs hn, watching_step hs hn hw, caughtUp_step hs hw hc⟩
  exact hkept.2.2

/-- Nothing has reached the agent yet. -/
structure Untouched (s₀ : Settings) (p : Service) : Prop where
  settings : p.agent.settings = s₀
  updates : p.agent.updates = []
  taken : p.taken = []
  inHand : p.inHand = []
  pending : true ∉ p.watcher.pending

theorem Untouched.change {c : Change} (h : Untouched s₀ p) (hw : p.watching = true) (hc : Watcher.concerns c = false) :
    Untouched s₀ (p.change w c) := by
  rw [Service.change, if_pos hw]
  refine ⟨h.settings, h.updates, h.taken, h.inHand, fun hmem => ?_⟩
  rcases List.mem_append.1 hmem with hmem | hmem
  · exact h.pending hmem
  · rw [hc] at hmem
    cases List.mem_singleton.1 hmem

theorem Untouched.handle (h : Untouched s₀ p) : Untouched s₀ (p.handle w) := by
  have hnone : p.watcher.pending.head? ≠ some true := fun hhead => h.pending (List.mem_of_mem_head? hhead)
  rw [handle_eq]
  simp only [if_neg hnone]
  exact ⟨h.settings, h.updates, h.taken, rfl, fun hmem => h.pending (List.mem_of_mem_tail hmem)⟩

theorem caughtUp_reload (hu : p.agent.updates = []) (hh : p.inHand = []) : CaughtUp w (p.reload w) := by
  refine .inr fun s hs => ?_
  obtain ⟨es, hreload⟩ := reload_eq w p
  rw [settings_reload (p := p) hs, hreload]
  change (s :: (p.agent.updates ++ p.inHand)).getLast? = some s
  rw [hu, hh]
  rfl

/-- The first thing that reaches an agent makes it catch up with its file. -/
theorem untouched_step (hs : Step w once p a p') (hw : p.watching = true) (h : Untouched s₀ p) :
    Untouched s₀ p' ∧ (∀ new, a ≠ .change (.replaced Watcher.fileName new)) ∨
      CaughtUp w p' ∧ ((∃ new, a = .change (.replaced Watcher.fileName new)) ∨ ∃ f, .reload f ∈ p'.taken) := by
  cases hs with
  | change c =>
    cases hc : Watcher.concerns c with
    | false =>
      refine .inl ⟨h.change hw hc, ?_⟩
      rintro new ⟨⟩
      simp [Watcher.concerns] at hc
    | true =>
      obtain ⟨new, rfl⟩ := Watcher.concerns_iff.1 hc
      exact .inr ⟨caughtUp_replaced new hw, .inl ⟨new, rfl⟩⟩
  | handle _ hh => exact .inl ⟨h.handle, by simp⟩
  | send hh =>
    rw [h.inHand] at hh
    cases hh
  | @leave first r e hp he =>
    obtain ⟨es, hleave⟩ := leave_eq once p first r e
    rw [hleave]
    exact .inl ⟨⟨h.settings, h.updates, h.taken, h.inHand, h.pending⟩, by simp⟩
  | update hp he ht hu =>
    rw [h.updates] at hu
    cases hu
  | reload hp he ht hu hq =>
    exact .inr ⟨caughtUp_reload h.updates h.inHand, .inr ⟨_, List.mem_append_right _ (List.mem_singleton_self _)⟩⟩
  | _ => exact .inl ⟨⟨h.settings, h.updates, h.taken, h.inHand, h.pending⟩, by simp⟩

theorem untouched_run (h : p.run w once as = some p') (hn : Noticing p) (hw : p.watching = true)
    (hu : Untouched s₀ p) :
    Untouched s₀ p' ∧ (∀ new, .change (.replaced Watcher.fileName new) ∉ as) ∨
      CaughtUp w p' ∧ ((∃ new, .change (.replaced Watcher.fileName new) ∈ as) ∨ ∃ f, .reload f ∈ p'.taken) := by
  induction as generalizing p with
  | nil =>
    cases h
    exact .inl ⟨hu, fun _ => List.not_mem_nil⟩
  | cons a as ih =>
    obtain ⟨p₁, h₁, h₂⟩ := foldlM_cons_eq_some h
    have hs := step_of_eq_some h₁
    have hn₁ := noticing_step hs hn
    have hw₁ := watching_step hs hn hw
    rcases untouched_step hs hw hu with ⟨hu₁, hnot⟩ | ⟨hc₁, hwhy⟩
    · rcases ih h₂ hn₁ hw₁ hu₁ with ⟨hu', hnone⟩ | ⟨hc, hwhy⟩
      · refine .inl ⟨hu', fun new hmem => ?_⟩
        rcases List.mem_cons.1 hmem with ha | hmem
        · exact hnot new ha.symm
        · exact hnone new hmem
      · exact .inr ⟨hc, hwhy.imp_left fun ⟨new, hmem⟩ => ⟨new, List.mem_cons_of_mem _ hmem⟩⟩
    · refine .inr ⟨caughtUp_run h₂ hn₁ hw₁ hc₁, ?_⟩
      rcases hwhy with ⟨new, rfl⟩ | ⟨f, hf⟩
      · exact .inl ⟨new, List.mem_cons_self⟩
      · exact .inr ⟨f, (taken_run h₂).subset hf⟩

theorem settings_of_caughtUp {s : Settings} (hc : CaughtUp w p) (hidle : p.idle = true)
    (hs : Settings.load p.watcher.file w.password = .ok s) : p.agent.settings = s := by
  simp only [idle, Bool.and_eq_true, List.isEmpty_iff] at hidle
  obtain ⟨⟨⟨⟨-, hupdates⟩, -⟩, hpending⟩, hinHand⟩ := hidle
  rcases hc with hc | hc
  · rw [hpending] at hc
    cases hc
  · have hlast := hc s hs
    rw [hupdates, hinHand] at hlast
    exact Option.some.inj hlast

/-- An agent that has just begun to watch its file still has the settings of its start. -/
theorem untouched_watch {l : Life} {file : Option (List UInt8)} (h₀ : Life.launch w once file = .ok l)
    (h : (launched l).run w once (as ++ [.watch true]) = some p) :
    Noticing p ∧ p.watching = true ∧ Untouched l.agent.settings p := by
  obtain ⟨q, hq, hlast⟩ := foldlM_append_eq_some h
  obtain ⟨q', hq', hdone⟩ := foldlM_cons_eq_some hlast
  cases hdone
  have hsound : Sound w once l.agent.settings q := run_induction sound_step hq (sound_launched h₀)
  have hnoticing : Noticing q := by
    refine run_induction noticing_step hq ?_
    obtain ⟨s, -, rfl⟩ := launch_eq_ok h₀
    exact ⟨nofun, fun _ => ⟨rfl, rfl⟩⟩
  have hs := step_of_eq_some hq'
  refine ⟨noticing_step hs hnoticing, ?_⟩
  cases hs with
  | watch works hp he =>
    refine ⟨rfl, ?_⟩
    have hlater := hnoticing.watching
    rw [hp] at hlater
    obtain ⟨hpending, hsent⟩ := hnoticing.unnoticed (Bool.eq_false_iff.2 fun hw => Bool.false_ne_true (hlater hw))
    have htaken : q.taken = [] := by
      have hfits := hsound.fits
      rw [Fits, hp] at hfits
      exact hfits.2
    have hdelivered := hsound.faithful.delivered
    rw [hsent, List.append_eq_nil_iff, List.append_eq_nil_iff] at hdelivered
    refine ⟨?_, hdelivered.1.2, htaken, hdelivered.2, ?_⟩
    · rw [hsound.faithful.settings, htaken]
      rfl
    · rw [hpending]
      exact List.not_mem_nil

/-- The file is replaced as soon as it is watched. -/
def noticedReplacement : List Act :=
  [.change (.replaced Watcher.fileName (userText "b")), .handle, .send, .poll] ++ hangingCycle

/-- The file is replaced while the first cycle runs. -/
def missedReplacement : List Act :=
  [.begin, .change (.replaced Watcher.fileName (userText "b"))] ++ hangingCycle ++ [.watch true]

/-- Whatever happens to the settings file and whenever: once an agent that watches it has nothing to do and nothing
on its way, and the file holds settings, these are in use exactly if the file was replaced since it is watched, or
was read again on request, or holds the settings of the start. A replacement before, while the first cycle
runs, is not noticed. -/
theorem settings_of_idle_iff {l : Life} {file : Option (List UInt8)} {before after : List Act} {s : Settings}
    (h₀ : Life.launch w once file = .ok l)
    (h : (launched l).run w once (before ++ .watch true :: after) = some p) (hidle : p.idle = true)
    (hs : Settings.load p.watcher.file w.password = .ok s) :
    p.agent.settings = s ↔ (∃ new, .change (.replaced Watcher.fileName new) ∈ after) ∨
      (∃ f, .reload f ∈ p.taken) ∨ s = l.agent.settings := by
  have hsplit : (launched l).run w once ((before ++ [.watch true]) ++ after) = some p := by
    rwa [List.append_assoc]
  obtain ⟨p₁, h₁, h₂⟩ := foldlM_append_eq_some hsplit
  obtain ⟨hnoticing, hwatching, huntouched⟩ := untouched_watch h₀ h₁
  rcases untouched_run h₂ hnoticing hwatching huntouched with ⟨hu, hnone⟩ | ⟨hc, hwhy⟩
  · rw [hu.settings, hu.taken]
    constructor
    · exact fun he => .inr (.inr he.symm)
    · rintro (⟨new, hmem⟩ | ⟨f, hmem⟩ | he)
      · exact absurd hmem (hnone new)
      · cases hmem
      · exact he.symm
  · refine ⟨fun _ => ?_, fun _ => settings_of_caughtUp hc hidle hs⟩
    exact hwhy.imp_right .inl

theorem settings_of_idle_after_replacement : ∃ l p s, Life.launch alone false (some (userText "a")) = .ok l ∧
    (launched l).run alone false (([Act.begin] ++ hangingCycle) ++ .watch true :: noticedReplacement) = some p ∧
    p.idle = true ∧ Settings.load p.watcher.file none = .ok s ∧ p.agent.settings = s ∧
    s.controlPlane.username = "b" := by
  have hrun : (Life.launch alone false (some (userText "a"))).toOption.bind (fun l =>
      ((launched l).run alone false (([Act.begin] ++ hangingCycle) ++ .watch true :: noticedReplacement)).bind fun p =>
        (Settings.load p.watcher.file none).toOption.map fun s => (p.idle, s.controlPlane.username)) =
      some (true, "b") := by decide +kernel
  obtain ⟨l, hl, hrun⟩ := Option.bind_eq_some_iff.1 hrun
  obtain ⟨p, hp, hrun⟩ := Option.bind_eq_some_iff.1 hrun
  obtain ⟨s, hs, hrun⟩ := Option.map_eq_some_iff.1 hrun
  obtain ⟨hidle, husername⟩ := Prod.ext_iff.1 hrun
  have h₀ := eq_ok_of_toOption hl
  have hload := eq_ok_of_toOption hs
  have hreplaced : .change (.replaced Watcher.fileName (userText "b")) ∈ noticedReplacement :=
    List.mem_append_left _ List.mem_cons_self
  exact ⟨l, p, s, h₀, hp, hidle, hload, (settings_of_idle_iff h₀ hp hidle hload).2 (.inl ⟨_, hreplaced⟩), husername⟩

/-- An agent at rest that watches its file may use other settings than the file holds. -/
theorem not_current_after_first_cycle : ¬ ∀ (w : Surroundings) (once : Bool) (file : Option (List UInt8)) (l : Life)
    (as : List Act) (p : Service) (s : Settings), Life.launch w once file = .ok l →
    (launched l).run w once as = some p → p.watching = true → p.idle = true →
    Settings.load p.watcher.file w.password = .ok s → p.agent.settings = s := by
  intro h
  have hrun : (Life.launch alone false (some (userText "a"))).toOption.bind (fun l =>
      ((launched l).run alone false missedReplacement).bind fun p =>
        (Settings.load p.watcher.file none).toOption.map fun s =>
          (p.watching, p.idle, p.agent.settings.controlPlane.username, s.controlPlane.username)) =
      some (true, true, "a", "b") := by decide +kernel
  obtain ⟨l, hl, hrun⟩ := Option.bind_eq_some_iff.1 hrun
  obtain ⟨p, hp, hrun⟩ := Option.bind_eq_some_iff.1 hrun
  obtain ⟨s, hs, hrun⟩ := Option.map_eq_some_iff.1 hrun
  simp only [Prod.mk.injEq] at hrun
  obtain ⟨hwatching, hidle, hold, hnew⟩ := hrun
  have hsame := h alone false (some (userText "a")) l missedReplacement p s (eq_ok_of_toOption hl) hp hwatching hidle
    (eq_ok_of_toOption hs)
  rw [hsame, hnew] at hold
  exact absurd hold (by decide)

end Service

end GatewayFeed.Agent
