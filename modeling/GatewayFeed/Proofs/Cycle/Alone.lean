import GatewayFeed.Proofs.Cycle.Lock

/-! A call that the others leave alone does what its cycle does with nobody else around, so a cycle can
have any of its endings in its turn. -/

namespace GatewayFeed

namespace Race

/-- A cycle that has ended has ended with its last step. -/
theorem run_ended {r₀ r : Race} {as : List Act} {e : Cycle.Ending} (h₀ : r₀.ending = none)
    (h : r₀.run as = some r) (he : r.ending = some e) :
    ∃ bs r₁, as = bs ++ [.conclude] ∧ r₀.run bs = some r₁ ∧ r₁.ending = none ∧ r₁.waiting = false ∧
      r = r₁.conclude := by
  rcases List.eq_nil_or_concat' as with rfl | ⟨bs, a, rfl⟩
  · cases h
    rw [h₀] at he
    cases he
  · rw [run_append] at h
    obtain ⟨r₁, h₁, h₂⟩ := Option.bind_eq_some_iff.1 h
    rw [run_cons] at h₂
    obtain ⟨r₂, h₂, h₃⟩ := Option.bind_eq_some_iff.1 h₂
    cases h₃
    obtain ⟨hgoing, hs⟩ := step_of_eq_some h₂
    cases hs with
    | conclude hw => exact ⟨bs, r₁, rfl, h₁, hgoing, hw, rfl⟩
    | _ =>
      have hnone := hgoing.symm.trans he
      cases hnone

end Race

namespace Turns

variable {t t' t'' : Turns} {i : Nat} {c : Caller} {a : Act} {e : Cycle.Ending} {ms : List (Nat × Act)}

theorem Step.eq_some (hi : t.callers[i]? = some c) (h : Step t i c a t') : t.step i a = some t' := by
  cases h with
  | fail hp he => simp [step, hi, hp, he]
  | setUp hp he => simp [step, hi, hp, he]
  | acquire hp hh => simp [step, hi, hp, hh]
  | start hp => simp [step, hi, hp]
  | @fetch r r' a hp he ha hs =>
    have hstep := hs.eq_some he
    cases a with
    | conclude => exact absurd rfl ha
    | _ => simp [step, hi, hp, hstep]
  | check hp hw => simp [step, hi, hp, hw]
  | publish hp => simp [step, hi, hp]
  | leave hp => simp [step, hi, hp]

theorem run_step (hi : t.callers[i]? = some c) (hs : Step t i c a t') (hr : t'.run ms = some t'') :
    t.run ((i, a) :: ms) = some t'' :=
  foldlM_cons (hs.eq_some hi) hr

theorem run_nil (t : Turns) : t.run [] = some t := rfl

/-- From the call to its fetches, with the lock in hand. -/
theorem run_start (hi : t.callers[i]? = some c) (hp : c.phase = .called) (hh : t.holder = none)
    (he : (c.call.start t.store).ending = none) :
    ∃ ms t' c', t.run ms = some t' ∧ t'.callers[i]? = some c' ∧
      c'.phase = .fetching (c.call.start t.store) ∧ t'.store = t.store := by
  have hwaiting := getElem?_setCaller hi (c.enter .waiting)
  have hadmitted := getElem?_setCaller hwaiting (c.enter .admitted)
  have hrun := run_step hi (.setUp hp he) <| run_step hwaiting (.acquire rfl hh) <|
    run_step hadmitted (.start rfl) (run_nil _)
  exact ⟨_, _, _, hrun, getElem?_setCaller hadmitted _, rfl, rfl⟩

/-- The fetches of a call take the steps that they take in the cycle. -/
theorem run_fetches {r r' : Race} {as : List Race.Act} (hi : t.callers[i]? = some c)
    (hp : c.phase = .fetching r) (h : r.run as = some r') (he : r'.ending = none) :
    ∃ t' c', t.run (as.map fun a => (i, .fetch a)) = some t' ∧ t'.callers[i]? = some c' ∧
      c'.phase = .fetching r' ∧ t'.store = t.store := by
  induction as generalizing t c r with
  | nil =>
    cases h
    exact ⟨t, c, rfl, hi, hp, rfl⟩
  | cons a as ih =>
    rw [Race.run_cons] at h
    obtain ⟨r₁, h₁, h₂⟩ := Option.bind_eq_some_iff.1 h
    obtain ⟨hgoing, hs⟩ := Race.step_of_eq_some h₁
    have ha : a ≠ .conclude := by
      rintro rfl
      cases hs
      rw [Race.run_of_ended rfl h₂] at he
      cases he
    have hnext := getElem?_setCaller hi { c.enter (.fetching r₁) with steps := c.steps ++ [a] }
    obtain ⟨t', c', hr, hi', hp', hstore⟩ := ih hnext rfl h₂
    exact ⟨t', c', run_step hi (.fetch hp hgoing ha hs) hr, hi', hp', hstore⟩

/-- From the barrier to the return: what is decided is what the cycle ends with. -/
theorem run_decision {r : Race} (hi : t.callers[i]? = some c) (hp : c.phase = .fetching r)
    (hw : r.waiting = false) :
    ∃ ms t' c', t.run ms = some t' ∧ t'.callers[i]? = some c' ∧ t'.holder = none ∧
      c'.phase = .returned (Cycle.conclude t.store r.gathered r.shutdown) ∧
      t'.store = (Cycle.conclude t.store r.gathered r.shutdown).store := by
  have hchecked := getElem?_setCaller hi (c.enter (.checked t.store r))
  rcases Caller.Phase.checked_cases t.store r with ⟨e, x, hd, hend, -, hstore⟩ | ⟨hd, hend⟩
  · have hdecided : (c.enter (.checked t.store r)).phase = .decided e := hd
    have hrun := run_step hi (.check hp hw) (run_step hchecked (.leave hdecided) (run_nil _))
    refine ⟨_, _, _, hrun, getElem?_setCaller hchecked _, rfl, ?_, ?_⟩
    · rw [← hend]
      rfl
    · rw [← hend]
      exact hstore.symm
  · have haccepted : (c.enter (.checked t.store r)).phase = .accepted r := hd
    have hpublished := getElem?_setCaller hchecked
      ((c.enter (.checked t.store r)).enter (.decided (Cycle.published t.store r.gathered)))
    have hrun := run_step hi (.check hp hw) <| run_step hchecked (.publish haccepted) <|
      run_step hpublished (.leave rfl) (run_nil _)
    refine ⟨_, _, _, hrun, getElem?_setCaller hpublished _, rfl, ?_, ?_⟩
    · rw [← hend]
      rfl
    · rw [← hend]
      rfl

/-- While the lock is free a call can have any ending that its cycle can have from the same store. -/
theorem run_alone {as : List Race.Act} {r : Race} (hi : t.callers[i]? = some c) (hp : c.phase = .called)
    (hh : t.holder = none) (h : (c.call.start t.store).run as = some r) (he : r.ending = some e) :
    ∃ ms t' c', t.run ms = some t' ∧ t'.callers[i]? = some c' ∧ t'.holder = none ∧
      c'.phase = .returned e ∧ t'.store = r.store := by
  cases h₀ : (c.call.start t.store).ending with
  | some e₀ =>
    cases Race.run_of_ended (Option.isSome_iff_exists.2 ⟨e₀, h₀⟩) h
    have hreturned := getElem?_setCaller hi (c.enter (.returned e))
    have hrun := run_step hi (.fail hp he) (run_nil _)
    exact ⟨_, _, _, hrun, hreturned, hh, rfl, (c.call.store_start t.store).symm⟩
  | none =>
    obtain ⟨bs, r₁, -, h₁, hgoing, hw, rfl⟩ := Race.run_ended h₀ h he
    have hstore := Race.store_eq_of_run h₁ hgoing
    obtain ⟨ns, t₀, c₀, hstart, hi₀, hp₀, hs₀⟩ := run_start hi hp hh h₀
    obtain ⟨t₁, c₁, hfetched, hi₁, hp₁, hs₁⟩ := run_fetches hi₀ hp₀ h₁ hgoing
    obtain ⟨ms, t₂, c₂, hdecided, hi₂, hh₂, hp₂, hs₂⟩ := run_decision hi₁ hp₁ hw
    have hsame : t₁.store = r₁.store := (hs₁.trans hs₀).trans hstore.symm
    have hending : e = Cycle.conclude t₁.store r₁.gathered r₁.shutdown := by
      cases he
      rw [hsame]
    refine ⟨_, t₂, c₂, foldlM_append hstart (foldlM_append hfetched hdecided), hi₂, hh₂, ?_, ?_⟩
    · rw [hp₂, hending]
    · rw [hs₂, hsame]
      rfl

end Turns

end GatewayFeed
