/-! Runs of systems that take step after step and may be unable to take one. -/

namespace GatewayFeed

variable {σ α : Type} {step : σ → α → Option σ} {s s₁ s' : σ} {a : α} {as bs : List α}

theorem foldlM_cons (h : step s a = some s₁) (hr : as.foldlM step s₁ = some s') :
    (a :: as).foldlM step s = some s' :=
  Option.bind_eq_some_iff.2 ⟨s₁, h, hr⟩

theorem foldlM_append (h : as.foldlM step s = some s₁) (hr : bs.foldlM step s₁ = some s') :
    (as ++ bs).foldlM step s = some s' := by
  rw [List.foldlM_append]
  exact Option.bind_eq_some_iff.2 ⟨s₁, h, hr⟩

theorem foldlM_cons_eq_some (h : (a :: as).foldlM step s = some s') :
    ∃ s₁, step s a = some s₁ ∧ as.foldlM step s₁ = some s' :=
  Option.bind_eq_some_iff.1 h

theorem foldlM_append_eq_some (h : (as ++ bs).foldlM step s = some s') :
    ∃ s₁, as.foldlM step s = some s₁ ∧ bs.foldlM step s₁ = some s' := by
  rw [List.foldlM_append] at h
  exact Option.bind_eq_some_iff.1 h

/-- What the steps of a run keep holds after it. -/
theorem foldlM_induction_of_mem {P : σ → Prop} (hstep : ∀ a ∈ as, ∀ s s', step s a = some s' → P s → P s')
    (h : as.foldlM step s = some s') (h0 : P s) : P s' := by
  induction as generalizing s with
  | nil => cases h; exact h0
  | cons a as ih =>
    obtain ⟨s₁, h₁, h₂⟩ := foldlM_cons_eq_some h
    exact ih (fun b hb => hstep b (List.mem_cons_of_mem a hb)) h₂ (hstep a List.mem_cons_self s s₁ h₁ h0)

/-- What every step keeps holds after every run. -/
theorem foldlM_induction {P : σ → Prop} (hstep : ∀ {s s' a}, step s a = some s' → P s → P s')
    (h : as.foldlM step s = some s') (h0 : P s) : P s' :=
  foldlM_induction_of_mem (fun _ _ _ _ => hstep) h h0

end GatewayFeed
