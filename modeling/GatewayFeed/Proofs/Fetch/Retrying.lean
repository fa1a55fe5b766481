import Mathlib.Order.Nat
import GatewayFeed.Fetch.Fetcher

/-! The attempts of a fetch that nothing cancels, with all that it does between them. Attempts are counted in
32 bits. Whatever they come to, a fetch ends with the first one that succeeds, that fails for good or that is
the last one allowed; after each of the others it waits the delay of its number. -/

namespace GatewayFeed

namespace RetryPolicy

end RetryPolicy

namespace Fetcher

section

variable {σ : Type} {tryOnce : σ → Option Outcome × σ} {s s' : σ} {o : Outcome}

theorem attemptsFrom_hung (h : tryOnce s = (none, s')) (left n : Nat) :
    attemptsFrom tryOnce left n s = (⟨n, none⟩, s') := by
  unfold attemptsFrom
  simp only [h]

theorem attemptsFrom_last (h : tryOnce s = (some o, s')) (n : Nat) :
    attemptsFrom tryOnce 0 n s = (⟨n, some o⟩, s') := by
  unfold attemptsFrom
  simp only [h]

theorem attemptsFrom_more (h : tryOnce s = (some o, s')) (left n : Nat) :
    attemptsFrom tryOnce (left + 1) n s =
      if isRetryable o then attemptsFrom tryOnce left (n + 1) s' else (⟨n, some o⟩, s') := by
  rw [attemptsFrom]
  simp only [h]

end

end Fetcher

/-- What a fetch does. -/
inductive Deed where
  | attempt
  | record (r : Recording)
  | wait (d : Duration)

/-- A fetch on its way: the number of its next attempt, and what it has done so far. -/
structure Retrying where
  number : UInt32 := 1
  deeds : List Deed := []
  outcome : Option Outcome := none

namespace Retrying

variable {p : RetryPolicy} {o : Nat → Outcome} {n k : Nat} (e : Endpoint) (drawn : Nat → Nat)

/-- The next attempt comes to `o`; a delay is drawn if another one follows. -/
def turn (s : Retrying) (p : RetryPolicy) (e : Endpoint) (o : Outcome) (drawn : Nat) : Retrying :=
  let deeds := s.deeds ++ [.attempt, .record (.fetchDuration e.name)]
  if Fetcher.isRetryable o && p.allowsRetry s.number.toNat then
    { s with deeds := deeds ++ [.wait (p.delayAfter s.number.toNat drawn)], number := s.number + 1 }
  else
    { s with
      deeds := deeds ++ [.record (.fetchOutcome e.name (Fetcher.Fetched.outcomeLabel o))]
      outcome := some o }

/-- A fetch after so many turns, if attempt number `i` comes to `o i`. Nothing follows its end. -/
def after (p : RetryPolicy) (e : Endpoint) (o : Nat → Outcome) (drawn : Nat → Nat) : Nat → Retrying
  | 0 => {}
  | k + 1 =>
    let s := after p e o drawn k
    if s.outcome.isSome then s else s.turn p e (o (k + 1)) (drawn (k + 1))

/-- Whether a fetch ends with attempt number `k`, if it comes to that. -/
def Settled (p : RetryPolicy) (o : Nat → Outcome) (k : Nat) : Prop :=
  (∃ b, o k = .ok b) ∨ (∃ x, o k = .error x ∧ x.isRetryable = false) ∨ k = p.maxAttempts

/-- What a fetch does for an attempt that is not its last. -/
def retry (p : RetryPolicy) (e : Endpoint) (drawn : Nat → Nat) (i : Nat) : List Deed :=
  [.attempt, .record (.fetchDuration e.name), .wait (p.delayAfter i (drawn i))]

end Retrying

end GatewayFeed
