import GatewayFeed.Proofs.Cycle.Ending
import GatewayFeed.Proofs.Run

/-! Load cycles on one store, through whichever of its clones they were asked for. A call sets up its
client, waits for the lock on cycles, starts its fetches with the lock in hand, and gives the lock back
when it returns, also when it was rejected or stopped. Of the lock nothing is assumed but that it excludes:
any call that waits may be the next to get it. Between two steps of a call the others may take any steps. -/

namespace GatewayFeed

/-- Where a call stands. -/
inductive Caller.Phase where
  | called
  /-- With a client, without the lock. -/
  | waiting
  | admitted
  | fetching (r : Race)
  /-- Neither rejected nor stopped, and yet to publish. -/
  | accepted (r : Race)
  | decided (e : Cycle.Ending)
  | returned (e : Cycle.Ending)

namespace Caller.Phase

/-- From taking the lock to giving it back. -/
def Inside : Phase → Prop
  | admitted | fetching _ | accepted _ | decided _ => True
  | called | waiting | returned _ => False

def ending? : Phase → Option Cycle.Ending
  | decided e | returned e => some e
  | _ => none

/-- The checks after the barrier. A rejection counts before a shutdown. -/
def checked (store : Store) (r : Race) : Phase :=
  match r.gathered.rejection with
  | some q => decided (Cycle.failed store r.gathered .unauthorized (.unauthorized q))
  | none => if r.shutdown then decided (Cycle.failed store r.gathered .cancelled .cancelled) else accepted r

/-- A cycle that the checks stop has no report and leaves the store; the others publish. -/
theorem checked_cases (store : Store) (r : Race) :
    (∃ e x, checked store r = decided e ∧ e = Cycle.conclude store r.gathered r.shutdown ∧
      e.result = .error x ∧ e.store = store) ∨
    checked store r = accepted r ∧
      Cycle.published store r.gathered = Cycle.conclude store r.gathered r.shutdown := by
  rcases Cycle.conclude_cases store r.gathered r.shutdown with ⟨q, hq, he⟩ | ⟨hn, hs, he⟩ | ⟨hn, hs, he⟩
  · refine .inl ⟨_, _, ?_, he.symm, rfl, rfl⟩
    rw [checked, hq]
  · refine .inl ⟨_, _, ?_, he.symm, rfl, rfl⟩
    rw [checked, hn, hs]
    rfl
  · refine .inr ⟨?_, he.symm⟩
    rw [checked, hn, hs]
    rfl

end Caller.Phase

structure Caller where
  call : Race.Call
  phase : Caller.Phase := .called
  /-- What its fetches have done so far. -/
  steps : List Race.Act := []

def Caller.enter (c : Caller) (p : Caller.Phase) : Caller := { c with phase := p }

structure Turns where
  store : Store
  callers : List Caller
  /-- Who has the lock. -/
  holder : Option Nat := none
  /-- Who has been given the lock so far, in this order. -/
  order : List Nat := []

namespace Turns

inductive Act where
  | setUp
  | acquire
  | start
  /-- A step of the fetches, of the barrier behind them, or of the shutdown. -/
  | fetch (a : Race.Act)
  | check
  | publish
  | leave

def begin (store : Store) (calls : List Race.Call) : Turns where
  store
  callers := calls.map fun call => { call }

def setCaller (t : Turns) (i : Nat) (c : Caller) : Turns := { t with callers := t.callers.set i c }

/-- A step of the call at position `i`. Without a client a call returns before it asks for the lock. -/
def step (t : Turns) (i : Nat) (a : Act) : Option Turns :=
  match t.callers[i]? with
  | none => none
  | some c =>
    match a, c.phase with
    | .setUp, .called =>
      match (c.call.start t.store).ending with
      | some e => some (t.setCaller i (c.enter (.returned e)))
      | none => some (t.setCaller i (c.enter .waiting))
    | .acquire, .waiting =>
      if t.holder.isSome then none
      else some { t.setCaller i (c.enter .admitted) with holder := some i, order := t.order ++ [i] }
    | .start, .admitted => some (t.setCaller i (c.enter (.fetching (c.call.start t.store))))
    -- the end of a cycle is what the three steps below make of it
    | .fetch .conclude, .fetching _ => none
    | .fetch a, .fetching r =>
      (r.step a).map fun r => t.setCaller i { c.enter (.fetching r) with steps := c.steps ++ [a] }
    | .check, .fetching r => if r.waiting then none else some (t.setCaller i (c.enter (.checked t.store r)))
    | .publish, .accepted r =>
      let e := Cycle.published t.store r.gathered
      some { t.setCaller i (c.enter (.decided e)) with store := e.store }
    | .leave, .decided e => some { t.setCaller i (c.enter (.returned e)) with holder := none }
    | _, _ => none

def run (t : Turns) (ms : List (Nat × Act)) : Option Turns := ms.foldlM (fun t m => t.step m.1 m.2) t

variable {store : Store} {calls : List Race.Call} {t t' : Turns} {i j : Nat} {c d : Caller} {a : Act}
  {p : Caller.Phase} {e : Cycle.Ending} {r : Race}

/-- What a single step can do. -/
inductive Step (t : Turns) (i : Nat) (c : Caller) : Act → Turns → Prop
  | fail {e : Cycle.Ending} (hp : c.phase = .called) (he : (c.call.start t.store).ending = some e) :
      Step t i c .setUp (t.setCaller i (c.enter (.returned e)))
  | setUp (hp : c.phase = .called) (he : (c.call.start t.store).ending = none) :
      Step t i c .setUp (t.setCaller i (c.enter .waiting))
  | acquire (hp : c.phase = .waiting) (hh : t.holder = none) :
      Step t i c .acquire { t.setCaller i (c.enter .admitted) with holder := some i, order := t.order ++ [i] }
  | start (hp : c.phase = .admitted) :
      Step t i c .start (t.setCaller i (c.enter (.fetching (c.call.start t.store))))
  | fetch {r r' : Race} {a : Race.Act} (hp : c.phase = .fetching r) (he : r.ending = none)
      (ha : a ≠ .conclude) (hs : Race.Step r a r') :
      Step t i c (.fetch a) (t.setCaller i { c.enter (.fetching r') with steps := c.steps ++ [a] })
  | check {r : Race} (hp : c.phase = .fetching r) (hw : r.waiting = false) :
      Step t i c .check (t.setCaller i (c.enter (.checked t.store r)))
  | publish {r : Race} (hp : c.phase = .accepted r) :
      Step t i c .publish { t.setCaller i (c.enter (.decided (Cycle.published t.store r.gathered))) with
        store := (Cycle.published t.store r.gathered).store }
  | leave {e : Cycle.Ending} (hp : c.phase = .decided e) :
      Step t i c .leave { t.setCaller i (c.enter (.returned e)) with holder := none }

theorem step_of_eq_some (h : t.step i a = some t') : ∃ c, t.callers[i]? = some c ∧ Step t i c a t' := by
  unfold step at h
  split at h
  · cases h
  rename_i c hi
  refine ⟨c, hi, ?_⟩
  split at h
  · rename_i hp
    split at h
    · rename_i e he
      cases h
      exact .fail hp he
    · rename_i he
      cases h
      exact .setUp hp he
  · rename_i hp
    split at h
    · cases h
    · rename_i hh
      cases h
      exact .acquire hp (by simpa using hh)
  · rename_i hp
    cases h
    exact .start hp
  · cases h
  · rename_i a r ha hp
    obtain ⟨r', hs, rfl⟩ := Option.map_eq_some_iff.1 h
    obtain ⟨he, hs⟩ := Race.step_of_eq_some hs
    exact .fetch hp he (fun hc => ha hc) hs
  · rename_i r hp
    split at h
    · cases h
    · rename_i hw
      cases h
      exact .check hp (by simpa using hw)
  · rename_i r hp
    cases h
    exact .publish hp
  · rename_i e hp
    cases h
    exact .leave hp
  · cases h

/-- What a step keeps holds after every run. -/
theorem run_induction {P : Turns → Prop} {ms : List (Nat × Act)}
    (hstep : ∀ {t t' i a c}, t.callers[i]? = some c → Step t i c a t' → P t → P t')
    (h : t.run ms = some t') (h0 : P t) : P t' := by
  refine foldlM_induction ?_ h h0
  intro t₁ t₂ m h₁
  obtain ⟨c, hi, hs⟩ := step_of_eq_some h₁
  exact hstep hi hs

end Turns

end GatewayFeed
