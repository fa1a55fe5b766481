import GatewayFeed.Proofs.Cycle.Turns
import GatewayFeed.Proofs.Snapshot.Slots

/-! A store from its start on. Load cycles feed it, whatever becomes of each of them, and so does whoever
else publishes, at any time. The store shows what was published last, and what was loaded once stays
loaded. -/

namespace GatewayFeed

namespace Turns

variable {t t' : Turns} {i : Nat} {c : Caller} {a : Act}

/-- What a step of a call publishes. -/
def publishes (t : Turns) (i : Nat) (a : Act) : List Collection :=
  match a, t.callers[i]? with
  | .publish, some ⟨_, .accepted r, _⟩ => r.gathered.decoded
  | _, _ => []

/-- No other step touches the store. -/
theorem Step.store_eq (hi : t.callers[i]? = some c) (h : Step t i c a t') :
    t'.store = t.store.publish (t.publishes i a) := by
  cases h with
  | publish hp =>
    obtain ⟨call, phase, steps⟩ := c
    subst hp
    simp only [publishes, hi]
    rfl
  | _ => rfl

end Turns

structure Feed where
  turns : Turns
  /-- Everything that was published so far, in this order. -/
  published : List Collection := []

namespace Feed

inductive Act where
  /-- Someone publishes without a cycle. -/
  | publish (cs : List Collection)
  | cycle (i : Nat) (a : Turns.Act)

/-- An empty store, and the calls that will be made. -/
def begin (calls : List Race.Call) : Feed := { turns := .begin .empty calls }

def step (f : Feed) : Act → Option Feed
  | .publish cs =>
    some { turns := { f.turns with store := f.turns.store.publish cs }, published := f.published ++ cs }
  | .cycle i a =>
    (f.turns.step i a).map fun t => { turns := t, published := f.published ++ f.turns.publishes i a }

def run (f : Feed) (as : List Act) : Option Feed := as.foldlM step f

def store (f : Feed) : Store := f.turns.store

/-- The last collection of a kind that was published. -/
def last? (f : Feed) (k : Kind) : Option Collection := (f.published.filter (·.kind = k)).getLast?

variable {f f' : Feed} {a : Act} {as : List Act} {calls : List Race.Call} {k : Kind}

/-- A step publishes something or nothing, and that is all it does to the store. -/
theorem step_store (h : f.step a = some f') :
    ∃ cs, f'.store = f.store.publish cs ∧ f'.published = f.published ++ cs := by
  cases a with
  | publish cs =>
    cases h
    exact ⟨cs, rfl, rfl⟩
  | cycle i a =>
    obtain ⟨t, ht, rfl⟩ := Option.map_eq_some_iff.1 h
    obtain ⟨c, hi, hs⟩ := Turns.step_of_eq_some ht
    exact ⟨f.turns.publishes i a, hs.store_eq hi, rfl⟩

/-- The store shows what was published last. -/
theorem get_step (h : f.step a = some f') (hf : ∀ k, f.store.snapshot.get k = f.last? k) (k : Kind) :
    f'.store.snapshot.get k = f'.last? k := by
  obtain ⟨cs, hstore, hpublished⟩ := step_store h
  rw [hstore, Store.get_publish, hf, last?, last?, hpublished, List.filter_append, List.getLast?_append]

theorem get_run (h : (begin calls).run as = some f) (k : Kind) : f.store.snapshot.get k = f.last? k :=
  foldlM_induction (P := fun f => ∀ k, f.store.snapshot.get k = f.last? k) get_step h (fun _ => rfl) k

/-- What was loaded once stays loaded. -/
theorem isPopulated_run (h : f.run as = some f') (hk : f.store.snapshot.isPopulated k = true) :
    f'.store.snapshot.isPopulated k = true := by
  refine foldlM_induction (P := fun f => f.store.snapshot.isPopulated k = true) (fun {f f' a} hs hf => ?_) h hk
  obtain ⟨cs, hstore, -⟩ := step_store hs
  rw [Snapshot.isPopulated_eq_isSome_get] at hf ⊢
  rw [hstore, Store.get_publish, Option.isSome_or, hf, Bool.or_true]

end Feed

end GatewayFeed
