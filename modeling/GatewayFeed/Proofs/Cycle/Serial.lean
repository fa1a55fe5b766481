import GatewayFeed.Proofs.Cycle.Completeness
import GatewayFeed.Proofs.Cycle.Decision
import GatewayFeed.Proofs.Cycle.Lock

/-! Load cycles on one store come to the same as cycles that nobody else is around for, one after another
in the order of the lock. -/

namespace GatewayFeed.Turns

/-- A cycle on its own: the call, the steps of its fetches, and how it has ended. -/
structure Turn where
  call : Race.Call
  steps : List Race.Act
  ending : Cycle.Ending

/-- Cycles one after another, from one store to another. -/
inductive Serial (store : Store) : List Turn → Store → Prop
  | nil : Serial store [] store
  | next {ts : List Turn} {s : Store} {u : Turn} {r : Race} (h : Serial store ts s)
      (hrun : (u.call.start s).run (u.steps ++ [.conclude]) = some r) (he : r.ending = some u.ending) :
      Serial store (ts ++ [u]) r.store

variable {store : Store} {calls : List Race.Call} {t t' : Turns} {i j : Nat} {c c' d : Caller} {a : Act}
  {e : Cycle.Ending} {ms : List (Nat × Act)}

def turn? (c : Caller) : Option Turn := c.phase.ending?.map fun e => ⟨c.call, c.steps, e⟩

def turnAt? (t : Turns) (i : Nat) : Option Turn := t.callers[i]?.bind turn?

/-- The calls that were given the lock and have decided, in the order of the lock. -/
def turns (t : Turns) : List Turn := t.order.filterMap t.turnAt?

theorem turnAt?_eq (hi : t.callers[i]? = some c) : t.turnAt? i = turn? c := by
  rw [turnAt?, hi, Option.bind_some]

theorem turnAt?_setCaller_self (hi : t.callers[i]? = some c) (c' : Caller) :
    (t.setCaller i c').turnAt? i = turn? c' := turnAt?_eq (getElem?_setCaller hi c')

theorem turnAt?_setCaller_of_ne (hj : j ≠ i) (c' : Caller) : (t.setCaller i c').turnAt? j = t.turnAt? j := by
  have hsame : (t.setCaller i c').callers[j]? = t.callers[j]? := List.getElem?_set_ne (Ne.symm hj)
  rw [turnAt?, hsame, turnAt?]

theorem filterMap_turnAt?_setCaller {is : List Nat} (hi : i ∉ is) (c' : Caller) :
    is.filterMap (t.setCaller i c').turnAt? = is.filterMap t.turnAt? := by
  apply List.filterMap_congr
  intro j hj
  apply turnAt?_setCaller_of_ne
  intro he
  exact hi (he ▸ hj)

/-- Only deciding counts. -/
theorem turns_setCaller (hi : t.callers[i]? = some c) (hc : turn? c' = turn? c) :
    (t.setCaller i c').turns = t.turns := by
  apply List.filterMap_congr
  intro j hj
  by_cases he : j = i
  · rw [he, turnAt?_setCaller_self hi, hc, turnAt?_eq hi]
  · exact turnAt?_setCaller_of_ne he c'

/-- What the call with the lock has decided comes last. -/
theorem Orderly.turns_decided {u : Turn} (h : Orderly calls t) (hi : t.callers[i]? = some c)
    (hh : t.holder = some i) (hc : turn? c = none) (hu : turn? c' = some u) :
    (t.setCaller i c').turns = t.turns ++ [u] := by
  obtain ⟨served, ho, -⟩ := h.served
  have horder : t.order = served ++ [i] := by rw [ho, hh]; rfl
  have horder' : (t.setCaller i c').order = served ++ [i] := horder
  have hnotin : i ∉ served := by
    have hn := h.nodup
    rw [horder, List.nodup_append] at hn
    intro hmem
    exact hn.2.2 i hmem i (List.mem_singleton_self i) rfl
  have hnone : t.turnAt? i = none := (turnAt?_eq hi).trans hc
  have hsome : (t.setCaller i c').turnAt? i = some u := (turnAt?_setCaller_self hi c').trans hu
  rw [turns, turns, horder, horder', List.filterMap_append, List.filterMap_append, List.filterMap_cons_some hsome,
    List.filterMap_cons_none hnone, List.filterMap_nil, List.filterMap_nil, List.append_nil,
    filterMap_turnAt?_setCaller hnotin]

theorem serial_step (h : Orderly calls t) (hi : t.callers[i]? = some c) (hs : Step t i c a t')
    (hserial : Serial store t.turns t.store) : Serial store t'.turns t'.store := by
  have hf := h.fits i c hi
  have hsame : ∀ {c'}, turn? c' = turn? c → Serial store (t.setCaller i c').turns t.store := by
    intro c' hc
    rw [turns_setCaller hi hc]
    exact hserial
  cases hs with
  | @fail e hp he =>
    rw [Fits, hp] at hf
    have hturns : (t.setCaller i (c.enter (.returned e))).turns = t.turns := filterMap_turnAt?_setCaller hf.1 _
    rw [hturns]
    exact hserial
  | setUp hp he => exact hsame (by rw [turn?, turn?, hp]; rfl)
  | acquire hp hh =>
    rw [Fits, hp] at hf
    have hnone : (t.setCaller i (c.enter .admitted)).turnAt? i = none := turnAt?_setCaller_self hi _
    have hturns : (t.order ++ [i]).filterMap (t.setCaller i (c.enter .admitted)).turnAt? = t.turns := by
      rw [List.filterMap_append, List.filterMap_cons_none hnone, List.filterMap_nil, List.append_nil]
      exact filterMap_turnAt?_setCaller hf.1 _
    rw [← hturns] at hserial
    exact hserial
  | start hp => exact hsame (by rw [turn?, turn?, hp]; rfl)
  | fetch hp he ha hs => exact hsame (by rw [turn?, turn?, hp]; rfl)
  | @check r hp hw =>
    have hnone : turn? c = none := by rw [turn?, hp]; rfl
    rw [Fits, hp] at hf
    obtain ⟨hh, he, hrun⟩ := hf
    rcases Caller.Phase.checked_cases t.store r with ⟨e, x, hd, hend, -, hstore⟩ | ⟨hd, -⟩
    · obtain ⟨r', hrun, he', hs'⟩ := Race.run_conclude hrun he hw
      rw [← hend] at he' hs'
      have hnext := hserial.next (u := ⟨c.call, c.steps, e⟩) hrun he'
      rw [hs', hstore] at hnext
      rw [hd, h.turns_decided hi hh hnone rfl]
      exact hnext
    · rw [hd]
      exact hsame (hnone ▸ rfl)
  | @publish r hp =>
    have hnone : turn? c = none := by rw [turn?, hp]; rfl
    rw [Fits, hp] at hf
    obtain ⟨hh, r', hrun, he', hs'⟩ := hf
    let e := Cycle.published t.store r.gathered
    have hnext := hserial.next (u := ⟨c.call, c.steps, e⟩) hrun he'
    have hturns : (t.setCaller i (c.enter (.decided e))).turns = t.turns ++ [⟨c.call, c.steps, e⟩] :=
      h.turns_decided hi hh hnone rfl
    rw [hs', ← hturns] at hnext
    exact hnext
  | leave hp => exact hsame (by rw [turn?, turn?, hp]; rfl)

theorem serial_run (h : (begin store calls).run ms = some t) : Serial store t.turns t.store := by
  have hboth : Orderly calls t ∧ Serial store t.turns t.store := by
    refine run_induction (P := fun t => Orderly calls t ∧ Serial store t.turns t.store) ?_ h ?_
    · intro t t' i a c hi hs ⟨h, hserial⟩
      exact ⟨orderly_step hi hs h, serial_step h hi hs hserial⟩
    · exact ⟨orderly_begin store calls, .nil⟩
  exact hboth.2

/-- The lock is given once to each call, and no entry goes away again. -/
theorem order_prefix (h : t.run ms = some t') : t.order <+: t'.order := by
  refine run_induction (P := fun t' => t.order <+: t'.order) ?_ h (List.prefix_refl _)
  intro t₁ t₂ i a c hi hs hpre
  cases hs with
  | acquire hp hh => exact hpre.trans (List.prefix_append _ _)
  | _ => exact hpre

theorem Step.not_returned (h : Step t i c a t') : c.phase ≠ .returned e := by
  cases h <;> simp [*]

theorem Returned.step (h : t.Returned j) (hi : t.callers[i]? = some c) (hs : Step t i c a t') : t'.Returned j := by
  have hc : ∀ e, c.phase ≠ .returned e := fun e => hs.not_returned
  cases hs with
  | _ => exact h.setCaller hi hc _

theorem Returned.not_mem_run (h : t.Returned i) (hr : t.run ms = some t') (b : Act) : (i, b) ∉ ms := by
  induction ms generalizing t with
  | nil => exact List.not_mem_nil
  | cons m ms ih =>
    obtain ⟨t₁, h₁, h₂⟩ := foldlM_cons_eq_some hr
    obtain ⟨c, hi, hs⟩ := step_of_eq_some h₁
    intro hmem
    rcases List.mem_cons.1 hmem with rfl | hmem
    · obtain ⟨d, e, hd, hp⟩ := h
      rw [hi] at hd
      cases hd
      exact hs.not_returned hp
    · exact ih (h.step hi hs) h₂ hmem

/-- Who was given the lock before a call that now has it. -/
theorem Orderly.returned_of_lt {m n : Nat} {order : List Nat} (h : Orderly calls t) (hh : t.holder = some j)
    (hpre : t.order <+: order) (hn : order.Nodup) (hmn : m < n) (hm : order[m]? = some i)
    (hj : order[n]? = some j) : t.Returned i := by
  obtain ⟨served, ho, hserved⟩ := h.served
  obtain ⟨rest, rfl⟩ := hpre
  rw [ho, hh, Option.toList_some] at hm hj hn
  have hlast : (served ++ [j] ++ rest)[served.length]? = some j := by simp
  have hlen : served.length = n := (List.getElem?_inj (by simp) hn).1 (hlast.trans hj.symm)
  rw [List.append_assoc, List.getElem?_append_left (hlen ▸ hmn)] at hm
  exact hserved i (List.mem_of_getElem? hm)

/-- When a call fetches, those that were given the lock before it are done. -/
theorem not_mem_after_fetch {before after : List (Nat × Act)} {x : Race.Act} {m n : Nat}
    (h : (begin store calls).run (before ++ (j, .fetch x) :: after) = some t) (hmn : m < n)
    (hm : t.order[m]? = some i) (hn : t.order[n]? = some j) (b : Act) : (i, b) ∉ after := by
  have hnodup := (orderly_run h).nodup
  obtain ⟨t₀, h₀, h⟩ := foldlM_append_eq_some h
  have hpre := order_prefix h
  obtain ⟨t₁, h₁, h₂⟩ := foldlM_cons_eq_some h
  obtain ⟨c, hj, hs⟩ := step_of_eq_some h₁
  have horderly := orderly_run h₀
  have hinside : c.phase.Inside := by
    cases hs with
    | fetch hp => rw [hp]; trivial
  have hholder := (horderly.fits j c hj).holder hinside
  have hreturned := horderly.returned_of_lt hholder hpre hnodup hmn hm hn
  exact (hreturned.step hj hs).not_mem_run h₂ b

theorem error_of_ending {call : Race.Call} (h : (call.start store).ending = some e) :
    ∃ x, e.result = .error x := by
  cases call with
  | loadWith q => cases h
  | load files s =>
    unfold Race.Call.start at h
    simp only at h
    split at h
    · cases h
      exact ⟨_, rfl⟩
    · cases h

/-- A step after which a call has a report is its publishing, or the report was there before. -/
theorem report_step {report : Report} (hj : t.callers[j]? = some d) (hs : Step t j d a t')
    (hi : t'.callers[i]? = some c) (he : c.phase.ending? = some e) (hok : e.result = .ok report) :
    (i = j ∧ a = .publish ∧ report.populated = t'.store.snapshot.populated) ∨
      ∃ c, t.callers[i]? = some c ∧ c.phase.ending? = some e := by
  have hother : ∀ {d' : Caller}, (t.setCaller j d').callers[i]? = some c → d'.phase.ending? ≠ some e →
      ∃ c, t.callers[i]? = some c ∧ c.phase.ending? = some e := by
    intro d' hi hd
    rcases getElem?_set_cases hi with ⟨-, rfl⟩ | ⟨-, hi⟩
    · exact absurd he hd
    · exact ⟨c, hi, he⟩
  cases hs with
  | fail hp hstart =>
    obtain ⟨x, hx⟩ := error_of_ending hstart
    refine .inr (hother hi fun he => ?_)
    cases he
    rw [hx] at hok
    cases hok
  | setUp | acquire | start | fetch => exact .inr (hother hi nofun)
  | @check r hp hw =>
    refine .inr (hother hi fun he => ?_)
    rcases Caller.Phase.checked_cases t.store r with ⟨e, x, hd, -, hx, -⟩ | ⟨hd, -⟩
    · rw [hd] at he
      cases he
      rw [hx] at hok
      cases hok
    · rw [hd] at he
      cases he
  | publish hp =>
    rcases getElem?_set_cases hi with ⟨rfl, rfl⟩ | ⟨-, hi⟩
    · cases he
      cases hok
      exact .inl ⟨rfl, rfl, rfl⟩
    · exact .inr ⟨c, hi, he⟩
  | leave hp =>
    rcases getElem?_set_cases hi with ⟨rfl, rfl⟩ | ⟨-, hi⟩
    · cases he
      exact .inr ⟨d, hj, by rw [hp]; rfl⟩
    · exact .inr ⟨c, hi, he⟩

/-- Where a report comes from. -/
theorem populated_of_run {report : Report} (h : (begin store calls).run ms = some t)
    (hi : t.callers[i]? = some c) (he : c.phase.ending? = some e) (hok : e.result = .ok report) :
    ∃ before after t', ms = before ++ (i, .publish) :: after ∧
      (begin store calls).run (before ++ [(i, .publish)]) = some t' ∧
      report.populated = t'.store.snapshot.populated := by
  induction ms using List.reverseRecOn generalizing t c with
  | nil =>
    cases h
    rw [begin, List.getElem?_map] at hi
    obtain ⟨call, -, rfl⟩ := Option.map_eq_some_iff.1 hi
    cases he
  | append_singleton ms m ih =>
    obtain ⟨j, a⟩ := m
    have hrun := h
    obtain ⟨t₀, h₀, h₁⟩ := foldlM_append_eq_some h
    obtain ⟨t₁, h₁, h₂⟩ := foldlM_cons_eq_some h₁
    cases h₂
    obtain ⟨d, hj, hs⟩ := step_of_eq_some h₁
    rcases report_step hj hs hi he hok with ⟨rfl, rfl, hpop⟩ | ⟨c₀, hi₀, he₀⟩
    · exact ⟨ms, [], t, rfl, hrun, hpop⟩
    · obtain ⟨before, after, t', rfl, hpub, hpop⟩ := ih h₀ hi₀ he₀
      refine ⟨before, after ++ [(j, a)], t', ?_, hpub, hpop⟩
      rw [List.append_assoc, List.cons_append]

/-- However the steps of calls on one store come between each other: no two calls are between taking the
lock and giving it back, where they fetch and publish. The store is what the cycles come to one after
another in the order of the lock, each with the same steps of its fetches and the same ending, and what
was given the lock takes part in this once it has returned. Once a call fetches, calls that were given
the lock before it take no step any more. And a report counts the kinds that were there right after the
call had published. -/
theorem cycles_take_turns (h : (begin store calls).run ms = some t) :
    (∀ (i j : Nat) (c d : Caller), t.callers[i]? = some c → t.callers[j]? = some d →
      c.phase.Inside → d.phase.Inside → i = j) ∧
    (t.callers.map (·.call) = calls ∧ Serial store t.turns t.store ∧
      ∀ i ∈ t.order, t.holder = some i ∨ t.Returned i) ∧
    (∀ (m n i j : Nat), m < n → t.order[m]? = some i → t.order[n]? = some j →
      ∀ before x after, ms = before ++ (j, .fetch x) :: after → ∀ a, (i, a) ∉ after) ∧
    ∀ (i : Nat) (c : Caller) (e : Cycle.Ending) (report : Report),
      t.callers[i]? = some c → c.phase.ending? = some e → e.result = .ok report →
      ∃ before after t', ms = before ++ (i, .publish) :: after ∧
        (begin store calls).run (before ++ [(i, .publish)]) = some t' ∧
        report.populated = t'.store.snapshot.populated := by
  have horderly := orderly_run h
  refine ⟨?_, ⟨horderly.calls, serial_run h, ?_⟩, ?_, ?_⟩
  · intro i j c d hi hj hc hd
    exact horderly.inside_unique hi hj hc hd
  · intro i hi
    by_cases hh : t.holder = some i
    · exact .inl hh
    · exact .inr (horderly.served_of_ne hi hh)
  · intro m n i j hmn hm hn before x after hms a
    subst hms
    exact not_mem_after_fetch h hmn hm hn a
  · intro i c e report hi he hok
    exact populated_of_run h hi he hok

def fetching (i : Nat) (as : List Race.Act) : List (Nat × Act) := as.dropLast.map fun a => (i, .fetch a)

/-- The first call has to wait for the second one, which is rejected. -/
def rejectedFirst : List (Nat × Act) :=
  [(0, .setUp), (1, .setUp), (1, .acquire), (1, .start)] ++ fetching 1 Race.rejectedRun
    ++ [(1, .check), (1, .leave), (0, .acquire), (0, .start)] ++ fetching 0 (Race.bufferedRun false)
    ++ [(0, .check), (0, .publish), (0, .leave)]

theorem cycles_take_turns_rejectedFirst :
    ∃ t before after t', (begin .empty [.loadWith .single, .loadWith .single]).run rejectedFirst = some t ∧
      t.order = [1, 0] ∧ Serial .empty t.turns t.store ∧
      rejectedFirst = before ++ (0, .publish) :: after ∧
      (begin .empty [.loadWith .single, .loadWith .single]).run (before ++ [(0, .publish)]) = some t' ∧
      t'.store.snapshot.populated = 6 := by
  have hrun : ((begin .empty [.loadWith .single, .loadWith .single]).run rejectedFirst).bind (fun t =>
      t.callers[0]?.bind fun c => c.phase.ending?.bind fun e => e.result.toOption.map fun report =>
        (t.order, report.populated)) = some ([1, 0], 6) := by decide +kernel
  obtain ⟨t, ht, hrun⟩ := Option.bind_eq_some_iff.1 hrun
  obtain ⟨c, hc, hrun⟩ := Option.bind_eq_some_iff.1 hrun
  obtain ⟨e, he, hrun⟩ := Option.bind_eq_some_iff.1 hrun
  obtain ⟨report, hok, hreport⟩ := Option.map_eq_some_iff.1 hrun
  obtain ⟨horder, hpopulated⟩ := Prod.mk.inj hreport
  obtain ⟨-, ⟨-, hserial, -⟩, -, hreports⟩ := cycles_take_turns ht
  have hresult : e.result = .ok report := by
    cases hr : e.result with
    | error x => rw [hr] at hok; cases hok
    | ok report' => rw [hr] at hok; cases hok; rfl
  obtain ⟨before, after, t', hms, ht', hcount⟩ := hreports 0 c e report hc he hresult
  exact ⟨t, before, after, t', ht, horder, hserial, hms, ht', hcount.symm.trans hpopulated⟩

end GatewayFeed.Turns
