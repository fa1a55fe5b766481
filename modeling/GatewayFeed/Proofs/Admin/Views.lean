import GatewayFeed.Proofs.Admin.Secrecy
import GatewayFeed.Proofs.Cycle.Decision
import GatewayFeed.Proofs.Cycle.Serial
import GatewayFeed.Proofs.Item.RoundTrip
import GatewayFeed.Proofs.Store.Feed

/-! The admin pages with the key. The list of kinds, the readiness and the page of each kind are computed
apart from each other, and agree on what was published; and readiness is never lost. -/

namespace GatewayFeed

theorem Kind.ofName?_name (k : Kind) : ofName? k.name = some k := by cases k <;> decide

namespace Snapshot

theorem populated_add_missing (s : Snapshot) : s.populated + s.missing.length = Kind.all.length :=
  (List.length_eq_length_filter_add s.isPopulated).symm

theorem mem_missing {s : Snapshot} {k : Kind} : k ∈ s.missing ↔ s.isPopulated k = false := by
  simp [missing, Kind.mem_all]

theorem missing_eq_nil_iff {s : Snapshot} : s.missing = [] ↔ ∀ k, s.isPopulated k = true := by
  simp [List.eq_nil_iff_forall_not_mem, mem_missing]

theorem kinds_summary (s : Snapshot) : s.summary.map (·.kind) = Kind.all := rfl

theorem eq_of_mem_summary {s : Snapshot} {e : SlotSummary} (he : e ∈ s.summary) :
    e.populated = (s.get e.kind).isSome ∧ e.size = ((s.get e.kind).map Collection.size).getD 0 := by
  obtain ⟨k, -, rfl⟩ := List.mem_map.1 he
  refine ⟨isPopulated_eq_isSome_get s k, ?_⟩
  rw [get, Option.map_map]
  rfl

end Snapshot

namespace Admin

variable {key : String} {headers : List (String × List UInt8)} {s : Snapshot} {k : Kind}

/-- The answer to whoever asks for the page at a path. -/
def pageAt (key : String) (headers : List (String × List UInt8)) (s : Store) (path : String) : Answer :=
  respond key s.snapshot { path := path.toList, headers }

/-- Headers that bring the key. -/
def Opens (key : String) (headers : List (String × List UInt8)) : Prop :=
  Request.authorized { path := [], headers } key = true

theorem pageAt_eq {path : String} {route : Route} (hkey : Opens key headers)
    (hroute : Route.ofPath? path.toList = some route) (s : Store) :
    pageAt key headers s path = page s.snapshot route := by
  have hauthorized : Request.authorized { path := path.toList, headers } key = true := hkey
  simp only [pageAt, respond, hroute, hauthorized, Bool.or_true]
  rfl

theorem segmentName?_name (k : Kind) : segmentName? k.name.toList = some k.name := by
  cases k <;> decide +kernel

theorem Route.ofPath?_ready : ofPath? "/health/ready".toList = some ready := by decide

theorem Route.ofPath?_kind (k : Kind) :
    ofPath? ("/admin/collections/" ++ k.name).toList = some (collection k.name.toList) := by
  rw [String.toList_append]
  exact ofPath?_collection (by cases k <;> decide) (by cases k <;> decide)

theorem page_of_get_eq_some {c : Collection} (h : s.get k = some c) :
    page s (.collection k.name.toList) = .json 200 c.toJson := by
  simp only [page, collectionAnswer, segmentName?_name, Kind.ofName?_name, Option.bind_some, h]

theorem page_of_get_eq_none (h : s.get k = none) : page s (.collection k.name.toList) = .notFound := by
  simp only [page, collectionAnswer, segmentName?_name, Kind.ofName?_name, Option.bind_some, h]

/-- What the pages show of a kind when the given collection was the last that was published of it. -/
structure Agree (last : Option Collection) (entry : SlotSummary) (missing : List Kind) (page : Answer) :
    Prop where
  listed : entry.populated = true ↔ entry.kind ∉ missing
  answered : entry.populated = true ↔ page.status = 200
  shown : entry.populated = true → ∃ c items, last = some c ∧
    page = .json 200 (.object [("list", .array items)]) ∧ entry.size = items.length ∧
    Collection.decode entry.kind (Utf8.encode page.body) = .ok c
  notFound : entry.populated = false → last = none ∧ page.status = 404 ∧ entry.size = 0

theorem agree_of_mem_summary {e : SlotSummary} (he : e ∈ s.summary) :
    Agree (s.get e.kind) e s.missing (page s (.collection e.kind.name.toList)) := by
  obtain ⟨hpopulated, hsize⟩ := Snapshot.eq_of_mem_summary he
  have hmissing : e.kind ∉ s.missing ↔ e.populated = true := by
    rw [Snapshot.mem_missing, Bool.not_eq_false, Snapshot.isPopulated_eq_isSome_get, hpopulated]
  cases hget : s.get e.kind with
  | none =>
    rw [page_of_get_eq_none hget]
    rw [hget] at hpopulated hsize
    refine ⟨hmissing.symm, ?_, ?_, fun _ => ⟨rfl, rfl, hsize⟩⟩ <;> simp [hpopulated, Answer.notFound]
  | some c =>
    rw [page_of_get_eq_some hget]
    rw [hget] at hpopulated hsize
    have hkind : c.kind = e.kind := by
      obtain ⟨items, -, rfl⟩ := Option.map_eq_some_iff.1 hget
      rfl
    refine ⟨hmissing.symm, ?_, fun _ => ?_, ?_⟩
    · simp [hpopulated, Answer.json]
    · refine ⟨c, _, rfl, rfl, ?_, ?_⟩
      · rw [hsize, List.length_map]
        rfl
      · rw [← hkind]
        exact c.decode_compact
    · simp [hpopulated]

theorem status_ofSnapshot (s : Snapshot) :
    (Readiness.ofSnapshot s).status = 200 ↔ ∀ k, s.isPopulated k = true := by
  rw [← Snapshot.missing_eq_nil_iff]
  cases h : s.missing <;> simp [Readiness.status, Readiness.ready, Readiness.ofSnapshot, h]

theorem pageAt_ready (hkey : Opens key headers) (s : Store) : pageAt key headers s "/health/ready" =
    .json (Readiness.ofSnapshot s.snapshot).status (Readiness.ofSnapshot s.snapshot).toJson :=
  pageAt_eq hkey Route.ofPath?_ready s

/-- Whatever was published and whatever cycles did, and at any time between two steps of theirs, the admin
pages show with the key what was published last of each kind, and agree on it; and once all kinds are there
this stays so, whatever is published and whatever cycles do. -/
theorem pages_agree {calls : List Race.Call} {as later : List Feed.Act} {f f' : Feed}
    (hkey : Opens key headers) (hrun : (Feed.begin calls).run as = some f) (hlater : f.run later = some f') :
    ∃ (entries : List SlotSummary) (r : Readiness),
      (pageAt key headers f.store "/admin/snapshot" = .json 200 (.array (entries.map summaryJson)) ∧
        entries.map (·.kind) = Kind.all) ∧
      (pageAt key headers f.store "/health/ready" = .json r.status r.toJson ∧
        r.populated + r.missing.length = 6 ∧ (r.status = 200 ↔ r.missing = [])) ∧
      (∀ e ∈ entries, Agree (f.last? e.kind) e r.missing
        (pageAt key headers f.store ("/admin/collections/" ++ e.kind.name))) ∧
      ((pageAt key headers f.store "/health/ready").status = 200 →
        (pageAt key headers f'.store "/health/ready").status = 200) := by
  refine ⟨f.store.snapshot.summary, .ofSnapshot f.store.snapshot, ⟨?_, ?_⟩, ⟨?_, ?_, ?_⟩, fun e he => ?_, ?_⟩
  · exact pageAt_eq hkey Route.ofPath?_snapshot f.store
  · exact f.store.snapshot.kinds_summary
  · exact pageAt_ready hkey f.store
  · exact Snapshot.populated_add_missing f.store.snapshot
  · rw [status_ofSnapshot, ← Snapshot.missing_eq_nil_iff]
    rfl
  · rw [pageAt_eq hkey (Route.ofPath?_kind e.kind), ← Feed.get_run hrun]
    exact agree_of_mem_summary he
  · rw [pageAt_ready hkey, pageAt_ready hkey]
    intro hready
    have hall := (status_ofSnapshot f.store.snapshot).1 hready
    exact (status_ofSnapshot f'.store.snapshot).2 fun k => Feed.isPopulated_run hlater (hall k)

def publishAll : List Feed.Act := [.publish (Kind.all.map fun k => ⟨k, []⟩)]

def rejectedCycle : List (Nat × Turns.Act) :=
  [(0, .setUp), (0, .acquire), (0, .start)] ++ Turns.fetching 0 Race.rejectedRun ++ [(0, .check), (0, .leave)]

/-- Everything is there before the control plane rejects a cycle. -/
theorem pages_agree_after_rejection :
    ∃ f f', (Feed.begin [.loadWith .single]).run publishAll = some f ∧
      f.run (rejectedCycle.map fun m => .cycle m.1 m.2) = some f' ∧
      (pageAt "k" [("authorization", bearer "k")] f'.store "/health/ready").status = 200 := by
  have hruns : (((Feed.begin [.loadWith .single]).run publishAll).bind fun f =>
      (f.run (rejectedCycle.map fun m => .cycle m.1 m.2)).map fun _ =>
        (Readiness.ofSnapshot f.store.snapshot).status) = some 200 := by decide +kernel
  obtain ⟨f, hf, hruns⟩ := Option.bind_eq_some_iff.1 hruns
  obtain ⟨f', hf', hready⟩ := Option.map_eq_some_iff.1 hruns
  have hkey : Opens "k" [("authorization", bearer "k")] := by
    unfold Opens
    decide +kernel
  obtain ⟨-, -, -, -, -, hkept⟩ := pages_agree hkey hf hf'
  refine ⟨f, f', hf, hf', hkept ?_⟩
  rw [pageAt_ready hkey]
  exact hready

end Admin

end GatewayFeed
