import GatewayFeed.Proofs.Run
import GatewayFeed.Toml.Parser

/-! The names in a document. No table has two members of one name, whether headers, dotted keys or braces
put it together. -/

namespace GatewayFeed.Toml

/-- A value in which every table has each name once. -/
inductive Tidy : Toml → Prop where
  | text (s : String) : Tidy (.text s)
  | integer (n : Int64) : Tidy (.integer n)
  | real (x : Float) : Tidy (.real x)
  | flag (b : Bool) : Tidy (.flag b)
  | moment : Tidy .moment
  | array {items : List Toml} (h : ∀ v ∈ items, Tidy v) : Tidy (.array items)
  | table {ms : List (String × Toml)} (names : (ms.map (·.1)).Nodup) (h : ∀ m ∈ ms, Tidy m.2) :
      Tidy (.table ms)

inductive Node.Tidy : Node → Prop where
  | value {v : Toml} (h : v.Tidy) : Node.Tidy (.value v)
  | table {s : Standing} {ms : Members} (names : (ms.map (·.1)).Nodup) (h : ∀ m ∈ ms, Node.Tidy m.2) :
      Node.Tidy (.table s ms)
  | tables {earlier : List Members} {last : Members} (names : ∀ ms ∈ earlier ++ [last], (ms.map (·.1)).Nodup)
      (h : ∀ ms ∈ earlier ++ [last], ∀ m ∈ ms, Node.Tidy m.2) : Node.Tidy (.tables earlier last)

structure Members.Tidy (ms : Members) : Prop where
  names : (ms.map (·.1)).Nodup
  nodes : ∀ m ∈ ms, m.2.Tidy

namespace Node

theorem membersToValue_eq_map (ms : Members) : membersToValue ms = ms.map fun m => (m.1, m.2.toValue) := by
  induction ms with
  | nil => rfl
  | cons m ms ih => rw [membersToValue, ih, List.map_cons]

theorem elementsToValue_eq_map (es : List Members) :
    elementsToValue es = es.map fun ms => .table (membersToValue ms) := by
  induction es with
  | nil => rfl
  | cons ms es ih => rw [elementsToValue, ih, List.map_cons]

theorem names_membersToValue (ms : Members) : (membersToValue ms).map (·.1) = ms.map (·.1) := by
  rw [membersToValue_eq_map, List.map_map]
  rfl

theorem tidy_membersToValue {ms : Members} (names : (ms.map (·.1)).Nodup)
    (h : ∀ m ∈ ms, m.2.toValue.Tidy) : (Toml.table (membersToValue ms)).Tidy := by
  refine .table ((names_membersToValue ms).symm ▸ names) ?_
  rw [membersToValue_eq_map]
  exact List.forall_mem_map.2 h

theorem Tidy.toValue {n : Node} (h : n.Tidy) : n.toValue.Tidy := by
  induction h with
  | value h => exact h
  | table names h ih => exact tidy_membersToValue names ih
  | @tables earlier last names h ih =>
    have hitems : (Node.tables earlier last).toValue =
        .array ((earlier ++ [last]).map fun ms => .table (membersToValue ms)) := by
      rw [Node.toValue, elementsToValue_eq_map, List.map_append]
      rfl
    rw [hitems]
    exact .array (List.forall_mem_map.2 fun ms hms => tidy_membersToValue (names ms hms) (ih ms hms))

end Node

namespace Members

variable {ms ms' : Members} {n : Node} {key : String}

theorem tidy_nil : Tidy [] := ⟨.nil, nofun⟩

theorem Tidy.table (h : Tidy ms) (s : Standing) : (Node.table s ms).Tidy := .table h.names h.nodes

theorem Tidy.of_table {s : Standing} (h : (Node.table s ms).Tidy) : Tidy ms := by
  cases h with
  | table names h => exact ⟨names, h⟩

theorem Tidy.of_last {earlier : List Members} (h : (Node.tables earlier ms).Tidy) : Tidy ms := by
  cases h with
  | tables names h =>
    have hlast : ms ∈ earlier ++ [ms] := List.mem_append_right _ List.mem_cons_self
    exact ⟨names ms hlast, h ms hlast⟩

/-- An array of tables may have another table at its end, or in place of its last one. -/
theorem tidy_tables {earlier : List Members} (hearlier : ∀ ms ∈ earlier, Tidy ms) (h : Tidy ms) :
    (Node.tables earlier ms).Tidy := by
  have hall : ∀ ms' ∈ earlier ++ [ms], Tidy ms' := by
    simpa [or_imp, forall_and] using ⟨hearlier, h⟩
  exact .tables (fun ms hms => (hall ms hms).names) fun ms hms => (hall ms hms).nodes

theorem Tidy.of_earlier {earlier : List Members} {last : Members} (h : (Node.tables earlier last).Tidy) :
    ∀ ms ∈ earlier, Tidy ms := by
  cases h with
  | tables names h =>
    exact fun ms hms => ⟨names ms (List.mem_append_left _ hms), h ms (List.mem_append_left _ hms)⟩

theorem Tidy.of_find? (h : Tidy ms) (hn : find? key ms = some n) : n.Tidy := by
  obtain ⟨m, hm, rfl⟩ := Option.map_eq_some_iff.1 hn
  exact h.nodes m (List.mem_of_find?_eq_some hm)

theorem Tidy.put (h : Tidy ms) (hn : n.Tidy) (key : String) : Tidy (put key n ms) := by
  unfold Members.put
  split
  · have hnames : (ms.map fun m => if m.1 = key then (key, n) else m).map (·.1) = ms.map (·.1) := by
      rw [List.map_map]
      refine List.map_congr_left fun m _ => ?_
      by_cases hm : m.1 = key <;> simp [hm]
    refine ⟨hnames.symm ▸ h.names, fun m' hm' => ?_⟩
    obtain ⟨m, hm, rfl⟩ := List.mem_map.1 hm'
    by_cases hkey : m.1 = key
    · simpa [hkey] using hn
    · simpa [hkey] using h.nodes m hm
  · rename_i hnew
    have hmem : key ∉ ms.map (·.1) := by simpa using hnew
    refine ⟨?_, List.forall_mem_append.2 ⟨h.nodes, by simpa using hn⟩⟩
    rw [List.map_append, List.nodup_append]
    refine ⟨h.names, by simp, fun k hk l hl => ?_⟩
    obtain rfl : l = key := by simpa using hl
    exact fun he => hmem (he ▸ hk)

theorem Tidy.erase (h : Tidy ms) (key : String) : Tidy (erase key ms) where
  names := (List.filter_sublist.map _).nodup h.names
  nodes m hm := h.nodes m (List.mem_filter.1 hm).1

theorem Tidy.insertPair {v : Toml} (hv : v.Tidy) {path : List String} {standing : Standing} {viaDots : Bool}
    (h : Tidy ms) (hinsert : insertPair standing viaDots path key v ms = some ms') : Tidy ms' := by
  induction path generalizing standing viaDots ms ms' with
  | nil =>
    unfold Members.insertPair at hinsert
    split at hinsert
    · cases hinsert
    · cases hinsert
      exact h.put (.value hv) key
  | cons p path ih =>
    unfold Members.insertPair at hinsert
    split at hinsert
    · obtain ⟨t, ht, rfl⟩ := Option.map_eq_some_iff.1 hinsert
      exact h.put ((ih tidy_nil ht).table _) p
    · cases hinsert
    · cases hinsert
    · rename_i hfind
      obtain ⟨t, ht, rfl⟩ := Option.map_eq_some_iff.1 hinsert
      exact h.put ((ih (.of_table (h.of_find? hfind)) ht).table _) p
    · rename_i hfind
      obtain ⟨t, ht, rfl⟩ := Option.map_eq_some_iff.1 hinsert
      exact h.put (tidy_tables (Tidy.of_earlier (h.of_find? hfind)) (ih (.of_last (h.of_find? hfind)) ht)) p

theorem Tidy.within {change : Members → Option Members}
    (hchange : ∀ ms ms', Tidy ms → change ms = some ms' → Tidy ms') {path : List String} (h : Tidy ms)
    (hwithin : within change path ms = some ms') : Tidy ms' := by
  induction path generalizing ms ms' with
  | nil => exact hchange ms ms' h hwithin
  | cons p path ih =>
    unfold Members.within at hwithin
    split at hwithin
    · obtain ⟨t, ht, rfl⟩ := Option.map_eq_some_iff.1 hwithin
      exact h.put ((ih tidy_nil ht).table _) p
    · cases hwithin
    · rename_i hfind
      obtain ⟨t, ht, rfl⟩ := Option.map_eq_some_iff.1 hwithin
      exact h.put ((ih (.of_table (h.of_find? hfind)) ht).table _) p
    · rename_i hfind
      obtain ⟨t, ht, rfl⟩ := Option.map_eq_some_iff.1 hwithin
      exact h.put (tidy_tables (Tidy.of_earlier (h.of_find? hfind)) (ih (.of_last (h.of_find? hfind)) ht)) p

theorem Tidy.openTable (h : Tidy ms) (hopen : openTable key ms = some ms') : Tidy ms' := by
  unfold Members.openTable at hopen
  split at hopen
  · cases hopen
    exact h.put (tidy_nil.table _) key
  · rename_i hfind
    cases hopen
    exact (h.erase key).put ((Tidy.of_table (h.of_find? hfind)).table _) key
  · cases hopen

theorem Tidy.openElement (h : Tidy ms) (hopen : openElement key ms = some ms') : Tidy ms' := by
  unfold Members.openElement at hopen
  split at hopen
  · cases hopen
    exact h.put (tidy_tables (List.forall_mem_nil _) tidy_nil) key
  · rename_i hfind
    cases hopen
    refine h.put (tidy_tables ?_ tidy_nil) key
    have hlast := Tidy.of_last (h.of_find? hfind)
    simpa [or_imp, forall_and] using ⟨Tidy.of_earlier (h.of_find? hfind), hlast⟩
  · cases hopen

end Members

theorem tidy_ofPairs {pairs : List (Key × Toml)} {v : Toml} (hpairs : ∀ p ∈ pairs, p.2.Tidy)
    (h : ofPairs pairs = some v) : v.Tidy := by
  obtain ⟨ms, hms, rfl⟩ := Option.map_eq_some_iff.1 h
  have htidy : Members.Tidy ms :=
    foldlM_induction_of_mem (fun p hp _ _ hinsert ht => ht.insertPair (hpairs p hp) hinsert) hms Members.tidy_nil
  exact Node.Tidy.toValue (htidy.table .opened)

def Statement.Tidy : Statement → Prop
  | .pair _ v => v.Tidy
  | .table _ => True
  | .element _ => True

theorem Draft.tidy_add {d d' : Draft} {s : Statement} (hs : s.Tidy) (hd : Members.Tidy d.members)
    (h : d.add s = some d') : Members.Tidy d'.members := by
  cases s with
  | pair k v =>
    obtain ⟨ms, hms, rfl⟩ := Option.map_eq_some_iff.1 h
    exact hd.within (fun _ _ ht hinsert => ht.insertPair hs hinsert) hms
  | table k =>
    obtain ⟨ms, hms, rfl⟩ := Option.map_eq_some_iff.1 h
    exact hd.within (fun _ _ ht hopen => ht.openTable hopen) hms
  | element k =>
    obtain ⟨ms, hms, rfl⟩ := Option.map_eq_some_iff.1 h
    exact hd.within (fun _ _ ht hopen => ht.openElement hopen) hms

theorem tidy_ofStatements {statements : List Statement} {ms : List (String × Toml)}
    (hstatements : ∀ s ∈ statements, s.Tidy) (h : ofStatements statements = some ms) :
    (Toml.table ms).Tidy := by
  obtain ⟨d, hd, rfl⟩ := Option.map_eq_some_iff.1 h
  have htidy : Members.Tidy d.members :=
    foldlM_induction_of_mem (P := fun d : Draft => Members.Tidy d.members)
      (fun s hs _ _ hadd ht => Draft.tidy_add (hstatements s hs) ht hadd) hd Members.tidy_nil
  exact Node.Tidy.toValue (htidy.table .opened)

namespace Reader

variable {α β : Type} {P : α → Prop} {Q : β → Prop} {p : Reader α}

/-- Whatever a reader takes off the input has a property. -/
def Gives (p : Reader α) (P : α → Prop) : Prop := ∀ cs x rest, p cs = some (x, rest) → P x

theorem gives_any (p : Reader α) : Gives p fun _ => True := fun _ _ _ _ => trivial

theorem gives_pure {x : α} (h : P x) : Gives (pure x) P := by
  intro cs y rest hy
  cases hy
  exact h

theorem gives_failure : Gives (failure : Reader α) P := nofun

theorem gives_bind {f : α → Reader β} (hp : Gives p P) (hf : ∀ x, P x → Gives (f x) Q) :
    Gives (p >>= f) Q := by
  intro cs y rest hy
  obtain ⟨⟨x, cs'⟩, hx, hy⟩ := Option.bind_eq_some_iff.1 hy
  exact hf x (hp cs x cs' hx) cs' y rest hy

theorem gives_then {f : α → Reader β} (hf : ∀ x, Gives (f x) Q) : Gives (p >>= f) Q :=
  gives_bind (gives_any p) fun x _ => hf x

theorem gives_ite {c : Prop} [Decidable c] {q : Reader α} (hp : Gives p P) (hq : Gives q P) :
    Gives (if c then p else q) P := by
  split
  · exact hp
  · exact hq

theorem gives_orElse {q : Reader α} (hp : Gives p P) (hq : Gives q P) : Gives (p <|> q) P := by
  intro cs x rest hx
  change (p cs <|> q cs) = some (x, rest) at hx
  cases hcs : p cs with
  | none =>
    rw [hcs] at hx
    exact hq cs x rest hx
  | some y =>
    rw [hcs] at hx
    exact hp cs x rest (hcs.trans hx)

theorem gives_fits (n : Int) : Gives (fits n) Tidy := gives_ite (gives_pure (.integer _)) gives_failure

theorem gives_integer : Gives integer Tidy := by
  unfold integer
  refine gives_then fun _ => gives_ite (gives_then fun _ => gives_fits _) ?_
  refine gives_then fun _ => gives_ite (gives_then fun _ => gives_fits _) ?_
  refine gives_then fun _ => gives_ite (gives_then fun _ => gives_fits _) ?_
  exact gives_then fun _ => gives_then fun _ => gives_fits _

theorem gives_real : Gives real Tidy := by
  unfold real
  refine gives_then fun _ => gives_then fun _ => gives_then fun _ => gives_then fun _ => ?_
  exact gives_ite gives_failure (gives_ite gives_failure (gives_pure (.real _)))

theorem gives_special : Gives special Tidy := by
  unfold special
  refine gives_then fun _ => gives_then fun _ => gives_ite (gives_pure (.real _)) ?_
  exact gives_then fun _ => gives_ite (gives_pure (.real _)) gives_failure

theorem gives_moment : Gives moment Tidy := gives_then fun _ => gives_pure .moment

theorem gives_number : Gives number Tidy :=
  gives_orElse gives_moment (gives_orElse gives_real (gives_orElse gives_special gives_integer))

theorem gives_scalar : Gives scalar Tidy := by
  unfold scalar
  refine gives_then fun _ => gives_ite (gives_then fun _ => gives_pure (.text _)) ?_
  refine gives_then fun _ => gives_ite (gives_pure (.flag true)) ?_
  exact gives_then fun _ => gives_ite (gives_pure (.flag false)) gives_number

theorem gives_items {item : Reader Toml} (h : Gives item Tidy) (fuel : Nat) :
    Gives (items item fuel) fun vs => ∀ v ∈ vs, v.Tidy := by
  induction fuel with
  | zero => exact gives_failure
  | succ fuel ih =>
    unfold items
    refine gives_then fun _ => gives_then fun _ => gives_ite (gives_pure (List.forall_mem_nil _)) ?_
    refine gives_bind h fun v hv => gives_then fun _ => gives_then fun _ => gives_ite ?_ ?_
    · exact gives_bind ih fun vs hvs => gives_pure (List.forall_mem_cons.2 ⟨hv, hvs⟩)
    · exact gives_then fun _ => gives_pure (List.forall_mem_singleton.2 hv)

theorem gives_pair {item : Reader Toml} (h : Gives item Tidy) : Gives (pair item) fun p => p.2.Tidy :=
  gives_then fun _ => gives_then fun _ => gives_then fun _ => gives_bind h fun _ hv => gives_pure hv

theorem gives_pairs {item : Reader Toml} (h : Gives item Tidy) (fuel : Nat) :
    Gives (pairs item fuel) fun ps => ∀ p ∈ ps, p.2.Tidy := by
  induction fuel with
  | zero => exact gives_failure
  | succ fuel ih =>
    unfold pairs
    refine gives_bind (gives_pair h) fun p hp => gives_then fun _ => gives_then fun _ => gives_ite ?_ ?_
    · exact gives_bind ih fun ps hps => gives_pure (List.forall_mem_cons.2 ⟨hp, hps⟩)
    · exact gives_then fun _ => gives_pure (List.forall_mem_singleton.2 hp)

theorem gives_inlineTable {item : Reader Toml} (h : Gives item Tidy) : Gives (inlineTable item) Tidy := by
  have hnil : Gives (pure []) fun ps : List (Key × Toml) => ∀ p ∈ ps, p.2.Tidy :=
    gives_pure (List.forall_mem_nil _)
  unfold inlineTable
  refine gives_then fun _ => gives_then fun _ => gives_ite (gives_bind hnil ?_)
    (gives_then fun _ => gives_bind (gives_pairs h _) ?_)
  all_goals
    intro ps hps
    dsimp only
    split
    · exact gives_pure (tidy_ofPairs hps ‹_›)
    · exact gives_failure

theorem gives_value (depth : Nat) : Gives (value depth) Tidy := by
  induction depth with
  | zero => exact gives_scalar
  | succ depth ih =>
    unfold value
    refine gives_then fun _ => gives_ite ?_ ?_
    · exact gives_then fun _ => gives_bind (gives_items ih _) fun _ hvs => gives_pure (.array hvs)
    · exact gives_then fun _ => gives_ite (gives_inlineTable ih) gives_scalar

theorem gives_header : Gives header Statement.Tidy := by
  unfold header
  refine gives_then fun _ => gives_ite ?_ ?_
  · exact gives_then fun _ => gives_then fun _ => gives_pure trivial
  · exact gives_then fun _ => gives_then fun _ => gives_then fun _ => gives_pure trivial

theorem gives_statement : Gives statement Statement.Tidy := by
  have hline : ∀ s : Statement, s.Tidy → Gives (do endLine; pure s) Statement.Tidy :=
    fun s hs => gives_then fun _ => gives_pure hs
  unfold statement
  refine gives_then fun _ => gives_ite ?_ ?_
  · exact gives_bind gives_header hline
  · exact gives_bind (gives_pair (gives_value _)) fun p hp => gives_bind (gives_pure hp) hline

theorem gives_statements (fuel : Nat) : Gives (statements fuel) fun ss => ∀ s ∈ ss, s.Tidy := by
  induction fuel with
  | zero => exact gives_failure
  | succ fuel ih =>
    unfold statements
    refine gives_then fun _ => gives_then fun c => ?_
    cases c with
    | none => exact gives_pure (List.forall_mem_nil _)
    | some c =>
      refine gives_ite (gives_then fun _ => ih) (gives_bind gives_statement fun s hs => ?_)
      exact gives_bind ih fun ss hss => gives_pure (List.forall_mem_cons.2 ⟨hs, hss⟩)

end Reader

/-- In a document each name is given once, in every table. -/
theorem tidy_of_parse? {text : String} {ms : List (String × Toml)} (h : parse? text = some ms) :
    (Toml.table ms).Tidy := by
  unfold parse? at h
  obtain ⟨statements, hstatements, hms⟩ := Option.bind_eq_some_iff.1 h
  obtain ⟨⟨ss, rest⟩, hread, rfl⟩ := Option.map_eq_some_iff.1 hstatements
  exact tidy_ofStatements (Reader.gives_statements _ _ ss rest hread) hms

end GatewayFeed.Toml
