import GatewayFeed.Proofs.Item.Objects

/-! Fields as they are printed: a printed value means what was printed, and an object is printed with
the members it has, whatever their order. -/

namespace GatewayFeed

open Json (Written Member)

namespace Attributes

theorem insertEntry_of_lt {key value : String} {es : List (String × String)} (h : ∀ e ∈ es, e.1 < key) :
    insertEntry key value es = es ++ [(key, value)] := by
  induction es with
  | nil => rfl
  | cons e es ih =>
    have he := h e List.mem_cons_self
    rw [insertEntry, if_neg (String.lt_asymm he), if_pos he, ih fun x hx => h x (List.mem_cons_of_mem _ hx)]
    rfl

theorem eq_of_entries {m m' : Attributes} (h : m.entries = m'.entries) : m = m' := by
  cases m
  cases m'
  cases h
  rfl

/-- Sorted entries are kept as they are. -/
theorem ofList_entries (m : Attributes) : ofList m.entries = m := by
  have hfold : ∀ (es : List (String × String)) (m : Attributes),
      (m.entries ++ es).Pairwise (fun a b => a.1 < b.1) →
      (es.foldl (fun m e => m.insert e.1 e.2) m).entries = m.entries ++ es := by
    intro es
    induction es with
    | nil => intro m _; simp
    | cons e es ih =>
      intro m hm
      have hlt : ∀ x ∈ m.entries, x.1 < e.1 := fun x hx =>
        (List.pairwise_append.1 hm).2.2 x hx e List.mem_cons_self
      have hinsert : (m.insert e.1 e.2).entries = m.entries ++ [e] := insertEntry_of_lt hlt
      rw [List.foldl_cons, ih _ (by rw [hinsert]; simpa using hm), hinsert]
      simp
  have h := hfold m.entries empty (by simpa [empty] using m.sorted)
  exact eq_of_entries h

end Attributes

namespace Json

open Written (nullable?)

theorem insertMember_perm (key : String) (v : Json) {ms : List (String × Json)}
    (h : key ∉ ms.map (·.1)) : (insertMember key v ms).Perm ((key, v) :: ms) := by
  induction ms with
  | nil => exact .refl _
  | cons m ms ih =>
    rw [List.map_cons, List.mem_cons, not_or] at h
    rw [insertMember]
    split
    · exact .refl _
    · rw [if_neg h.1]
      exact ((ih h.2).cons m).trans (.swap _ _ _)

/-- Sorting keeps the members of an object, where none is repeated. -/
theorem sortedMembers_perm {ms : List (String × Json)} (h : (ms.map (·.1)).Nodup) :
    (sortedMembers ms).Perm ms := by
  have hfold : ∀ (ms sorted : List (String × Json)), ((sorted ++ ms).map (·.1)).Nodup →
      (ms.foldl (fun sorted m => insertMember m.1 m.2 sorted) sorted).Perm (sorted ++ ms) := by
    intro ms
    induction ms with
    | nil => intro sorted _; simp
    | cons m ms ih =>
      intro sorted hn
      have hkey : m.1 ∉ sorted.map (·.1) := by
        rw [List.map_append, List.nodup_append] at hn
        exact fun hmem => hn.2.2 m.1 hmem m.1 (by simp) rfl
      have hinsert : (insertMember m.1 m.2 sorted ++ ms).Perm (sorted ++ m :: ms) :=
        ((insertMember_perm m.1 m.2 hkey).append_right ms).trans List.perm_middle.symm
      exact (ih _ ((hinsert.map _).nodup_iff.2 hn)).trans hinsert
  exact hfold ms [] h

theorem text?_written (s : String) : (written (.text s)).text? = some s := Json.Spelling.text?_ofText s

theorem integer?_written {low high i : Int} (hlow : low ≤ i) (hhigh : i ≤ high) :
    (Json.integer i).written.integer? low high = some i := by
  change (Json.Numeral.ofInt i).int?.filter _ = some i
  rw [Json.Numeral.int?_ofInt]
  simp [Option.filter, hlow, hhigh]

theorem int64?_written (n : Int64) : (Json.integer n.toInt).written.int64? = some n := by
  have hlow := n.le_toInt
  have hhigh := n.toInt_lt
  rw [Written.int64?, integer?_written (by omega) (by omega), Option.map_some, Int64.ofInt_toInt]

theorem int32?_written (n : Int32) : (Json.integer n.toInt).written.int32? = some n := by
  have hlow := n.le_toInt
  have hhigh := n.toInt_lt
  rw [Written.int32?, integer?_written (by omega) (by omega), Option.map_some, Int32.ofInt_toInt]

theorem list?_written {α : Type} (f : Written → Option α) (xs : List Json) :
    (Json.written (.array xs)).list? f = xs.mapM fun x => f x.written := by
  change ((Json.writtenItems xs).mapM fun p => f p.value) = _
  induction xs with
  | nil => rfl
  | cons x xs ih => rw [Json.writtenItems, List.mapM_cons, List.mapM_cons, ih]

theorem map?_written {α : Type} (f : Written → Option α) (ms : List (String × Json)) :
    (Json.written (.object ms)).map? f = ms.mapM fun m => (f m.2.written).map fun x => (m.1, x) := by
  change (Json.writtenMembers ms).mapM (Written.pair? f) = _
  induction ms with
  | nil => rfl
  | cons m ms ih =>
    rw [Json.writtenMembers, List.mapM_cons, List.mapM_cons, ih, Written.pair?, Json.Spelling.text?_ofText]
    rfl

theorem nullable?_text_written (s : String) :
    nullable? Written.text? (written (.text s)) = some (some s) := by
  change (Json.Spelling.text? _).map some = _
  rw [Json.Spelling.text?_ofText, Option.map_some]

theorem texts?_written (ts : List String) : (Json.written (.array (ts.map .text))).texts? = some ts := by
  have htexts : ((ts.map Json.text).mapM fun x => nullable? Written.text? x.written) = some (ts.map some) := by
    rw [List.mapM_map]
    exact mapM_some ts fun s _ => nullable?_text_written s
  rw [Written.texts?, list?_written, htexts]
  simp [Function.comp_def]

theorem attributes?_written (m : Attributes) :
    (Json.written (.object (m.entries.map fun e => (e.1, .text e.2)))).attributes? = some m := by
  have hentries : ((m.entries.map fun e => (e.1, Json.text e.2)).mapM fun x =>
      (nullable? Written.text? x.2.written).map fun y => (x.1, y)) =
      some (m.entries.map fun e => (e.1, some e.2)) := by
    rw [List.mapM_map]
    refine mapM_some m.entries fun e _ => ?_
    simp [nullable?_text_written]
  rw [Written.attributes?, map?_written, hentries]
  simp [Function.comp_def, Attributes.ofList_entries]

end Json

theorem Json.members?_written {τ : Type} (s : Shape τ) (ms : List (String × Json)) :
    s.members? (Json.written (.object ms)) = some (.ofJson ms) :=
  WrittenObject.view?_printed ms

def FieldValue.type : FieldValue → FieldType
  | .int64 _ => .int64
  | .int32 _ => .int32
  | .text _ => .text
  | .flag _ => .flag
  | .texts _ => .texts
  | .attributes _ => .attributes
  | .event _ => .event

theorem FieldValue.isPlain_written {v : FieldValue} (h : v.type ≠ .event) :
    v.type.isPlain v.plainJson.written = true := by
  cases v with
  | int64 n => simp [type, FieldType.isPlain, plainJson, Json.int64?_written]
  | int32 n => simp [type, FieldType.isPlain, plainJson, Json.int32?_written]
  | text s => simp [type, FieldType.isPlain, plainJson, Json.text?_written]
  | flag b => rfl
  | texts ts => simp [type, FieldType.isPlain, plainJson, Json.texts?_written]
  | attributes m => simp [type, FieldType.isPlain, plainJson, Json.attributes?_written]
  | event e => exact absurd rfl h

theorem FieldValue.isExact_plainJson (v : FieldValue) : v.plainJson.isExact = true := by
  cases v with
  | texts ts => simp [plainJson, Json.isExact, Json.areExact_iff]
  | attributes m =>
    rw [plainJson, Json.isExact, Json.membersExact_iff, List.forall_mem_map]
    exact fun _ _ => rfl
  | int64 n => rfl
  | int32 n => rfl
  | text s => rfl
  | flag b => rfl
  | event e => rfl

end GatewayFeed
