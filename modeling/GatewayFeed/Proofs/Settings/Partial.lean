import GatewayFeed.Proofs.Settings.Sections
import GatewayFeed.Proofs.Toml.Same

/-! Documents that give some of the settings. Any of the sections and any of their keys may be left out or
come in any order, beside any others that are not known. -/

namespace GatewayFeed

open Setting (Describes ofReader readSection)

namespace Settings

/-- The sections of a document with the types of their keys. -/
def schema : List (String × SettingTypes) :=
  [("control_plane", ControlPlane.types), ("timeouts", Timeouts.types), ("retries", Retries.types),
   ("observability", Observability.types), ("admin", AdminSettings.types)]

/-- Whether a value is what a document may have under a name. -/
def Takes (name : String) (v : Toml) : Prop := ∀ types, schema.lookup name = some types → types.Accepts v

/-- What a document gives. A section that it gives starts from the defaults. -/
def given (s : Settings) (ms : List (String × Toml)) : Settings where
  controlPlane := ((ms.lookup "control_plane").bind (ControlPlane.layout.value? {})).getD s.controlPlane
  timeouts := ((ms.lookup "timeouts").bind (Timeouts.layout.value? {})).getD s.timeouts
  retries := ((ms.lookup "retries").bind (Retries.layout.value? {})).getD s.retries
  observability := ((ms.lookup "observability").bind (Observability.layout.value? {})).getD s.observability
  admin := ((ms.lookup "admin").bind (AdminSettings.layout.value? {})).getD s.admin

theorem fits_of_layout {σ : Type} (c : Section σ) {name : String} (hname : schema.lookup name = some c.types)
    (struct : String) {s₀ : σ} {set : Settings → σ → Settings}
    (hset : ∀ s v x ms, c.value? s₀ v = some x → ms.lookup name = none →
      given s ((name, v) :: ms) = given (set s x) ms) :
    (ofReader name (readSection struct c.settings s₀) set).Fits Toml.Tidy Takes given := by
  refine Setting.fits_ofReader (fun v hv htakes => ?_) (fun v _ htakes => ?_) hset
  · exact c.readSection_ok struct hv (htakes c.types hname)
  · refine c.readSection_error struct fun haccepts => htakes fun types htypes => ?_
    obtain rfl := Option.some.inj (hname.symm.trans htypes)
    exact haccepts

theorem describes : Describes Toml.Tidy Takes given sections where
  nil _ := rfl
  fits := by
    simp only [sections, List.forall_mem_cons]
    refine ⟨fits_of_layout ControlPlane.layout rfl _ ?_, fits_of_layout Timeouts.layout rfl _ ?_,
      fits_of_layout Retries.layout rfl _ ?_, fits_of_layout Observability.layout rfl _ ?_,
      fits_of_layout AdminSettings.layout rfl _ ?_, nofun⟩
    all_goals
      intro s v x ms hx hms
      simp [given, List.lookup_cons, hx, hms]
  congr s ms ns h := by
    simp only [sections, List.forall_mem_cons, ofReader] at h
    simp only [given, h]

variable {ms : List (String × Toml)} {t : Settings}

theorem ofDocument_ok (h : (Toml.table ms).Tidy) (htakes : ∀ name v, ms.lookup name = some v → Takes name v) :
    ofDocument ms = .ok (given {} ms) := by
  cases h with
  | table names htidy => exact Setting.updateAll_ok describes names htidy fun f _ => htakes f.key

theorem ofDocument_error (h : (Toml.table ms).Tidy)
    (hwrong : ¬ ∀ name v, ms.lookup name = some v → Takes name v) :
    ∃ e, ofDocument ms = .error e := by
  cases h with
  | table _ htidy =>
    obtain ⟨name, v, hv, hwrong⟩ : ∃ name v, ms.lookup name = some v ∧ ¬ Takes name v := by
      simpa using hwrong
    have hname : name ∈ schema.map (·.1) := by
      refine Classical.byContradiction fun hnew => hwrong fun types htypes => ?_
      rw [lookup_eq_none_of_not_mem hnew] at htypes
      cases htypes
    have hkeys : schema.map (·.1) = sections.map (·.key) := rfl
    rw [hkeys] at hname
    obtain ⟨f, hf, rfl⟩ := List.mem_map.1 hname
    exact Setting.updateAll_error describes htidy hf hv hwrong

/-- A document is accepted exactly if all that it has under known names is right, and gives what it says. -/
theorem ofDocument_iff (h : (Toml.table ms).Tidy) :
    ofDocument ms = .ok t ↔ (∀ name v, ms.lookup name = some v → Takes name v) ∧ t = given {} ms := by
  constructor
  · intro ht
    have htakes : ∀ name v, ms.lookup name = some v → Takes name v := by
      refine Classical.byContradiction fun hwrong => ?_
      obtain ⟨e, he⟩ := ofDocument_error h hwrong
      rw [he] at ht
      cases ht
    rw [ofDocument_ok h htakes] at ht
    exact ⟨htakes, (Except.ok.inj ht).symm⟩
  · rintro ⟨htakes, rfl⟩
    exact ofDocument_ok h htakes

/-- A section written in another way: with its keys in another order and with other unknown ones, or as
an array of the values of its first keys. -/
inductive SectionRewritten (keys : List String) : Toml → Toml → Prop where
  | same (v : Toml) : SectionRewritten keys v v
  | table {ts us : List (String × Toml)} (h : (ts.filter (·.1 ∈ keys)).Perm (us.filter (·.1 ∈ keys))) :
      SectionRewritten keys (.table ts) (.table us)
  | array {items : List Toml} {us : List (String × Toml)} (hlen : items.length ≤ keys.length)
      (h : (keys.zip items).Perm (us.filter (·.1 ∈ keys))) : SectionRewritten keys (.array items) (.table us)

theorem members?_of_rewritten {keys : List String} (distinct : keys.Nodup) {v w : Toml}
    (h : SectionRewritten keys v w) (hv : v.Tidy) :
    v = w ∨ ∃ ts us, v.members? keys = some ts ∧ w.members? keys = some us ∧
      ∀ key ∈ keys, ts.lookup key = us.lookup key := by
  -- Both have the same under the known keys, and each known key once.
  have hknown : ∀ (us : List (String × Toml)), ∀ key ∈ keys,
      (us.filter (·.1 ∈ keys)).lookup key = us.lookup key :=
    fun us key hkey => lookup_filter (p := fun key => decide (key ∈ keys)) (decide_eq_true hkey)
  cases h with
  | same => exact .inl rfl
  | @table ts us h =>
    refine .inr ⟨ts, us, rfl, rfl, fun key hkey => ?_⟩
    cases hv with
    | table names _ =>
      have hlookup := lookup_perm h ((List.filter_sublist.map _).nodup names) key
      rwa [hknown ts key hkey, hknown us key hkey] at hlookup
  | @array items us hlen h =>
    refine .inr ⟨keys.zip items, us, rfl, rfl, fun key hkey => ?_⟩
    rw [← hknown us key hkey]
    exact lookup_perm h (Section.nodup_zip distinct items) key

def keysOf (name : String) : List String := ((schema.lookup name).getD []).map (·.1)

def isKnown (name : String) : Bool := name ∈ schema.map (·.1)

/-- Documents that have the same known sections, in another order, each of them written in another way, and
any sections that are not known. -/
def Rewritten (ms ns : List (String × Toml)) : Prop :=
  ∃ l, (ms.filter fun m => isKnown m.1).Perm l ∧
    List.Forall₂ (fun m n => m.1 = n.1 ∧ SectionRewritten (keysOf m.1) m.2 n.2) l
      (ns.filter fun n => isKnown n.1)

end Settings

open Settings (SectionRewritten members?_of_rewritten)

theorem SettingTypes.accepts_iff {types : SettingTypes} {v : Toml} {ts : List (String × Toml)}
    (h : v.members? (types.map (·.1)) = some ts) :
    types.Accepts v ↔ ∀ key ∈ types.map (·.1), ∀ w, ts.lookup key = some w → types.Takes key w := by
  constructor
  · rintro ⟨ms, hms, htakes⟩ key - w hw
    obtain rfl := Option.some.inj (h.symm.trans hms)
    exact htakes key w hw
  · intro htakes
    refine ⟨ts, h, fun key w hw t ht => htakes key ?_ w hw t ht⟩
    exact List.mem_map_of_mem (mem_of_lookup ht)

theorem SettingTypes.accepts_of_rewritten {types : SettingTypes} (distinct : (types.map (·.1)).Nodup)
    {v w : Toml} (h : SectionRewritten (types.map (·.1)) v w) (hv : v.Tidy) :
    types.Accepts v ↔ types.Accepts w := by
  rcases members?_of_rewritten distinct h hv with rfl | ⟨ts, us, hts, hus, hlookup⟩
  · rfl
  · rw [accepts_iff hts, accepts_iff hus]
    refine forall₂_congr fun key hkey => ?_
    rw [hlookup key hkey]

theorem Section.value?_of_rewritten {σ : Type} (c : Section σ) {v w : Toml}
    (h : SectionRewritten (c.types.map (·.1)) v w) (hv : v.Tidy) (s : σ) : c.value? s v = c.value? s w := by
  rcases members?_of_rewritten c.distinct h hv with rfl | ⟨ts, us, hts, hus, hlookup⟩
  · rfl
  · rw [value?, value?, hts, hus, Option.map_some, Option.map_some]
    refine congrArg some (c.describes.congr s ts us fun f hf => hlookup f.key ?_)
    rw [← c.keys]
    exact List.mem_map_of_mem hf

namespace Settings

variable {ms ns : List (String × Toml)} {name : String}

theorem lookup_of_rewritten (h : Rewritten ms ns) (names : (ms.map (·.1)).Nodup) (hname : isKnown name = true) :
    Option.Rel (SectionRewritten (keysOf name)) (ms.lookup name) (ns.lookup name) := by
  obtain ⟨l, hperm, hl⟩ := h
  have hms : ms.lookup name = l.lookup name := by
    rw [← lookup_filter (p := isKnown) hname, lookup_perm hperm ((List.filter_sublist.map _).nodup names)]
  rw [hms, ← lookup_filter (l := ns) (p := isKnown) hname]
  clear hms hperm
  generalize ns.filter (fun n => isKnown n.1) = l' at hl ⊢
  induction hl with
  | nil => exact .none
  | @cons m n l l' hmn _ ih =>
    obtain ⟨hkey, hsection⟩ := hmn
    rw [List.lookup_cons, List.lookup_cons, ← hkey]
    by_cases he : name = m.1
    · subst he
      rw [beq_self_eq_true]
      exact .some hsection
    · rw [beq_false_of_ne he]
      exact ih

variable {types : SettingTypes}

theorem rel_of_rewritten (h : Rewritten ms ns) (hms : (Toml.table ms).Tidy)
    (htypes : schema.lookup name = some types) :
    Option.Rel (fun v w => SectionRewritten (types.map (·.1)) v w ∧ v.Tidy)
      (ms.lookup name) (ns.lookup name) := by
  have hname : isKnown name = true := by
    have hmem := List.mem_map_of_mem (f := (·.1)) (mem_of_lookup htypes)
    exact decide_eq_true hmem
  have hkeys : keysOf name = types.map (·.1) := by rw [keysOf, htypes, Option.getD_some]
  cases hms with
  | table names htidy =>
    have hrel := lookup_of_rewritten h names hname
    have htidy' : ∀ v, ms.lookup name = some v → v.Tidy := fun v hv => htidy _ (mem_of_lookup hv)
    rw [hkeys] at hrel
    generalize ms.lookup name = o at hrel htidy' ⊢
    generalize ns.lookup name = o' at hrel ⊢
    cases hrel with
    | none => exact .none
    | some hvw => exact .some ⟨hvw, htidy' _ rfl⟩

theorem accepts_lookup_of_rewritten (h : Rewritten ms ns) (hms : (Toml.table ms).Tidy)
    (htypes : schema.lookup name = some types) :
    (∀ v, ms.lookup name = some v → types.Accepts v) ↔ ∀ w, ns.lookup name = some w → types.Accepts w := by
  have hdistinct : ∀ p ∈ schema, (p.2.map (·.1)).Nodup := by decide
  have hrel := rel_of_rewritten h hms htypes
  generalize ms.lookup name = o at hrel ⊢
  generalize ns.lookup name = o' at hrel ⊢
  cases hrel with
  | none => simp
  | some hvw =>
    have hiff := SettingTypes.accepts_of_rewritten (hdistinct _ (mem_of_lookup htypes)) hvw.1 hvw.2
    simpa using hiff

theorem takes_of_rewritten (h : Rewritten ms ns) (hms : (Toml.table ms).Tidy) :
    (∀ name v, ms.lookup name = some v → Takes name v) ↔ ∀ name w, ns.lookup name = some w → Takes name w := by
  constructor
  · intro htakes name w hw types htypes
    exact (accepts_lookup_of_rewritten h hms htypes).1 (fun v hv => htakes name v hv types htypes) w hw
  · intro htakes name v hv types htypes
    exact (accepts_lookup_of_rewritten h hms htypes).2 (fun w hw => htakes name w hw types htypes) v hv

theorem value?_lookup_of_rewritten {σ : Type} (c : Section σ) (h : Rewritten ms ns) (hms : (Toml.table ms).Tidy)
    (hname : schema.lookup name = some c.types) (s : σ) :
    (ms.lookup name).bind (c.value? s) = (ns.lookup name).bind (c.value? s) := by
  have hrel := rel_of_rewritten h hms hname
  generalize ms.lookup name = o at hrel ⊢
  generalize ns.lookup name = o' at hrel ⊢
  cases hrel with
  | none => rfl
  | some hvw => exact c.value?_of_rewritten hvw.1 hvw.2 s

theorem given_of_rewritten (h : Rewritten ms ns) (hms : (Toml.table ms).Tidy) (s : Settings) :
    given s ms = given s ns := by
  rw [given, given, value?_lookup_of_rewritten ControlPlane.layout h hms rfl,
    value?_lookup_of_rewritten Timeouts.layout h hms rfl, value?_lookup_of_rewritten Retries.layout h hms rfl,
    value?_lookup_of_rewritten Observability.layout h hms rfl,
    value?_lookup_of_rewritten AdminSettings.layout h hms rfl]

/-- Documents that say the same are accepted or refused alike, and give the same settings. -/
theorem ofDocument_of_rewritten (h : Rewritten ms ns) (hms : (Toml.table ms).Tidy)
    (hns : (Toml.table ns).Tidy) : (ofDocument ms).toOption = (ofDocument ns).toOption := by
  by_cases htakes : ∀ name v, ms.lookup name = some v → Takes name v
  · rw [ofDocument_ok hms htakes, ofDocument_ok hns ((takes_of_rewritten h hms).1 htakes),
      given_of_rewritten h hms]
  · obtain ⟨e, he⟩ := ofDocument_error hms htakes
    obtain ⟨e', he'⟩ := ofDocument_error hns (mt (takes_of_rewritten h hms).2 htakes)
    rw [he, he']
    rfl

/-- Whether a value is a section written as a table in which every known key has a value of its type. A date
counts as one without any known key. -/
def IsSection (types : SettingTypes) (v : Toml) : Prop :=
  v = .moment ∨ ∃ ts, v = .table ts ∧ ∀ key t w, types.lookup key = some t → ts.lookup key = some w → t.Takes w

theorem accepts_iff_isSection {v : Toml} (h : ∀ items, v ≠ .array items) :
    types.Accepts v ↔ IsSection types v := by
  have hnone : v.members? (types.map (·.1)) = none → ¬ types.Accepts v := by
    rintro hnone ⟨ms, hms, -⟩
    rw [hnone] at hms
    cases hms
  cases v with
  | table ts =>
    constructor
    · rintro ⟨ms, hms, htakes⟩
      obtain rfl := Option.some.inj hms
      exact .inr ⟨ts, rfl, fun key t w ht hw => htakes key w hw t ht⟩
    · rintro (hmoment | ⟨us, hus, htakes⟩)
      · cases hmoment
      · cases hus
        exact ⟨ts, rfl, fun key w hw t ht => htakes key t w ht hw⟩
  | moment => exact ⟨fun _ => .inl rfl, fun _ => ⟨[], rfl, nofun⟩⟩
  | array items => exact absurd rfl (h items)
  | _ => exact ⟨fun haccepts => absurd haccepts (hnone rfl), by rintro (hv | ⟨ts, hv, -⟩) <;> cases hv⟩

/-- Without arrays for sections, a document is accepted exactly if every known section in it is one whose
known keys have values of their types. What is accepted gives what it says and leaves the defaults for all
else, and documents that say the same in another way are accepted or refused alike. -/
theorem ofDocument_partial {text : String} (h : Toml.parse? text = some ms) :
    ((∀ name types, schema.lookup name = some types → ∀ items, ms.lookup name ≠ some (.array items)) →
      ((∃ t, ofDocument ms = .ok t) ↔ ∀ name types v, schema.lookup name = some types →
        ms.lookup name = some v → IsSection types v)) ∧
    (∀ t, ofDocument ms = .ok t → t = given {} ms) ∧
    (∀ t password, ofDocument ms = .ok t → parse text password = (t.withPassword password).validated) ∧
    (∀ e password, ofDocument ms = .error e → parse text password = .error (.mismatch e)) ∧
    ∀ other ns, Toml.parse? other = some ns → Rewritten ms ns →
      (ofDocument ms).toOption = (ofDocument ns).toOption := by
  have hms := Toml.tidy_of_parse? h
  refine ⟨fun hno => ?_, fun t ht => ((ofDocument_iff hms).1 ht).2, fun t password ht => ?_,
    fun e password he => ?_,
    fun other ns hother hsame => ofDocument_of_rewritten hsame hms (Toml.tidy_of_parse? hother)⟩
  · have htakes : (∀ name v, ms.lookup name = some v → Takes name v) ↔
        ∀ name types v, schema.lookup name = some types → ms.lookup name = some v → IsSection types v := by
      constructor
      · intro htakes name types v htypes hv
        exact (accepts_iff_isSection fun items he => hno name types htypes items (he ▸ hv)).1
          (htakes name v hv types htypes)
      · intro hsections name v hv types htypes
        exact (accepts_iff_isSection fun items he => hno name types htypes items (he ▸ hv)).2
          (hsections name types v htypes hv)
    rw [← htakes]
    exact ⟨fun ⟨t, ht⟩ => ((ofDocument_iff hms).1 ht).1, fun htakes => ⟨_, ofDocument_ok hms htakes⟩⟩
  · simp only [parse, h, ht]
  · simp only [parse, h, he]

def someRetries : List (String × Toml) :=
  [("max_attempts", .integer 5), ("jitter", .flag true), ("enabled", .flag false)]

/-- Some of a section, by position and under its keys. -/
theorem ofDocument_retries_by_position : ∃ ms ns,
    Toml.parse? "note = 'x'\nretries = [false, 5]\n" = some ms ∧
    Toml.parse? "[retries]\nmax_attempts = 5\njitter = true\nenabled = false\n" = some ns ∧
    ofDocument ns = .ok { retries := { enabled := false, maxAttempts := 5 } } ∧
    (ofDocument ms).toOption = some { retries := { enabled := false, maxAttempts := 5 } } := by
  have hms : Toml.parse? "note = 'x'\nretries = [false, 5]\n" =
      some [("note", .text "x"), ("retries", .array [.flag false, .integer 5])] :=
    Toml.parse?_eq_some (by decide +kernel)
  have hns : Toml.parse? "[retries]\nmax_attempts = 5\njitter = true\nenabled = false\n" =
      some [("retries", .table someRetries)] :=
    Toml.parse?_eq_some (by decide +kernel)
  have hsame : Rewritten [("note", .text "x"), ("retries", .array [.flag false, .integer 5])]
      [("retries", .table someRetries)] :=
    ⟨_, .refl _, .cons ⟨rfl, .array (by decide) (.swap _ _ _)⟩ .nil⟩
  have hlookup : ∀ {name v}, List.lookup name [("retries", Toml.table someRetries)] = some v →
      name = "retries" ∧ v = .table someRetries := fun hv => by simpa using mem_of_lookup hv
  have htakes : ∀ m ∈ someRetries, ∀ t, Retries.types.lookup m.1 = some t → t.Takes m.2 := by
    simp only [someRetries, List.forall_mem_cons]
    refine ⟨fun t ht => ?_, nofun, fun t ht => ?_, nofun⟩
    · obtain rfl := Option.some.inj ht
      exact ⟨5, rfl, by decide, by decide⟩
    · obtain rfl := Option.some.inj ht
      exact ⟨false, rfl⟩
  obtain ⟨-, -, -, -, hrewritten⟩ := ofDocument_partial hms
  obtain ⟨haccepted, hgiven, -, -, -⟩ := ofDocument_partial hns
  have hsections : ∀ name types v, schema.lookup name = some types →
      [("retries", Toml.table someRetries)].lookup name = some v → IsSection types v := by
    intro name types v htypes hv
    obtain ⟨rfl, rfl⟩ := hlookup hv
    obtain rfl := Option.some.inj htypes
    exact .inr ⟨someRetries, rfl, fun key t w ht hw => htakes _ (mem_of_lookup hw) t ht⟩
  obtain ⟨t, ht⟩ := (haccepted fun _ _ _ _ hv => nomatch (hlookup hv).2).2 hsections
  obtain rfl := hgiven t ht
  refine ⟨_, _, hms, hns, ht, ?_⟩
  rw [hrewritten _ _ hns hsame, ht]
  rfl

/-- A section may be no table and still be taken, for a date is. -/
theorem not_every_section_table : ¬ ∀ (text : String) (ms : List (String × Toml)), Toml.parse? text = some ms →
    (∀ name types, schema.lookup name = some types → ∀ items, ms.lookup name ≠ some (.array items)) →
    ((∃ t, ofDocument ms = .ok t) ↔ ∀ name types v, schema.lookup name = some types →
      ms.lookup name = some v →
        ∃ ts, v = .table ts ∧ ∀ key t w, types.lookup key = some t → ts.lookup key = some w → t.Takes w) := by
  intro h
  have hms : Toml.parse? "timeouts = 1979-05-27\n" = some [("timeouts", .moment)] :=
    Toml.parse?_eq_some (by decide +kernel)
  have hno : ∀ name types, schema.lookup name = some types →
      ∀ items, [("timeouts", Toml.moment)].lookup name ≠ some (.array items) := by
    intro name types _ items hv
    simpa using mem_of_lookup hv
  obtain ⟨ts, hts, -⟩ := (h _ _ hms hno).1 ⟨{}, rfl⟩ "timeouts" _ .moment rfl rfl
  cases hts

end Settings

end GatewayFeed
