import GatewayFeed.Proofs.Lookup
import GatewayFeed.Proofs.Toml.Keys
import GatewayFeed.Settings.Document

/-! What a section says, by its keys. Where no key is repeated, the order of the members does not matter,
unknown keys do not either, and what is left out keeps its default. -/

namespace GatewayFeed

inductive SettingType where
  | text
  | flag
  | natural64
  | natural32
  deriving DecidableEq, Repr

namespace SettingType

abbrev Value : SettingType → Type
  | text => String
  | flag => Bool
  | natural64 => UInt64
  | natural32 => UInt32

/-- The value of a type; none is converted. -/
def value? : (t : SettingType) → Toml → Option t.Value
  | text, .text s => some s
  | flag, .flag b => some b
  | natural64, .integer n =>
    if 0 ≤ n.toInt ∧ n.toInt ≤ 0x7FFFFFFFFFFFFFFF then some (UInt64.ofNat n.toInt.toNat) else none
  | natural32, .integer n =>
    if 0 ≤ n.toInt ∧ n.toInt ≤ 0xFFFFFFFF then some (UInt32.ofNat n.toInt.toNat) else none
  | _, _ => none

def Takes : SettingType → Toml → Prop
  | text, v => ∃ s, v = .text s
  | flag, v => ∃ b, v = .flag b
  | natural64, v => ∃ n, v = .integer n ∧ 0 ≤ n.toInt ∧ n.toInt ≤ 0x7FFFFFFFFFFFFFFF
  | natural32, v => ∃ n, v = .integer n ∧ 0 ≤ n.toInt ∧ n.toInt ≤ 0xFFFFFFFF

def read : (t : SettingType) → Toml → Except Mismatch t.Value
  | text => Toml.toText
  | flag => Toml.toFlag
  | natural64 => Toml.toNatural64
  | natural32 => Toml.toNatural32

theorem isSome_value?_iff (t : SettingType) (v : Toml) : (t.value? v).isSome = true ↔ t.Takes v := by
  cases t <;> cases v <;> simp [value?, Takes]

theorem toOption_read (t : SettingType) (v : Toml) : (t.read v).toOption = t.value? v := by
  cases t with
  | text => cases v <;> rfl
  | flag => cases v <;> rfl
  | natural64 =>
    cases v with
    | integer n =>
      have hrange : (0 ≤ n.toInt ∧ n.toInt < (0x10000000000000000 : Nat)) ↔
          (0 ≤ n.toInt ∧ n.toInt ≤ 0x7FFFFFFFFFFFFFFF) := by
        have hlt := n.toInt_lt
        omega
      simp only [read, Toml.toNatural64, Toml.toNatural, value?, hrange]
      split <;> rfl
    | _ => rfl
  | natural32 =>
    cases v with
    | integer n =>
      have hrange : (0 ≤ n.toInt ∧ n.toInt < (0x100000000 : Nat)) ↔
          (0 ≤ n.toInt ∧ n.toInt ≤ 0xFFFFFFFF) := by omega
      simp only [read, Toml.toNatural32, Toml.toNatural, value?, hrange]
      split <;> rfl
    | _ => rfl

theorem read_ok {t : SettingType} {v : Toml} {x : t.Value} (h : t.value? v = some x) : t.read v = .ok x := by
  rw [← toOption_read] at h
  cases hr : t.read v with
  | error e => simp [hr, Except.toOption] at h
  | ok y => simpa [hr, Except.toOption] using h

theorem read_error {t : SettingType} {v : Toml} (h : t.value? v = none) : ∃ e, t.read v = .error e := by
  rw [← toOption_read] at h
  cases hr : t.read v with
  | error e => exact ⟨e, rfl⟩
  | ok y => simp [hr, Except.toOption] at h

end SettingType

namespace Setting

variable {σ : Type} {settings : List (Setting σ)} {good : Toml → Prop} {takes : String → Toml → Prop}
  {given : σ → List (String × Toml) → σ} {s : σ} {ms ns : List (String × Toml)}

/-- A setting takes the values that are right for its key and no others. What it has taken is given under
its key. -/
structure Fits (good : Toml → Prop) (takes : String → Toml → Prop) (given : σ → List (String × Toml) → σ)
    (f : Setting σ) : Prop where
  taken : ∀ s v ms, good v → takes f.key v → ms.lookup f.key = none →
    ∃ s', f.update s v = .ok s' ∧ given s ((f.key, v) :: ms) = given s' ms
  refused : ∀ s v, good v → ¬ takes f.key v → ∃ e, f.update s v = .error e

/-- What members give, by what they have under the keys of the settings. -/
structure Describes (good : Toml → Prop) (takes : String → Toml → Prop)
    (given : σ → List (String × Toml) → σ) (settings : List (Setting σ)) : Prop where
  nil : ∀ s, given s [] = s
  fits : ∀ f ∈ settings, f.Fits good takes given
  congr : ∀ s ms ns, (∀ f ∈ settings, ms.lookup f.key = ns.lookup f.key) → given s ms = given s ns

theorem lookup_cons_of_find?_eq_none {key : String} {v : Toml} {f : Setting σ}
    (hkey : settings.find? (·.key = key) = none) (hf : f ∈ settings) :
    ((key, v) :: ms).lookup f.key = ms.lookup f.key := by
  have hne : f.key ≠ key := by simpa using List.find?_eq_none.1 hkey f hf
  rw [List.lookup_cons, beq_false_of_ne hne]

theorem key_of_find? {key : String} {f : Setting σ} (h : settings.find? (·.key = key) = some f) :
    f ∈ settings ∧ f.key = key :=
  ⟨List.mem_of_find?_eq_some h, by simpa using List.find?_some h⟩

theorem find?_key_of_mem (h : (settings.map (·.key)).Nodup) {f : Setting σ} (hf : f ∈ settings) :
    settings.find? (·.key = f.key) = some f := by
  induction settings with
  | nil => cases hf
  | cons g settings ih =>
    rw [List.map_cons, List.nodup_cons] at h
    rcases List.mem_cons.1 hf with rfl | hf
    · simp
    · have hne : g.key ≠ f.key := fun he => h.1 (he ▸ List.mem_map_of_mem hf)
      rw [List.find?_cons_of_neg (by simpa using hne)]
      exact ih h.2 hf

theorem updateAll_cons_none {key : String} (h : settings.find? (·.key = key) = none) (s : σ) (v : Toml)
    (ms : List (String × Toml)) : updateAll settings s ((key, v) :: ms) = updateAll settings s ms := by
  simp only [updateAll, List.foldlM_cons, h]
  rfl

theorem updateAll_cons_some {key : String} {f : Setting σ} (h : settings.find? (·.key = key) = some f) (s : σ)
    (v : Toml) (ms : List (String × Toml)) :
    updateAll settings s ((key, v) :: ms) = (f.update s v).bind fun s' => updateAll settings s' ms := by
  simp only [updateAll, List.foldlM_cons, h]
  rfl

/-- Members that are right under every known key give what they say. -/
theorem updateAll_ok (h : Describes good takes given settings) (names : (ms.map (·.1)).Nodup)
    (hgood : ∀ m ∈ ms, good m.2)
    (htakes : ∀ f ∈ settings, ∀ v, ms.lookup f.key = some v → takes f.key v) :
    updateAll settings s ms = .ok (given s ms) := by
  induction ms generalizing s with
  | nil =>
    rw [h.nil]
    rfl
  | cons m ms ih =>
    obtain ⟨key, v⟩ := m
    rw [List.map_cons, List.nodup_cons] at names
    have hgood' := fun m hm => hgood m (List.mem_cons_of_mem _ hm)
    have hnone : ms.lookup key = none := lookup_eq_none_of_not_mem names.1
    cases hfind : settings.find? (·.key = key) with
    | none =>
      have hlookup : ∀ f ∈ settings, ((key, v) :: ms).lookup f.key = ms.lookup f.key :=
        fun f hf => lookup_cons_of_find?_eq_none hfind hf
      rw [updateAll_cons_none hfind, h.congr s _ _ hlookup]
      exact ih names.2 hgood' fun f hf w hw => htakes f hf w ((hlookup f hf).trans hw)
    | some f =>
      obtain ⟨hf, rfl⟩ := key_of_find? hfind
      obtain ⟨s', hs', hgiven⟩ := (h.fits f hf).taken s v ms (hgood _ List.mem_cons_self)
        (htakes f hf v List.lookup_cons_self) hnone
      rw [updateAll_cons_some hfind, hs', hgiven]
      refine ih names.2 hgood' fun f' hf' w hw => htakes f' hf' w ?_
      have hne : f'.key ≠ f.key := fun he => by simp [he, hnone] at hw
      rw [List.lookup_cons, beq_false_of_ne hne]
      exact hw

/-- A value that is wrong for its key is never passed over. -/
theorem updateAll_error (h : Describes good takes given settings) (hgood : ∀ m ∈ ms, good m.2) {f : Setting σ}
    (hf : f ∈ settings) {v : Toml} (hv : ms.lookup f.key = some v) (hwrong : ¬ takes f.key v) :
    ∃ e, updateAll settings s ms = .error e := by
  induction ms generalizing s with
  | nil => cases hv
  | cons m ms ih =>
    obtain ⟨key, w⟩ := m
    have ih' := fun s hv => ih (s := s) (fun m hm => hgood m (List.mem_cons_of_mem _ hm)) hv
    cases hfind : settings.find? (·.key = key) with
    | none =>
      rw [updateAll_cons_none hfind]
      exact ih' s ((lookup_cons_of_find?_eq_none hfind hf).symm.trans hv)
    | some g =>
      obtain ⟨hg, rfl⟩ := key_of_find? hfind
      rw [updateAll_cons_some hfind]
      by_cases he : f.key = g.key
      · rw [he, List.lookup_cons_self] at hv
        cases hv
        obtain ⟨e, he'⟩ := (h.fits g hg).refused s v (hgood _ List.mem_cons_self) (he ▸ hwrong)
        exact ⟨e, by rw [he']; rfl⟩
      · rw [List.lookup_cons, beq_false_of_ne he] at hv
        cases hupdate : g.update s w with
        | error e => exact ⟨e, rfl⟩
        | ok s' => exact ih' s' hv

/-- Values in the order of the settings do what they do under their keys. -/
theorem foldlM_zip_eq_updateAll {fs : List (Setting σ)}
    (hfs : ∀ f ∈ fs, settings.find? (·.key = f.key) = some f) (s : σ) (items : List Toml) :
    (fs.zip items).foldlM (fun s p => p.1.update s p.2) s =
      updateAll settings s ((fs.map (·.key)).zip items) := by
  induction fs generalizing s items with
  | nil => rfl
  | cons f fs ih =>
    cases items with
    | nil => rfl
    | cons v items =>
      rw [List.zip_cons_cons, List.map_cons, List.zip_cons_cons, List.foldlM_cons,
        updateAll_cons_some (hfs f List.mem_cons_self)]
      exact congrArg _ (funext fun s' => ih (fun g hg => hfs g (List.mem_cons_of_mem _ hg)) s' items)

theorem fits_ofReader {α : Type} {key : String} {read : Toml → Except Mismatch α} {value? : Toml → Option α}
    {set : σ → α → σ} (hok : ∀ v, good v → takes key v → ∃ x, read v = .ok x ∧ value? v = some x)
    (hno : ∀ v, good v → ¬ takes key v → ∃ e, read v = .error e)
    (hset : ∀ s v x ms, value? v = some x → ms.lookup key = none →
      given s ((key, v) :: ms) = given (set s x) ms) :
    (ofReader key read set).Fits good takes given where
  taken s v ms hgood hv hms := by
    obtain ⟨x, hr, hx⟩ := hok v hgood hv
    exact ⟨set s x, congrArg (Except.map (set s)) hr, hset s v x ms hx hms⟩
  refused s v hgood hv := by
    obtain ⟨e, hr⟩ := hno v hgood hv
    exact ⟨e, congrArg (Except.map (set s)) hr⟩

end Setting

namespace Toml

/-- What a section has under its keys. An array has the values of the first ones, and a date has none. -/
def members? (keys : List String) : Toml → Option (List (String × Toml))
  | .table ms => some ms
  | .array items => some (keys.zip items)
  | .moment => some []
  | _ => none

end Toml

/-- The keys of a section with the types of their values. -/
abbrev SettingTypes := List (String × SettingType)

namespace SettingTypes

/-- Whether a value is of the type that its key has. -/
def Takes (types : SettingTypes) (key : String) (v : Toml) : Prop := ∀ t, types.lookup key = some t → t.Takes v

/-- Whether a value is a section in which every known key has a value of its type. -/
def Accepts (types : SettingTypes) (v : Toml) : Prop :=
  ∃ ms, v.members? (types.map (·.1)) = some ms ∧ ∀ key w, ms.lookup key = some w → types.Takes key w

/-- The value under a key, if there is one of the type. -/
def at? (t : SettingType) (ms : List (String × Toml)) (key : String) : Option t.Value :=
  (ms.lookup key).bind t.value?

end SettingTypes

/-- The settings of a section with the types of their values, and what members give. -/
structure Section (σ : Type) where
  settings : List (Setting σ)
  types : SettingTypes
  given : σ → List (String × Toml) → σ
  keys : settings.map (·.key) = types.map (·.1)
  distinct : (types.map (·.1)).Nodup
  describes : Setting.Describes (fun _ => True) types.Takes given settings

namespace Section

open Setting

variable {σ : Type} (c : Section σ) {s : σ} {v : Toml}

/-- The section that a value gives. -/
def value? (s : σ) (v : Toml) : Option σ := (v.members? (c.types.map (·.1))).map (c.given s)

theorem nodup_zip {keys : List String} (h : keys.Nodup) (items : List Toml) :
    ((keys.zip items).map (·.1)).Nodup := by
  induction keys generalizing items with
  | nil => exact .nil
  | cons key keys ih =>
    cases items with
    | nil => exact .nil
    | cons v items =>
      rw [List.nodup_cons] at h
      rw [List.zip_cons_cons, List.map_cons, List.nodup_cons]
      refine ⟨fun hmem => ?_, ih h.2 items⟩
      obtain ⟨p, hp, rfl⟩ := List.mem_map.1 hmem
      exact h.1 (List.of_mem_zip hp).1

theorem readSection_eq (name : String) (s : σ) (v : Toml) :
    readSection name c.settings s v = match v.members? (c.types.map (·.1)) with
      | some ms => updateAll c.settings s ms
      | none => .error (.wrongType v.found (.record name)) := by
  cases v with
  | array items =>
    have hdistinct : (c.settings.map (·.key)).Nodup := c.keys ▸ c.distinct
    rw [readSection, foldlM_zip_eq_updateAll (fun f hf => find?_key_of_mem hdistinct hf), c.keys]
    rfl
  | _ => rfl

theorem names_of_members? {ms : List (String × Toml)} (hv : v.Tidy)
    (h : v.members? (c.types.map (·.1)) = some ms) : (ms.map (·.1)).Nodup := by
  cases hv with
  | table names _ => exact Option.some.inj h ▸ names
  | @array items _ =>
    obtain rfl := Option.some.inj h
    exact nodup_zip c.distinct items
  | moment =>
    obtain rfl := Option.some.inj h
    exact .nil
  | _ => cases h

theorem readSection_ok (name : String) (hv : v.Tidy) (h : c.types.Accepts v) :
    ∃ x, readSection name c.settings s v = .ok x ∧ c.value? s v = some x := by
  obtain ⟨ms, hms, htakes⟩ := h
  rw [c.readSection_eq, hms, value?, hms]
  exact ⟨_, updateAll_ok c.describes (c.names_of_members? hv hms) (fun _ _ => trivial)
    fun f _ v hv => htakes f.key v hv, rfl⟩

theorem readSection_error (name : String) (h : ¬ c.types.Accepts v) :
    ∃ e, readSection name c.settings s v = .error e := by
  rw [c.readSection_eq]
  cases hms : v.members? (c.types.map (·.1)) with
  | none => exact ⟨_, rfl⟩
  | some ms =>
    obtain ⟨key, w, hw, hwrong⟩ : ∃ key w, ms.lookup key = some w ∧ ¬ c.types.Takes key w := by
      simpa [SettingTypes.Accepts, hms] using h
    have hkey : key ∈ c.types.map (·.1) := by
      refine Classical.byContradiction fun hnew => hwrong fun t ht => ?_
      rw [lookup_eq_none_of_not_mem hnew] at ht
      cases ht
    rw [← c.keys] at hkey
    obtain ⟨f, hf, rfl⟩ := List.mem_map.1 hkey
    exact updateAll_error c.describes (fun _ _ => trivial) hf hw hwrong

end Section

open SettingTypes (at?)

theorem fits_of_type {σ : Type} {types : SettingTypes} {given : σ → List (String × Toml) → σ} {key : String}
    (t : SettingType) (hkey : types.lookup key = some t) {set : σ → t.Value → σ}
    (hset : ∀ s v x ms, t.value? v = some x → ms.lookup key = none →
      given s ((key, v) :: ms) = given (set s x) ms) :
    (Setting.ofReader key t.read set).Fits (fun _ => True) types.Takes given := by
  have htakes : ∀ v, types.Takes key v ↔ (t.value? v).isSome = true := by
    intro v
    rw [t.isSome_value?_iff, SettingTypes.Takes, hkey]
    simp
  refine Setting.fits_ofReader (fun v _ hv => ?_) (fun v _ hv => ?_) hset
  · obtain ⟨x, hx⟩ := Option.isSome_iff_exists.1 ((htakes v).1 hv)
    exact ⟨x, SettingType.read_ok hx, hx⟩
  · exact SettingType.read_error (Option.not_isSome_iff_eq_none.1 (mt (htakes v).2 hv))

namespace ControlPlane

def types : SettingTypes :=
  [("service_url", .text), ("username", .text), ("password", .text),
   ("skip_tls_verification", .flag), ("ca_cert_path", .text), ("gateway_label", .text),
   ("connector_type", .text)]

def given (s : ControlPlane) (ms : List (String × Toml)) : ControlPlane where
  serviceUrl := (at? .text ms "service_url").getD s.serviceUrl
  username := (at? .text ms "username").getD s.username
  password := (at? .text ms "password").getD s.password
  skipTlsVerification := (at? .flag ms "skip_tls_verification").getD s.skipTlsVerification
  caCertPath := (at? .text ms "ca_cert_path").or s.caCertPath
  gatewayLabel := (at? .text ms "gateway_label").getD s.gatewayLabel
  connectorType := (at? .text ms "connector_type").getD s.connectorType

theorem describes : Setting.Describes (fun _ => True) types.Takes given settings where
  nil _ := rfl
  fits := by
    simp only [settings, List.forall_mem_cons]
    refine ⟨fits_of_type .text rfl ?_, fits_of_type .text rfl ?_, fits_of_type .text rfl ?_,
      fits_of_type .flag rfl ?_, fits_of_type .text rfl ?_, fits_of_type .text rfl ?_,
      fits_of_type .text rfl ?_, nofun⟩
    all_goals
      intro s v x ms hx hms
      simp [given, at?, List.lookup_cons, hx, hms]
  congr s ms ns h := by
    simp only [settings, List.forall_mem_cons, Setting.ofReader] at h
    simp only [given, at?, h]

def layout : Section ControlPlane := ⟨settings, types, given, rfl, by decide, describes⟩

end ControlPlane

namespace Timeouts

def types : SettingTypes :=
  [("connect_secs", .natural64), ("request_secs", .natural64), ("cycle_secs", .natural64)]

def given (s : Timeouts) (ms : List (String × Toml)) : Timeouts where
  connectSecs := (at? .natural64 ms "connect_secs").getD s.connectSecs
  requestSecs := (at? .natural64 ms "request_secs").getD s.requestSecs
  cycleSecs := (at? .natural64 ms "cycle_secs").getD s.cycleSecs

theorem describes : Setting.Describes (fun _ => True) types.Takes given settings where
  nil _ := rfl
  fits := by
    simp only [settings, List.forall_mem_cons]
    refine ⟨fits_of_type .natural64 rfl ?_, fits_of_type .natural64 rfl ?_,
      fits_of_type .natural64 rfl ?_, nofun⟩
    all_goals
      intro s v x ms hx hms
      simp [given, at?, List.lookup_cons, hx, hms]
  congr s ms ns h := by
    simp only [settings, List.forall_mem_cons, Setting.ofReader] at h
    simp only [given, at?, h]

def layout : Section Timeouts := ⟨settings, types, given, rfl, by decide, describes⟩

end Timeouts

namespace Retries

def types : SettingTypes :=
  [("enabled", .flag), ("max_attempts", .natural32), ("base_delay_ms", .natural64),
   ("max_delay_ms", .natural64)]

def given (s : Retries) (ms : List (String × Toml)) : Retries where
  enabled := (at? .flag ms "enabled").getD s.enabled
  maxAttempts := (at? .natural32 ms "max_attempts").getD s.maxAttempts
  baseDelayMs := (at? .natural64 ms "base_delay_ms").getD s.baseDelayMs
  maxDelayMs := (at? .natural64 ms "max_delay_ms").getD s.maxDelayMs

theorem describes : Setting.Describes (fun _ => True) types.Takes given settings where
  nil _ := rfl
  fits := by
    simp only [settings, List.forall_mem_cons]
    refine ⟨fits_of_type .flag rfl ?_, fits_of_type .natural32 rfl ?_,
      fits_of_type .natural64 rfl ?_, fits_of_type .natural64 rfl ?_, nofun⟩
    all_goals
      intro s v x ms hx hms
      simp [given, at?, List.lookup_cons, hx, hms]
  congr s ms ns h := by
    simp only [settings, List.forall_mem_cons, Setting.ofReader] at h
    simp only [given, at?, h]

def layout : Section Retries := ⟨settings, types, given, rfl, by decide, describes⟩

end Retries

namespace Observability

def types : SettingTypes :=
  [("log_level", .text), ("log_format", .text), ("metrics_enabled", .flag),
   ("metrics_address", .text)]

def given (s : Observability) (ms : List (String × Toml)) : Observability where
  logLevel := (at? .text ms "log_level").getD s.logLevel
  logFormat := (at? .text ms "log_format").getD s.logFormat
  metricsEnabled := (at? .flag ms "metrics_enabled").getD s.metricsEnabled
  metricsAddress := (at? .text ms "metrics_address").getD s.metricsAddress

theorem describes : Setting.Describes (fun _ => True) types.Takes given settings where
  nil _ := rfl
  fits := by
    simp only [settings, List.forall_mem_cons]
    refine ⟨fits_of_type .text rfl ?_, fits_of_type .text rfl ?_, fits_of_type .flag rfl ?_,
      fits_of_type .text rfl ?_, nofun⟩
    all_goals
      intro s v x ms hx hms
      simp [given, at?, List.lookup_cons, hx, hms]
  congr s ms ns h := by
    simp only [settings, List.forall_mem_cons, Setting.ofReader] at h
    simp only [given, at?, h]

def layout : Section Observability := ⟨settings, types, given, rfl, by decide, describes⟩

end Observability

namespace AdminSettings

def types : SettingTypes :=
  [("enabled", .flag), ("api_key", .text), ("bind_address", .text)]

def given (s : AdminSettings) (ms : List (String × Toml)) : AdminSettings where
  enabled := (at? .flag ms "enabled").getD s.enabled
  apiKey := (at? .text ms "api_key").getD s.apiKey
  bindAddress := (at? .text ms "bind_address").getD s.bindAddress

theorem describes : Setting.Describes (fun _ => True) types.Takes given settings where
  nil _ := rfl
  fits := by
    simp only [settings, List.forall_mem_cons]
    refine ⟨fits_of_type .flag rfl ?_, fits_of_type .text rfl ?_, fits_of_type .text rfl ?_, nofun⟩
    all_goals
      intro s v x ms hx hms
      simp [given, at?, List.lookup_cons, hx, hms]
  congr s ms ns h := by
    simp only [settings, List.forall_mem_cons, Setting.ofReader] at h
    simp only [given, at?, h]

def layout : Section AdminSettings := ⟨settings, types, given, rfl, by decide, describes⟩

end AdminSettings

end GatewayFeed
