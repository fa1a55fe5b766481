import Mathlib.Data.List.Count
import Mathlib.Data.List.Nodup
import GatewayFeed.Agent

/-! The rules that settings have to keep. A problem is reported for every rule that is broken and for no other
one, in the order of the rules, and accepted settings are good for what the agent does with them later. -/

namespace GatewayFeed

/-- The field that a problem is about. -/
def Problem.field : Problem → String
  | invalidServiceUrl .. => "control_plane.service_url"
  | emptyUsername => "control_plane.username"
  | zeroValue f => f
  | cycleShorterThanRequest .. => "timeouts.cycle_secs"
  | backoffBounds .. => "retries.base_delay_ms"
  | unknownLogFormat _ => "observability.log_format"
  | invalidAddress f _ => f

/-- A message starts with the field. -/
theorem Problem.message_eq (p : Problem) : ∃ rest : String, p.message = p.field ++ rest := by
  have hlit : ∀ {a b c : String}, a = b ++ c → ∀ d, ∃ rest : String, a ++ d = b ++ rest :=
    fun {a b c} h d => ⟨c ++ d, by rw [h, String.append_assoc]⟩
  cases p with
  | invalidServiceUrl u r =>
    unfold message field
    simp only [String.append_assoc]
    exact hlit (c := " '") (by decide +kernel) _
  | emptyUsername => exact ⟨" must not be empty", by decide +kernel⟩
  | zeroValue f => exact ⟨_, rfl⟩
  | cycleShorterThanRequest c r =>
    unfold message field
    simp only [String.append_assoc]
    exact hlit (c := " (") (by decide +kernel) _
  | backoffBounds b m =>
    unfold message field
    simp only [String.append_assoc]
    exact hlit (c := " (") (by decide +kernel) _
  | unknownLogFormat f =>
    unfold message field
    simp only [String.append_assoc]
    exact hlit (c := " '") (by decide +kernel) _
  | invalidAddress f v =>
    unfold message field
    simp only [String.append_assoc]
    exact ⟨_, rfl⟩

/-- The section of the field: what stands before the dot. -/
def Problem.sectionName (p : Problem) : String := String.ofList (p.field.toList.takeWhile (· ≠ '.'))

namespace Settings

/-- The sections of settings. -/
inductive Part where
  | controlPlane
  | timeouts
  | retries
  | observability
  | admin
  deriving DecidableEq, Repr

def Part.name : Part → String
  | controlPlane => "control_plane"
  | timeouts => "timeouts"
  | retries => "retries"
  | observability => "observability"
  | admin => "admin"

inductive Rule where
  | serviceUrl
  | username
  | connectSecs
  | requestSecs
  | cycleSecs
  | cycleCoversRequest
  | maxAttempts
  | delayBounds
  | logFormat
  | metricsAddress
  | bindAddress
  deriving DecidableEq, Repr

namespace Rule

/-- Every rule, in the order in which they are checked. -/
def all : List Rule :=
  [serviceUrl, username, connectSecs, requestSecs, cycleSecs, cycleCoversRequest, maxAttempts, delayBounds,
    logFormat, metricsAddress, bindAddress]

theorem mem_all (r : Rule) : r ∈ all := by cases r <;> decide

theorem nodup_all : all.Nodup := by decide

def part : Rule → Part
  | serviceUrl | username => .controlPlane
  | connectSecs | requestSecs | cycleSecs | cycleCoversRequest => .timeouts
  | maxAttempts | delayBounds => .retries
  | logFormat | metricsAddress => .observability
  | bindAddress => .admin

end Rule

/-- A URL of the web's own schemes. -/
def IsWebUrl (url : String) : Prop :=
  ∃ u, Url.parse url = .ok u ∧ (u.scheme = "http".toList ∨ u.scheme = "https".toList)

def Keeps (s : Settings) : Rule → Prop
  | .serviceUrl => IsWebUrl s.controlPlane.serviceUrl
  | .username => ∃ c ∈ s.controlPlane.username.toList, Text.isBlank c = false
  | .connectSecs => s.timeouts.connectSecs ≠ 0
  | .requestSecs => s.timeouts.requestSecs ≠ 0
  | .cycleSecs => s.timeouts.cycleSecs ≠ 0
  | .cycleCoversRequest => s.timeouts.requestSecs ≤ s.timeouts.cycleSecs
  | .maxAttempts => 1 ≤ s.retries.maxAttempts
  | .delayBounds => s.retries.baseDelayMs ≤ s.retries.maxDelayMs
  | .logFormat => s.observability.logFormat = "pretty" ∨ s.observability.logFormat = "json"
  | .metricsAddress =>
    s.observability.metricsEnabled = true → ∃ a, SocketAddress.parse? s.observability.metricsAddress = some a
  | .bindAddress => s.admin.enabled = true → ∃ a, SocketAddress.parse? s.admin.bindAddress = some a

/-- What is wrong with a URL that is not of the web. -/
def urlProblem (url : String) : UrlProblem :=
  match Url.parse url with
  | .error e => .unreadable e
  | .ok u => .unsupportedScheme (String.ofList u.scheme)

/-- The problem of a broken rule, with the values that break it. -/
def report (s : Settings) : Rule → Problem
  | .serviceUrl => .invalidServiceUrl s.controlPlane.serviceUrl (urlProblem s.controlPlane.serviceUrl)
  | .username => .emptyUsername
  | .connectSecs => .zeroValue "timeouts.connect_secs"
  | .requestSecs => .zeroValue "timeouts.request_secs"
  | .cycleSecs => .zeroValue "timeouts.cycle_secs"
  | .cycleCoversRequest => .cycleShorterThanRequest s.timeouts.cycleSecs s.timeouts.requestSecs
  | .maxAttempts => .zeroValue "retries.max_attempts"
  | .delayBounds => .backoffBounds s.retries.baseDelayMs s.retries.maxDelayMs
  | .logFormat => .unknownLogFormat s.observability.logFormat
  | .metricsAddress => .invalidAddress "observability.metrics_address" s.observability.metricsAddress
  | .bindAddress => .invalidAddress "admin.bind_address" s.admin.bindAddress

theorem serviceUrlProblem?_of_web {url : String} (h : IsWebUrl url) : serviceUrlProblem? url = none := by
  obtain ⟨u, hparse, hscheme⟩ := h
  simp only [serviceUrlProblem?, hparse, Bool.or_eq_true, decide_eq_true_eq, hscheme, if_true]

theorem serviceUrlProblem?_of_not {url : String} (h : ¬ IsWebUrl url) :
    serviceUrlProblem? url = some (urlProblem url) := by
  cases hparse : Url.parse url with
  | error e => simp only [serviceUrlProblem?, urlProblem, hparse]
  | ok u =>
    have hscheme : ¬ (u.scheme = "http".toList ∨ u.scheme = "https".toList) := fun hs => h ⟨u, hparse, hs⟩
    simp only [serviceUrlProblem?, urlProblem, hparse, Bool.or_eq_true, decide_eq_true_eq, hscheme, if_false]

theorem serviceUrlProblem?_eq_none_iff (url : String) : serviceUrlProblem? url = none ↔ IsWebUrl url := by
  by_cases h : IsWebUrl url
  · simp only [serviceUrlProblem?_of_web h, h]
  · simp only [serviceUrlProblem?_of_not h, h, reduceCtorEq]

theorem allBlank_eq_false_iff (name : String) :
    Text.allBlank name = false ↔ ∃ c ∈ name.toList, Text.isBlank c = false := by
  simp [Text.allBlank]

instance (s : Settings) : (r : Rule) → Decidable (s.Keeps r)
  | .serviceUrl => decidable_of_iff _ (serviceUrlProblem?_eq_none_iff _)
  | .username => decidable_of_iff _ (allBlank_eq_false_iff _)
  | .connectSecs | .requestSecs | .cycleSecs => inferInstanceAs (Decidable (_ ≠ _))
  | .cycleCoversRequest | .maxAttempts | .delayBounds => inferInstanceAs (Decidable (_ ≤ _))
  | .logFormat => inferInstanceAs (Decidable (_ ∨ _))
  | .metricsAddress | .bindAddress =>
    decidable_of_iff (_ → (SocketAddress.parse? _).isSome = true)
      ⟨fun h he => Option.isSome_iff_exists.1 (h he), fun h he => Option.isSome_iff_exists.2 (h he)⟩

/-- The rules that are broken, in their order. -/
def broken (s : Settings) : List Rule := Rule.all.filter fun r => ¬ s.Keeps r

theorem mem_broken_iff {s : Settings} {r : Rule} : r ∈ s.broken ↔ ¬ s.Keeps r := by
  simp [broken, Rule.mem_all]

/-- What is reported for a rule. -/
def told (s : Settings) (r : Rule) : List Problem := if s.Keeps r then [] else [s.report r]

theorem when_eq_told {s : Settings} {r : Rule} {b : Bool} (h : b = true ↔ ¬ s.Keeps r) :
    when b (s.report r) = s.told r := by
  unfold when told
  by_cases hr : s.Keeps r
  · have hb : ¬ b = true := fun hb => h.1 hb hr
    rw [if_neg hb, if_pos hr]
  · rw [if_pos (h.2 hr), if_neg hr]

theorem controlPlaneProblems_eq (s : Settings) :
    controlPlaneProblems s.controlPlane = s.told .serviceUrl ++ s.told .username := by
  have hurl : ((serviceUrlProblem? s.controlPlane.serviceUrl).map
      (Problem.invalidServiceUrl s.controlPlane.serviceUrl)).toList = s.told .serviceUrl := by
    by_cases h : s.Keeps .serviceUrl
    · rw [told, if_pos h, (serviceUrlProblem?_eq_none_iff _).2 h]
      rfl
    · rw [told, if_neg h, serviceUrlProblem?_of_not h]
      rfl
  have hname : when (Text.allBlank s.controlPlane.username) (s.report .username) = s.told .username := by
    refine when_eq_told ?_
    rw [Keeps, ← allBlank_eq_false_iff, Bool.not_eq_false]
  rw [controlPlaneProblems, hurl]
  exact congrArg (_ ++ ·) hname

theorem timeoutProblems_eq (s : Settings) : timeoutProblems s.timeouts =
    s.told .connectSecs ++ s.told .requestSecs ++ s.told .cycleSecs ++ s.told .cycleCoversRequest := by
  have hconnect : when (s.timeouts.connectSecs = 0) (s.report .connectSecs) = s.told .connectSecs :=
    when_eq_told (by simp [Keeps])
  have hrequest : when (s.timeouts.requestSecs = 0) (s.report .requestSecs) = s.told .requestSecs :=
    when_eq_told (by simp [Keeps])
  have hcycle : when (s.timeouts.cycleSecs = 0) (s.report .cycleSecs) = s.told .cycleSecs :=
    when_eq_told (by simp [Keeps])
  have hcovers : when (s.timeouts.cycleSecs < s.timeouts.requestSecs) (s.report .cycleCoversRequest) =
      s.told .cycleCoversRequest :=
    when_eq_told (by simp [Keeps])
  rw [← hconnect, ← hrequest, ← hcycle, ← hcovers]
  rfl

theorem retryProblems_eq (s : Settings) :
    retryProblems s.retries = s.told .maxAttempts ++ s.told .delayBounds := by
  have hattempts : when (s.retries.maxAttempts = 0) (s.report .maxAttempts) = s.told .maxAttempts := by
    refine when_eq_told ?_
    rw [decide_eq_true_eq, Keeps, UInt32.le_iff_toNat_le, ← UInt32.toNat_inj]
    simp
  have hdelays : when (s.retries.maxDelayMs < s.retries.baseDelayMs) (s.report .delayBounds) =
      s.told .delayBounds :=
    when_eq_told (by simp [Keeps])
  rw [← hattempts, ← hdelays]
  rfl

/-- A listener that is switched on needs an address. -/
theorem isAddress_iff {enabled : Bool} {address : String} : (enabled && !isAddress address) = true ↔
    ¬ (enabled = true → ∃ a, SocketAddress.parse? address = some a) := by
  rw [← Option.isSome_iff_exists]
  simp [isAddress]

theorem observabilityProblems_eq (s : Settings) :
    observabilityProblems s.observability = s.told .logFormat ++ s.told .metricsAddress := by
  have hformat : when (s.observability.logFormat ≠ "pretty" && s.observability.logFormat ≠ "json")
      (s.report .logFormat) = s.told .logFormat :=
    when_eq_told (by simp [Keeps])
  have haddress : when (s.observability.metricsEnabled && !isAddress s.observability.metricsAddress)
      (s.report .metricsAddress) = s.told .metricsAddress :=
    when_eq_told isAddress_iff
  rw [← hformat, ← haddress]
  rfl

theorem adminProblems_eq (s : Settings) : adminProblems s.admin = s.told .bindAddress := by
  have haddress : when (s.admin.enabled && !isAddress s.admin.bindAddress) (s.report .bindAddress) =
      s.told .bindAddress :=
    when_eq_told isAddress_iff
  exact haddress

/-- The address of a listener that is switched off is not looked at. -/
theorem observabilityProblems_of_off {o : Observability} (h : o.metricsEnabled = false) (address : String) :
    observabilityProblems { o with metricsAddress := address } = observabilityProblems o := by
  simp [observabilityProblems, when, h]

theorem adminProblems_of_off {a : AdminSettings} (h : a.enabled = false) (address : String) :
    adminProblems { a with bindAddress := address } = adminProblems a := by
  simp [adminProblems, when, h]

/-- The rules are checked one after another, each on its own. -/
theorem problems_eq_flatMap (s : Settings) : s.problems = Rule.all.flatMap s.told := by
  rw [problems, controlPlaneProblems_eq, timeoutProblems_eq, retryProblems_eq, observabilityProblems_eq,
    adminProblems_eq]
  simp [Rule.all]

theorem problems_eq_map (s : Settings) : s.problems = s.broken.map s.report := by
  rw [problems_eq_flatMap, broken]
  induction Rule.all with
  | nil => rfl
  | cons r rs ih =>
    rw [List.flatMap_cons, ih, told]
    by_cases h : s.Keeps r <;> simp [h]

theorem exists_of_mem_problems {s : Settings} {p : Problem} (h : p ∈ s.problems) :
    ∃ r, ¬ s.Keeps r ∧ s.report r = p := by
  rw [problems_eq_map] at h
  obtain ⟨r, hr, hp⟩ := List.mem_map.1 h
  exact ⟨r, mem_broken_iff.1 hr, hp⟩

/-- No two rules report the same. -/
theorem report_injective (s : Settings) : Function.Injective s.report := by
  intro r r' h
  cases r <;> cases r' <;> first | rfl | exact absurd h (by simp [report])

theorem count_report (s : Settings) (r : Rule) :
    s.problems.count (s.report r) = if s.Keeps r then 0 else 1 := by
  rw [problems_eq_map, List.count_map_of_injective _ _ s.report_injective]
  by_cases h : s.Keeps r
  · rw [if_pos h, List.count_eq_zero, mem_broken_iff]
    exact fun hr => hr h
  · rw [if_neg h]
    exact List.count_eq_one_of_mem (Rule.nodup_all.filter _) (mem_broken_iff.2 h)

theorem problems_eq_nil_iff (s : Settings) : s.problems = [] ↔ ∀ r, s.Keeps r := by
  rw [problems_eq_map, List.map_eq_nil_iff, List.eq_nil_iff_forall_not_mem]
  simp [mem_broken_iff]

section Parts

theorem sectionName_report (s : Settings) (r : Rule) : (s.report r).sectionName = r.part.name := by
  cases r <;> simp only [report, Problem.sectionName, Problem.field, Rule.part, Part.name] <;> decide +kernel

/-- Settings that differ in one section. -/
inductive ChangedIn (s : Settings) : Part → Settings → Prop
  | controlPlane (c : ControlPlane) : ChangedIn s .controlPlane { s with controlPlane := c }
  | timeouts (t : Timeouts) : ChangedIn s .timeouts { s with timeouts := t }
  | retries (r : Retries) : ChangedIn s .retries { s with retries := r }
  | observability (o : Observability) : ChangedIn s .observability { s with observability := o }
  | admin (a : AdminSettings) : ChangedIn s .admin { s with admin := a }

variable {s t : Settings} {part : Part}

/-- A rule looks at its own section. -/
theorem ChangedIn.told_eq (h : ChangedIn s part t) {r : Rule} (hr : r.part ≠ part) : t.told r = s.told r := by
  cases h <;> cases r <;> first | rfl | exact absurd rfl hr

theorem ChangedIn.problems_filter (h : ChangedIn s part t) :
    t.problems.filter (·.sectionName ≠ part.name) = s.problems.filter (·.sectionName ≠ part.name) := by
  have hnone : ∀ (s : Settings) {r : Rule}, r.part = part →
      (s.told r).filter (·.sectionName ≠ part.name) = [] := by
    rintro s r rfl
    rw [List.filter_eq_nil_iff]
    intro p hp
    unfold told at hp
    split at hp
    · cases hp
    · rw [List.mem_singleton.1 hp, sectionName_report]
      simp
  rw [problems_eq_flatMap, problems_eq_flatMap, List.filter_flatMap, List.filter_flatMap]
  congr 1
  funext r
  by_cases hr : r.part = part
  · rw [hnone t hr, hnone s hr]
  · rw [h.told_eq hr]

end Parts

section Accepted

variable {s : Settings}

theorem eq_metricsAddress_of_field {r : Rule} (h : (s.report r).field = "observability.metrics_address") :
    r = .metricsAddress := by
  cases r <;> first | rfl | exact absurd h (by simp [report, Problem.field])

theorem eq_bindAddress_of_sectionName {r : Rule} (h : (s.report r).sectionName = "admin") : r = .bindAddress := by
  rw [sectionName_report] at h
  cases r <;> first | rfl | exact absurd h (by decide)

theorem validated_eq_ok_iff {t : Settings} : s.validated = .ok t ↔ t = s ∧ ∀ r, s.Keeps r := by
  rw [← problems_eq_nil_iff, validated]
  split
  · rename_i h
    simpa [List.isEmpty_iff.1 h] using eq_comm
  · rename_i h
    simpa using fun _ => h

theorem validated_of_broken (h : ∃ r, ¬ s.Keeps r) : s.validated = .error (.invalid s.problems) := by
  obtain ⟨r, hr⟩ := h
  have hne : ¬ s.problems.isEmpty = true := by
    rw [List.isEmpty_iff, problems_eq_nil_iff]
    exact fun hall => hr (hall r)
  rw [validated, if_neg hne]

/-- An address that can be read is listened on, unless it is taken. -/
theorem listen_of_parse {address : String} (h : ∃ a, SocketAddress.parse? address = some a) :
    ∃ a, SocketAddress.parse? address = some a ∧ ∀ taken, Agent.listen taken address =
      if taken.any (a.clashes ·) then (true, taken) else (false, a :: taken) := by
  obtain ⟨a, ha⟩ := h
  exact ⟨a, ha, fun taken => by rw [Agent.listen, ha]⟩

theorem ofSettings_of_keeps (h : s.Keeps .maxAttempts) : RetryPolicy.ofSettings s.retries =
    if s.retries.enabled then
      ⟨s.retries.maxAttempts.toNat, .ofMillis s.retries.baseDelayMs.toNat, .ofMillis s.retries.maxDelayMs.toNat⟩
    else .single := by
  have hmax : max s.retries.maxAttempts.toNat 1 = s.retries.maxAttempts.toNat :=
    Nat.max_eq_left (UInt32.le_iff_toNat_le.1 h)
  rw [RetryPolicy.ofSettings, hmax]

end Accepted

/-- Validation reports every rule that is broken once, with the values that break it, in the order of the rules,
and accepts what keeps all of them. Changing one section leaves the problems of all others as they are, and
neither the password nor the address of a listener that is switched off matters. Accepted settings have
addresses to listen on, and as many attempts as they say. -/
theorem every_broken_rule_reported (s : Settings) :
    s.problems = (Rule.all.filter fun r => ¬ s.Keeps r).map s.report ∧
    (∀ r, s.problems.count (s.report r) = if s.Keeps r then 0 else 1) ∧
    (s.validated = .ok s ↔ ∀ r, s.Keeps r) ∧
    ((∃ r, ¬ s.Keeps r) → s.validated = .error (.invalid s.problems)) ∧
    (∀ part t, ChangedIn s part t →
      t.problems.filter (·.sectionName ≠ part.name) = s.problems.filter (·.sectionName ≠ part.name)) ∧
    (∀ password, { s with controlPlane.password := password }.problems = s.problems) ∧
    (s.observability.metricsEnabled = false →
      (∀ address, { s with observability.metricsAddress := address }.problems = s.problems) ∧
      ∀ p ∈ s.problems, p.field ≠ "observability.metrics_address") ∧
    (s.admin.enabled = false → (∀ address, { s with admin.bindAddress := address }.problems = s.problems) ∧
      ∀ p ∈ s.problems, p.sectionName ≠ "admin") ∧
    ∀ t, s.validated = .ok t → t = s ∧
      (t.observability.metricsEnabled = true → ∃ a,
        SocketAddress.parse? t.observability.metricsAddress = some a ∧
        ∀ taken, Agent.listen taken t.observability.metricsAddress =
          if taken.any (a.clashes ·) then (true, taken) else (false, a :: taken)) ∧
      (t.admin.enabled = true → ∃ a, SocketAddress.parse? t.admin.bindAddress = some a ∧
        ∀ taken, Agent.listen taken t.admin.bindAddress =
          if taken.any (a.clashes ·) then (true, taken) else (false, a :: taken)) ∧
      RetryPolicy.ofSettings t.retries =
        if t.retries.enabled then
          ⟨t.retries.maxAttempts.toNat, .ofMillis t.retries.baseDelayMs.toNat,
            .ofMillis t.retries.maxDelayMs.toNat⟩
        else .single := by
  refine ⟨s.problems_eq_map, s.count_report, ?_, validated_of_broken, fun part t => ChangedIn.problems_filter,
    fun _ => rfl, fun hoff => ⟨fun address => ?_, ?_⟩, fun hoff => ⟨fun address => ?_, ?_⟩, fun t ht => ?_⟩
  · rw [validated_eq_ok_iff]
    exact and_iff_right rfl
  · simp only [problems, observabilityProblems_of_off hoff]
  · intro p hp hfield
    obtain ⟨r, hr, rfl⟩ := exists_of_mem_problems hp
    obtain rfl := eq_metricsAddress_of_field hfield
    exact hr fun hon => by simp [hoff] at hon
  · simp only [problems, adminProblems_of_off hoff]
  · intro p hp hname
    obtain ⟨r, hr, rfl⟩ := exists_of_mem_problems hp
    obtain rfl := eq_bindAddress_of_sectionName hname
    exact hr fun hon => by simp [hoff] at hon
  · obtain ⟨rfl, hkeeps⟩ := validated_eq_ok_iff.1 ht
    exact ⟨rfl, fun hon => listen_of_parse (hkeeps .metricsAddress hon),
      fun hon => listen_of_parse (hkeeps .bindAddress hon), ofSettings_of_keeps (hkeeps .maxAttempts)⟩

/-- Eight of the rules are broken; the metrics are switched off. -/
def tangled : Settings where
  controlPlane := { serviceUrl := "ftp://[::1]:2121", username := " \t" }
  timeouts := { connectSecs := 0, requestSecs := 60, cycleSecs := 30 }
  retries := { maxAttempts := 0, baseDelayMs := 10000 }
  observability := { logFormat := "xml", metricsEnabled := false, metricsAddress := "localhost:9091" }
  admin := { bindAddress := "127.0.0.1" }

def nearby : Settings := { controlPlane := { serviceUrl := "https://[::1]:9443" } }

theorem broken_rules_of_tangled :
    tangled.validated = .error (.invalid
      [.invalidServiceUrl "ftp://[::1]:2121" (.unsupportedScheme "ftp"), .emptyUsername,
        .zeroValue "timeouts.connect_secs", .cycleShorterThanRequest 30 60, .zeroValue "retries.max_attempts",
        .backoffBounds 10000 5000, .unknownLogFormat "xml", .invalidAddress "admin.bind_address" "127.0.0.1"]) ∧
    nearby.validated = .ok nearby ∧ (RetryPolicy.ofSettings nearby.retries).maxAttempts = 3 ∧
    ∃ a, SocketAddress.parse? "127.0.0.1:9095" = some a := by
  obtain ⟨hproblems, -, -, herror, -, -, -, -, -⟩ := every_broken_rule_reported tangled
  obtain ⟨-, -, hok, -, -, -, -, -, haccepted⟩ := every_broken_rule_reported nearby
  have hnearby : nearby.validated = .ok nearby := by
    refine hok.2 fun r => ?_
    cases r <;> decide +kernel
  obtain ⟨-, -, hpages, hpolicy⟩ := haccepted nearby hnearby
  obtain ⟨a, ha, -⟩ := hpages rfl
  refine ⟨?_, hnearby, by rw [hpolicy]; rfl, a, ha⟩
  rw [herror ⟨.username, by decide +kernel⟩, hproblems]
  decide +kernel

end Settings

end GatewayFeed
