import GatewayFeed.Retry
import GatewayFeed.Settings.Validation
import GatewayFeed.Proofs.Duration.Words

/-! The delays between attempts, in exact numbers. They are computed here in machine words as well, where
an overflow, an empty range to draw from and a number that does not fit its word are no result; there
always is one, and it is the delay that the policy has. -/

namespace GatewayFeed

open Word (fit minus? powSaturating)
open Option (bind_eq_some_iff)

namespace Backoff

/-- A source of random numbers gives one below each bound. -/
def IsSource (g : Word 128 → Word 128) : Prop := ∀ n, 0 < n.toNat → (g n).toNat < n.toNat

/-- A number from a range, which may not be empty. -/
def draw? (g : Word 128 → Word 128) (n : Word 128) : Option (Word 128) :=
  if 0 < n.toNat then some (g n) else none

/-- A random number below a tenth of some milliseconds. Nothing is drawn if there is nothing to draw from. -/
def jitter? (g : Word 128 → Word 128) (millis : Word 128) : Option (Word 128) :=
  if 0 < (millis / 10).toNat then draw? g (millis / 10) else some 0

def wordsDelay? (g : Word 128 → Word 128) (retry : Word 32) (base limit : Span) : Option Span :=
  if retry = 0 then some .zero
  else do
    let earlier ← minus? retry 1
    let product ← base.timesSaturating? (powSaturating 2 earlier.toNat)
    let capped := product.least limit
    let millis ← capped.millis?
    let jitter ← jitter? g millis
    let extra ← Span.ofMillis? (← fit 64 jitter.toNat)
    capped.plus? extra

theorem factor_eq (retry : Nat) : factor retry = min (2 ^ (retry - 1)) (2 ^ 32 - 1) := by
  unfold factor
  split
  · have hle : 2 ^ (retry - 1) ≤ 2 ^ 31 := Nat.pow_le_pow_right (by decide) (by omega)
    exact (Nat.min_eq_left (Nat.le_trans hle (by decide))).symm
  · have hle : 2 ^ 32 ≤ 2 ^ (retry - 1) := Nat.pow_le_pow_right (by decide) (by omega)
    exact (Nat.min_eq_right (Nat.le_trans (by decide) hle)).symm

variable {b l m : Nat} {retry : Nat}

/-- A product that stops at the longest duration has done so beyond every limit in milliseconds. -/
theorem capped_ofMillis (hl : l < 2 ^ 64) (hretry : retry ≠ 0) :
    capped retry (.ofMillis b) (.ofMillis l) = .ofMillis (min (b * factor retry) l) := by
  have hlongest : l * 1000000 ≤ Duration.longest.nanos := by
    simp only [Duration.longest]
    omega
  have hproduct : b * 1000000 * factor retry = b * factor retry * 1000000 := Nat.mul_right_comm _ _ _
  rw [capped, if_neg hretry]
  simp only [Duration.times, Duration.cap, Duration.least, Duration.ofMillis, hproduct, Duration.mk.injEq]
  rcases Nat.le_total (b * factor retry) l with hle | hle
  · have hmillis := Nat.mul_le_mul_right 1000000 hle
    rw [Nat.min_eq_left hle, Nat.min_eq_left (Nat.le_trans hmillis hlongest), Nat.min_eq_left hmillis]
  · have hmillis := Nat.mul_le_mul_right 1000000 hle
    rw [Nat.min_eq_right hle, Nat.min_eq_right (Nat.le_min.2 ⟨hmillis, hlongest⟩)]

theorem millis_ofMillis (n : Nat) : (Duration.ofMillis n).millis = n := Nat.mul_div_cancel n (by decide)

theorem jitterRange_ofMillis (hl : l < 2 ^ 64) (hretry : retry ≠ 0) :
    jitterRange retry (.ofMillis b) (.ofMillis l) = min (b * factor retry) l / 10 := by
  rw [jitterRange, capped_ofMillis hl hretry, millis_ofMillis]

/-- What may be drawn and added to a delay, in milliseconds. -/
def MayAdd (m j : Nat) : Prop := if m < 10 then j = 0 else j < m / 10

instance (m j : Nat) : Decidable (MayAdd m j) :=
  inferInstanceAs (Decidable (if m < 10 then j = 0 else j < m / 10))

theorem mem_draws_iff (hl : l < 2 ^ 64) (hretry : retry ≠ 0) (j : Nat) :
    j ∈ draws retry (.ofMillis b) (.ofMillis l) ↔ MayAdd (min (b * factor retry) l) j := by
  rw [draws, jitterRange_ofMillis hl hretry, List.mem_range, MayAdd]
  generalize min (b * factor retry) l = m
  split <;> omega

theorem le_of_mayAdd {j : Nat} (h : MayAdd m j) : j ≤ m := by
  unfold MayAdd at h
  split at h <;> omega

theorem lt_of_mayAdd {j : Nat} (h : MayAdd m j) (hm : m ≤ l) (hl : 0 < l) : 10 * (m + j) < 11 * l := by
  unfold MayAdd at h
  split at h <;> omega

theorem add_ofMillis (hm : m < 2 ^ 64) {j : Nat} (h : MayAdd m j) :
    (Duration.ofMillis m).nanos + (Duration.ofMillis j).nanos ≤ Duration.longest.nanos ∧
      (Duration.ofMillis m).add (.ofMillis j) = .ofMillis (m + j) := by
  have hlt := lt_of_mayAdd h (Nat.le_sub_one_of_lt hm) (by decide)
  have hle : m * 1000000 + j * 1000000 ≤ Duration.longest.nanos := by
    simp only [Duration.longest]
    omega
  refine ⟨hle, ?_⟩
  rw [Duration.add, Duration.cap, Duration.ofMillis, Duration.ofMillis, Duration.ofMillis, Nat.min_eq_left hle,
    Nat.add_mul]

theorem toNat_powSaturating_two (n : Word 32) (hn : n.toNat = retry - 1) :
    (powSaturating (2 : Word 32) n.toNat).toNat = factor retry := by
  have htwo : (2 : Word 32).toNat = 2 := rfl
  rw [Word.toNat_powSaturating (by decide), htwo, hn, factor_eq]

variable {g : Word 128 → Word 128}

/-- What a source gives for a delay of `m` milliseconds. -/
def drawn (g : Word 128 → Word 128) (m : Nat) : Nat :=
  if m < 10 then 0 else (g (BitVec.ofNat 128 (m / 10))).toNat

theorem toNat_tenth (hm : m < 2 ^ 128) : (BitVec.ofNat 128 (m / 10)).toNat = m / 10 :=
  Nat.mod_eq_of_lt (by omega)

theorem mayAdd_drawn (hg : IsSource g) (hm : m < 2 ^ 128) : MayAdd m (drawn g m) := by
  have hrange := toNat_tenth hm
  unfold MayAdd drawn
  split
  · rfl
  · have hlt := hg (BitVec.ofNat 128 (m / 10)) (by omega)
    rwa [hrange] at hlt

theorem jitter?_eq_some {millis : Word 128} (hmillis : millis.toNat = m) :
    ∃ j, jitter? g millis = some j ∧ j.toNat = drawn g m := by
  have hrange : millis / 10 = BitVec.ofNat 128 (m / 10) := by
    refine BitVec.eq_of_toNat_eq ?_
    rw [toNat_tenth (hmillis ▸ millis.isLt), ← hmillis]
    exact BitVec.toNat_udiv
  have hnat := toNat_tenth (m := m) (hmillis ▸ millis.isLt)
  unfold jitter? draw? drawn
  rw [hrange, hnat]
  split
  · rw [if_neg (by omega)]
    exact ⟨_, rfl, rfl⟩
  · rw [if_pos (by omega)]
    exact ⟨0, rfl, rfl⟩

/-- A source may give anything. -/
theorem exists_drawn {j : Nat} (h : MayAdd m j) (hm : m < 2 ^ 128) : ∃ g, IsSource g ∧ drawn g m = j := by
  have hj : (BitVec.ofNat 128 j).toNat = j := Nat.mod_eq_of_lt (Nat.lt_of_le_of_lt (le_of_mayAdd h) hm)
  -- It gives `j` wherever it may.
  refine ⟨fun n => if j < n.toNat then BitVec.ofNat 128 j else 0, fun n hn => ?_, ?_⟩
  · dsimp only
    split
    · rwa [hj]
    · exact hn
  · unfold MayAdd at h
    unfold drawn
    split at h
    · rw [if_pos ‹_›, h]
    · rw [if_neg ‹_›]
      dsimp only
      rw [toNat_tenth hm, if_pos h, hj]

/-- In words there is a delay, and it is that of the policy with what was drawn. -/
theorem wordsDelay?_eq_some (hg : IsSource g) {retry : Word 32} (hretry : retry ≠ 0)
    {base limit : Span} (hbase : base.toDuration = .ofMillis b) (hlimit : limit.toDuration = .ofMillis l)
    (hl : l < 2 ^ 64) (hm : min (b * factor retry.toNat) l = m) :
    ∃ s, wordsDelay? g retry base limit = some s ∧ s.toDuration = .ofMillis (m + drawn g m) := by
  have hpos : retry.toNat ≠ 0 := fun h => hretry (BitVec.eq_of_toNat_eq h)
  have hone : (1 : Word 32).toNat = 1 := rfl
  have hmlt : m < 2 ^ 64 := by omega
  obtain ⟨earlier, hearlier, hearlierNat⟩ :=
    Word.minus?_eq_some (show (1 : Word 32).toNat ≤ retry.toNat by omega)
  have hfactor := toNat_powSaturating_two earlier hearlierNat
  obtain ⟨product, hproduct, hproductDuration⟩ := base.timesSaturating?_eq_some (powSaturating 2 earlier.toNat)
  have hcapped : (product.least limit).toDuration = .ofMillis m := by
    rw [Span.toDuration_least, hproductDuration, hfactor, hbase, hlimit, ← hm, ← capped_ofMillis hl hpos,
      capped, if_neg hpos]
  obtain ⟨millis, hmillis, hmillisNat⟩ := (product.least limit).millis?_eq_some
  rw [hcapped, millis_ofMillis] at hmillisNat
  obtain ⟨jitter, hjitter, hjitterNat⟩ := jitter?_eq_some (g := g) hmillisNat
  have hmay := mayAdd_drawn hg (show m < 2 ^ 128 by omega)
  have hdrawnlt := Nat.lt_of_le_of_lt (le_of_mayAdd hmay) hmlt
  obtain ⟨jitter', hfit, hfitNat⟩ := Word.fit_eq_some (hjitterNat ▸ hdrawnlt)
  obtain ⟨extra, hextra, hextraDuration⟩ := Span.ofMillis?_eq_some jitter'
  rw [hfitNat, hjitterNat] at hextraDuration
  obtain ⟨hle, hadd⟩ := add_ofMillis hmlt hmay
  rw [← hcapped, ← hextraDuration] at hle
  obtain ⟨s, hs, hsDuration⟩ := Span.plus?_eq_some hle
  refine ⟨s, ?_, ?_⟩
  · rw [wordsDelay?, if_neg hretry]
    exact bind_eq_some_iff.2 ⟨earlier, hearlier, bind_eq_some_iff.2 ⟨product, hproduct,
      bind_eq_some_iff.2 ⟨millis, hmillis, bind_eq_some_iff.2 ⟨jitter, hjitter,
        bind_eq_some_iff.2 ⟨jitter', hfit, bind_eq_some_iff.2 ⟨extra, hextra, hs⟩⟩⟩⟩⟩⟩
  · rw [hsDuration, hcapped, hextraDuration, hadd]

end Backoff

namespace Retries

open Backoff (IsSource drawn factor)

/-- The delay after an attempt in milliseconds, without what is drawn. -/
def delayMillis (r : Retries) (attempt : Nat) : Nat :=
  min (r.baseDelayMs.toNat * min (2 ^ (attempt - 1)) (2 ^ 32 - 1)) r.maxDelayMs.toNat

def wordsDelayAfter? (r : Retries) (g : Word 128 → Word 128) (attempt : UInt32) : Option Span := do
  let base ← Span.ofMillis? r.baseDelayMs.toBitVec
  let limit ← Span.ofMillis? r.maxDelayMs.toBitVec
  Backoff.wordsDelay? g attempt.toBitVec base limit

theorem delayMillis_eq (r : Retries) (attempt : Nat) :
    r.delayMillis attempt = min (r.baseDelayMs.toNat * factor attempt) r.maxDelayMs.toNat := by
  rw [delayMillis, Backoff.factor_eq]

theorem delayMillis_mono (r : Retries) {attempt later : Nat} (h : attempt ≤ later) :
    r.delayMillis attempt ≤ r.delayMillis later := by
  have hpow : 2 ^ (attempt - 1) ≤ 2 ^ (later - 1) := Nat.pow_le_pow_right (by decide) (by omega)
  have hfactor : min (2 ^ (attempt - 1)) (2 ^ 32 - 1) ≤ min (2 ^ (later - 1)) (2 ^ 32 - 1) := by omega
  have hproduct := Nat.mul_le_mul_left r.baseDelayMs.toNat hfactor
  unfold delayMillis
  omega

theorem delayMillis_le (r : Retries) (attempt : Nat) : r.delayMillis attempt ≤ r.maxDelayMs.toNat :=
  Nat.min_le_right _ _

theorem le_delayMillis {r : Retries} (h : r.baseDelayMs ≤ r.maxDelayMs) (attempt : Nat) :
    r.baseDelayMs.toNat ≤ r.delayMillis attempt := by
  have hpow : 0 < 2 ^ (attempt - 1) := Nat.two_pow_pos _
  refine Nat.le_min.2 ⟨Nat.le_mul_of_pos_right _ (by omega), UInt64.le_iff_toNat_le.1 h⟩

theorem wordsDelayAfter?_eq_some (r : Retries) {g : Word 128 → Word 128} (hg : IsSource g) {attempt : UInt32}
    (hattempt : 1 ≤ attempt.toNat) :
    ∃ s, r.wordsDelayAfter? g attempt = some s ∧
      s.toDuration = .ofMillis (r.delayMillis attempt.toNat + drawn g (r.delayMillis attempt.toNat)) := by
  obtain ⟨base, hbase, hbaseDuration⟩ := Span.ofMillis?_eq_some r.baseDelayMs.toBitVec
  obtain ⟨limit, hlimit, hlimitDuration⟩ := Span.ofMillis?_eq_some r.maxDelayMs.toBitVec
  have hne : attempt.toBitVec ≠ 0 := by
    intro h
    have hzero := congrArg BitVec.toNat h
    exact absurd hzero (Nat.pos_iff_ne_zero.1 hattempt)
  obtain ⟨s, hs, hsDuration⟩ := Backoff.wordsDelay?_eq_some hg hne hbaseDuration hlimitDuration
    r.maxDelayMs.toNat_lt (r.delayMillis_eq attempt.toNat).symm
  exact ⟨s, bind_eq_some_iff.2 ⟨base, hbase, bind_eq_some_iff.2 ⟨limit, hlimit, hs⟩⟩, hsDuration⟩

end Retries

/-- Settings without problems have a limit that is not below the first delay. -/
theorem Settings.baseDelay_le {s : Settings} (h : s.problems = []) :
    s.retries.baseDelayMs ≤ s.retries.maxDelayMs := by
  have hretries : retryProblems s.retries = [] := by
    simp only [problems, List.append_eq_nil_iff] at h
    exact h.1.1.2
  unfold retryProblems when at hretries
  rw [List.append_eq_nil_iff] at hretries
  refine UInt64.not_lt.1 fun hlt => ?_
  simp [hlt] at hretries

namespace RetryPolicy

open Backoff (IsSource MayAdd draws)

/-- The delay after an attempt is exact, whatever is drawn: the first delay doubled for every attempt
before it, as far as 32 bits and the limit reach, and less than a tenth of that on top. Words suffice to
compute it, for all settings and attempts. -/
theorem delayAfter_exact (r : Retries) (henabled : r.enabled = true) (attempt : UInt32)
    (hattempt : 1 ≤ attempt.toNat) :
    (∀ g, IsSource g → ∃ j s, MayAdd (r.delayMillis attempt.toNat) j ∧ r.wordsDelayAfter? g attempt = some s ∧
      s.toDuration = .ofMillis (r.delayMillis attempt.toNat + j)) ∧
    (∀ j, MayAdd (r.delayMillis attempt.toNat) j → ∃ g s, IsSource g ∧ r.wordsDelayAfter? g attempt = some s ∧
      s.toDuration = .ofMillis (r.delayMillis attempt.toNat + j)) ∧
    (∀ j, j ∈ draws attempt.toNat (ofSettings r).baseDelay (ofSettings r).maxDelay ↔
      MayAdd (r.delayMillis attempt.toNat) j) ∧
    (∀ j, MayAdd (r.delayMillis attempt.toNat) j →
      (ofSettings r).delayAfter attempt.toNat j = .ofMillis (r.delayMillis attempt.toNat + j) ∧
      (0 < r.maxDelayMs → 10 * (r.delayMillis attempt.toNat + j) < 11 * r.maxDelayMs.toNat)) ∧
    (∀ later : UInt32, attempt ≤ later → r.delayMillis attempt.toNat ≤ r.delayMillis later.toNat) ∧
    r.delayMillis attempt.toNat ≤ r.maxDelayMs.toNat ∧
    ∀ s : Settings, s.retries = r → s.problems = [] → r.baseDelayMs.toNat ≤ r.delayMillis attempt.toNat := by
  have hl : r.maxDelayMs.toNat < 2 ^ 64 := r.maxDelayMs.toNat_lt
  have hm := r.delayMillis_le attempt.toNat
  have hpolicy : ofSettings r =
      ⟨max r.maxAttempts.toNat 1, .ofMillis r.baseDelayMs.toNat, .ofMillis r.maxDelayMs.toNat⟩ :=
    if_pos henabled
  refine ⟨fun g hg => ?_, fun j hj => ?_, fun j => ?_, fun j hj => ⟨?_, fun hpos => ?_⟩,
    fun later hlater => ?_, hm, ?_⟩
  · obtain ⟨s, hs, hsd⟩ := r.wordsDelayAfter?_eq_some hg hattempt
    exact ⟨_, s, Backoff.mayAdd_drawn hg (by omega), hs, hsd⟩
  · obtain ⟨g, hg, rfl⟩ := Backoff.exists_drawn hj (by omega)
    obtain ⟨s, hs, hsd⟩ := r.wordsDelayAfter?_eq_some hg hattempt
    exact ⟨g, s, hg, hs, hsd⟩
  · rw [hpolicy, Backoff.mem_draws_iff hl (by omega), r.delayMillis_eq]
  · obtain ⟨-, hadd⟩ := Backoff.add_ofMillis (Nat.lt_of_le_of_lt hm hl) hj
    rw [hpolicy, delayAfter, Backoff.delay, Backoff.capped_ofMillis hl (by omega), ← r.delayMillis_eq, hadd]
  · exact Backoff.lt_of_mayAdd hj hm (UInt64.lt_iff_toNat_lt.1 hpos)
  · exact r.delayMillis_mono (UInt32.le_iff_toNat_le.1 hlater)
  · rintro s rfl hproblems
    exact Retries.le_delayMillis (Settings.baseDelay_le hproblems) attempt.toNat

/-- Delays at which the product stops. -/
def longDelays : Retries := { baseDelayMs := 0xFFFFFFFFFFFFFFFF, maxDelayMs := 0xFFFFFFFFFFFFFFFF }

theorem delayAfter_long :
    (∃ s, longDelays.wordsDelayAfter? (fun _ => 0) 40 = some s) ∧
    (ofSettings longDelays).delayAfter 40 5 = .ofMillis (longDelays.delayMillis 40 + 5) ∧
    longDelays.delayMillis 40 ≤ longDelays.maxDelayMs.toNat ∧
    (ofSettings {}).delayAfter 5 19 = .ofMillis 3219 ∧
    200 ≤ ({} : Retries).delayMillis 5 ∧ ({} : Retries).delayMillis 5 ≤ ({} : Retries).delayMillis 6 := by
  obtain ⟨hwords, -, -, hlong, -, hlimit, -⟩ := delayAfter_exact longDelays rfl 40 (by decide)
  obtain ⟨-, -, -, hshort, hmono, -, hfirst⟩ := delayAfter_exact {} rfl 5 (by decide)
  obtain ⟨j, s, -, hs, -⟩ := hwords (fun _ => 0) fun _ h => h
  have hbase := hfirst { controlPlane := { serviceUrl := "http://[::1]" } } rfl (by decide +kernel)
  exact ⟨⟨s, hs⟩, (hlong 5 (by decide +kernel)).1, hlimit, (hshort 19 (by decide +kernel)).1, hbase,
    hmono 6 (by decide)⟩

end RetryPolicy

end GatewayFeed
