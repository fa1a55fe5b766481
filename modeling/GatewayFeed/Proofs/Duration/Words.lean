import GatewayFeed.Duration
import Mathlib.Algebra.Group.Nat.Defs

/-! Durations in machine words, seconds in 64 bits and nanoseconds in 32. Arithmetic on words is checked:
it has no result where this would not fit. Every operation has one for all durations that can be written
so, and does with them what the operation on durations does. -/

namespace GatewayFeed

/-- Words of `w` bits. -/
abbrev Word (w : Nat) := BitVec w

namespace Word

variable {w : Nat}

/-- A number as a word, if it fits. -/
def fit (w n : Nat) : Option (Word w) := if n < 2 ^ w then some (BitVec.ofNat w n) else none

def plus? (a b : Word w) : Option (Word w) := fit w (a.toNat + b.toNat)

def minus? (a b : Word w) : Option (Word w) := if b.toNat ≤ a.toNat then some (a - b) else none

def times? (a b : Word w) : Option (Word w) := fit w (a.toNat * b.toNat)

def pow? (a : Word w) : Nat → Option (Word w)
  | 0 => some 1
  | n + 1 => (pow? a n).bind fun b => b.times? a

/-- A power, or the greatest word if it does not fit. -/
def powSaturating (a : Word w) (n : Nat) : Word w := (pow? a n).getD (BitVec.allOnes w)

theorem fit_eq_some {n : Nat} (h : n < 2 ^ w) : ∃ a, fit w n = some a ∧ a.toNat = n :=
  ⟨_, if_pos h, Nat.mod_eq_of_lt h⟩

theorem fit_eq_none {n : Nat} (h : 2 ^ w ≤ n) : fit w n = none := if_neg (Nat.not_lt.2 h)

theorem plus?_eq_some {a b : Word w} (h : a.toNat + b.toNat < 2 ^ w) :
    ∃ c, plus? a b = some c ∧ c.toNat = a.toNat + b.toNat :=
  fit_eq_some h

theorem times?_eq_some {a b : Word w} {n : Nat} (hb : b.toNat = n) (h : a.toNat * n < 2 ^ w) :
    ∃ c, times? a b = some c ∧ c.toNat = a.toNat * n := by
  subst hb
  exact fit_eq_some h

/-- A sum with a product in it fits only if the product does. -/
theorem bind_plus?_times? (a b c : Word w) :
    ((times? a b).bind fun product => plus? product c) = fit w (a.toNat * b.toNat + c.toNat) := by
  rw [times?]
  rcases Nat.lt_or_ge (a.toNat * b.toNat) (2 ^ w) with hlt | hge
  · obtain ⟨product, hproduct, hproductNat⟩ := fit_eq_some hlt
    rw [hproduct, Option.bind_some, plus?, hproductNat]
  · rw [fit_eq_none hge, fit_eq_none (Nat.le_add_right_of_le hge)]
    rfl

theorem minus?_eq_some {a b : Word w} (h : b.toNat ≤ a.toNat) :
    ∃ c, minus? a b = some c ∧ c.toNat = a.toNat - b.toNat :=
  ⟨_, if_pos h, BitVec.toNat_sub_of_le h⟩

theorem pow?_eq_fit {a : Word w} (ha : 0 < a.toNat) (n : Nat) : pow? a n = fit w (a.toNat ^ n) := by
  have hw : 1 < 2 ^ w := Nat.lt_of_le_of_lt ha a.isLt
  induction n with
  | zero =>
    rw [pow?, Nat.pow_zero, fit, if_pos hw]
    rfl
  | succ n ih =>
    rw [pow?, ih, Nat.pow_succ]
    rcases Nat.lt_or_ge (a.toNat ^ n) (2 ^ w) with hlt | hge
    · obtain ⟨b, hb, hbn⟩ := fit_eq_some hlt
      rw [hb, Option.bind_some, times?, hbn]
    · rw [fit_eq_none hge, fit_eq_none (Nat.le_trans hge (Nat.le_mul_of_pos_right _ ha))]
      rfl

theorem toNat_powSaturating {a : Word w} (ha : 0 < a.toNat) (n : Nat) :
    (powSaturating a n).toNat = min (a.toNat ^ n) (2 ^ w - 1) := by
  rw [powSaturating, pow?_eq_fit ha]
  rcases Nat.lt_or_ge (a.toNat ^ n) (2 ^ w) with hlt | hge
  · obtain ⟨b, hb, hbn⟩ := fit_eq_some hlt
    rw [hb, Option.getD_some, hbn]
    omega
  · rw [fit_eq_none hge, Option.getD_none, BitVec.toNat_allOnes]
    omega

end Word

structure Span where
  secs : Word 64
  nanos : Word 32
  nanos_lt : nanos.toNat < 1000000000
  deriving DecidableEq

namespace Span

open Word
open Option (bind_eq_some_iff)

def toDuration (s : Span) : Duration := ⟨s.secs.toNat * 1000000000 + s.nanos.toNat⟩

def ofParts? (secs : Word 64) (nanos : Word 32) : Option Span :=
  if h : nanos.toNat < 1000000000 then some ⟨secs, nanos, h⟩ else none

def zero : Span := ⟨0, 0, by decide⟩

def longest : Span := ⟨BitVec.allOnes 64, 999999999, by decide⟩

def ofMillis? (n : Word 64) : Option Span := do
  let rest ← fit 32 (n % 1000).toNat
  ofParts? (n / 1000) (← times? rest 1000000)

/-- Whole milliseconds. -/
def millis? (s : Span) : Option (Word 128) := do
  plus? (← times? (s.secs.setWidth 128) 1000) ((s.nanos / 1000000).setWidth 128)

/-- A product, or the longest span if its seconds do not fit. -/
def timesSaturating? (s : Span) (n : Word 32) : Option Span := do
  let total ← times? (s.nanos.setWidth 64) (n.setWidth 64)
  let nanos ← fit 32 (total % 1000000000).toNat
  match (times? s.secs (n.setWidth 64)).bind fun secs => plus? secs (total / 1000000000) with
  | some secs => ofParts? secs nanos
  | none => some longest

def plus? (a b : Span) : Option Span := do
  let secs ← Word.plus? a.secs b.secs
  let nanos ← Word.plus? a.nanos b.nanos
  if nanos.toNat < 1000000000 then ofParts? secs nanos
  else ofParts? (← Word.plus? secs 1) (← minus? nanos 1000000000)

def least (a b : Span) : Span :=
  if a.secs < b.secs ∨ (a.secs = b.secs ∧ a.nanos ≤ b.nanos) then a else b

theorem ofParts?_eq_some (secs : Word 64) {nanos : Word 32} (h : nanos.toNat < 1000000000) :
    ∃ s, ofParts? secs nanos = some s ∧
      s.toDuration = ⟨secs.toNat * 1000000000 + nanos.toNat⟩ :=
  ⟨_, dif_pos h, rfl⟩

theorem ofMillis?_eq_some (n : Word 64) :
    ∃ s, ofMillis? n = some s ∧ s.toDuration = .ofMillis n.toNat := by
  have hrest : (n % 1000).toNat = n.toNat % 1000 := BitVec.toNat_umod
  have hsecs : (n / 1000).toNat = n.toNat / 1000 := BitVec.toNat_udiv
  obtain ⟨rest, hfit, hrestNat⟩ := fit_eq_some (show (n % 1000).toNat < 2 ^ 32 by omega)
  obtain ⟨nanos, hnanos, hnanosNat⟩ := times?_eq_some (show (1000000 : Word 32).toNat = 1000000 from rfl)
    (show rest.toNat * 1000000 < 2 ^ 32 by omega)
  obtain ⟨s, hs, hsd⟩ := ofParts?_eq_some (n / 1000) (show nanos.toNat < 1000000000 by omega)
  refine ⟨s, ?_, ?_⟩
  · exact bind_eq_some_iff.2 ⟨rest, hfit, bind_eq_some_iff.2 ⟨nanos, hnanos, hs⟩⟩
  · rw [hsd, Duration.ofMillis, Duration.mk.injEq]
    omega

theorem millis?_eq_some (s : Span) : ∃ n, s.millis? = some n ∧ n.toNat = s.toDuration.millis := by
  have hsecs : (s.secs.setWidth 128).toNat = s.secs.toNat := BitVec.toNat_setWidth_of_le (by decide)
  have hrest : ((s.nanos / 1000000).setWidth 128).toNat = s.nanos.toNat / 1000000 :=
    (BitVec.toNat_setWidth_of_le (by decide)).trans BitVec.toNat_udiv
  have hlt := s.secs.isLt
  have hnanos := s.nanos_lt
  obtain ⟨n, hn, hnNat⟩ := times?_eq_some (show (1000 : Word 128).toNat = 1000 from rfl)
    (show (s.secs.setWidth 128).toNat * 1000 < 2 ^ 128 by omega)
  obtain ⟨t, ht, htNat⟩ := Word.plus?_eq_some
    (show n.toNat + ((s.nanos / 1000000).setWidth 128).toNat < 2 ^ 128 by omega)
  refine ⟨t, ?_, ?_⟩
  · exact bind_eq_some_iff.2 ⟨n, hn, ht⟩
  · simp only [Duration.millis, toDuration]
    omega

theorem plus?_eq_some {a b : Span} (h : a.toDuration.nanos + b.toDuration.nanos ≤ Duration.longest.nanos) :
    ∃ t, a.plus? b = some t ∧ t.toDuration = a.toDuration.add b.toDuration := by
  simp only [toDuration, Duration.longest] at h
  have ha := a.nanos_lt
  have hb := b.nanos_lt
  obtain ⟨secs, hsecs, hsecsNat⟩ := Word.plus?_eq_some (show a.secs.toNat + b.secs.toNat < 2 ^ 64 by omega)
  obtain ⟨nanos, hnanos, hnanosNat⟩ :=
    Word.plus?_eq_some (show a.nanos.toNat + b.nanos.toNat < 2 ^ 32 by omega)
  have hsum : a.toDuration.add b.toDuration = ⟨secs.toNat * 1000000000 + nanos.toNat⟩ := by
    simp only [Duration.add, Duration.cap, toDuration, Duration.longest, Duration.mk.injEq]
    omega
  rcases Nat.lt_or_ge nanos.toNat 1000000000 with hlt | hge
  · obtain ⟨t, ht, htd⟩ := ofParts?_eq_some secs hlt
    refine ⟨t, ?_, htd.trans hsum.symm⟩
    refine bind_eq_some_iff.2 ⟨secs, hsecs, bind_eq_some_iff.2 ⟨nanos, hnanos, ?_⟩⟩
    rw [if_pos hlt, ht]
  · have hone : (1 : Word 64).toNat = 1 := rfl
    have hbillion : (1000000000 : Word 32).toNat = 1000000000 := rfl
    obtain ⟨secs', hsecs', hsecsNat'⟩ :=
      Word.plus?_eq_some (show secs.toNat + (1 : Word 64).toNat < 2 ^ 64 by omega)
    obtain ⟨nanos', hnanos', hnanosNat'⟩ :=
      minus?_eq_some (show (1000000000 : Word 32).toNat ≤ nanos.toNat by omega)
    obtain ⟨t, ht, htd⟩ := ofParts?_eq_some secs' (show nanos'.toNat < 1000000000 by omega)
    refine ⟨t, ?_, ?_⟩
    · refine bind_eq_some_iff.2 ⟨secs, hsecs, bind_eq_some_iff.2 ⟨nanos, hnanos, ?_⟩⟩
      rw [if_neg (Nat.not_lt.2 hge)]
      exact bind_eq_some_iff.2 ⟨secs', hsecs', bind_eq_some_iff.2 ⟨nanos', hnanos', ht⟩⟩
    · rw [htd, hsum, Duration.mk.injEq]
      omega

theorem toDuration_longest : longest.toDuration = Duration.longest := by decide +kernel

theorem timesSaturating?_eq_some (s : Span) (n : Word 32) :
    ∃ t, s.timesSaturating? n = some t ∧ t.toDuration = s.toDuration.times n.toNat := by
  have hn : (n.setWidth 64).toNat = n.toNat := BitVec.toNat_setWidth_of_le (by decide)
  have hs : (s.nanos.setWidth 64).toNat = s.nanos.toNat := BitVec.toNat_setWidth_of_le (by decide)
  have hbound : s.nanos.toNat * n.toNat < 1000000000 * 2 ^ 32 := Nat.mul_lt_mul'' s.nanos_lt n.isLt
  have hproduct : (s.secs.toNat * 1000000000 + s.nanos.toNat) * n.toNat =
      s.secs.toNat * n.toNat * 1000000000 + s.nanos.toNat * n.toNat := by
    rw [Nat.add_mul, Nat.mul_right_comm]
  have htimes : s.toDuration.times n.toNat =
      ⟨min (s.secs.toNat * n.toNat * 1000000000 + s.nanos.toNat * n.toNat) Duration.longest.nanos⟩ := by
    rw [← hproduct]
    rfl
  obtain ⟨total, htotal, htotalNat⟩ := times?_eq_some hn (show (s.nanos.setWidth 64).toNat * n.toNat < 2 ^ 64 by
    rw [hs]
    omega)
  rw [hs] at htotalNat
  have hrest : (total % 1000000000).toNat = total.toNat % 1000000000 := BitVec.toNat_umod
  have hcarry : (total / 1000000000).toNat = total.toNat / 1000000000 := BitVec.toNat_udiv
  obtain ⟨nanos, hnanos, hnanosNat⟩ := fit_eq_some (show (total % 1000000000).toNat < 2 ^ 32 by omega)
  have hfits := bind_plus?_times? s.secs (n.setWidth 64) (total / 1000000000)
  rw [hn] at hfits
  rcases Nat.lt_or_ge (s.secs.toNat * n.toNat + (total / 1000000000).toNat) (2 ^ 64) with hlt | hge
  · obtain ⟨secs, hsecs, hsecsNat⟩ := fit_eq_some hlt
    obtain ⟨t, ht, htd⟩ := ofParts?_eq_some secs (show nanos.toNat < 1000000000 by omega)
    have hle : s.secs.toNat * n.toNat * 1000000000 + s.nanos.toNat * n.toNat ≤ Duration.longest.nanos := by
      simp only [Duration.longest]
      omega
    refine ⟨t, ?_, ?_⟩
    · refine bind_eq_some_iff.2 ⟨total, htotal, bind_eq_some_iff.2 ⟨nanos, hnanos, ?_⟩⟩
      rw [hfits, hsecs]
      exact ht
    · rw [htd, htimes, Nat.min_eq_left hle, Duration.mk.injEq]
      omega
  · have hle : Duration.longest.nanos ≤ s.secs.toNat * n.toNat * 1000000000 + s.nanos.toNat * n.toNat := by
      simp only [Duration.longest]
      omega
    refine ⟨longest, ?_, ?_⟩
    · refine bind_eq_some_iff.2 ⟨total, htotal, bind_eq_some_iff.2 ⟨nanos, hnanos, ?_⟩⟩
      rw [hfits, fit_eq_none hge]
    · rw [toDuration_longest, htimes, Nat.min_eq_right hle]

theorem toDuration_least (a b : Span) : (a.least b).toDuration = a.toDuration.least b.toDuration := by
  have ha := a.nanos_lt
  have hb := b.nanos_lt
  have hiff : (a.secs < b.secs ∨ (a.secs = b.secs ∧ a.nanos ≤ b.nanos)) ↔
      a.toDuration.nanos ≤ b.toDuration.nanos := by
    simp only [BitVec.lt_def, BitVec.le_def, ← BitVec.toNat_inj, toDuration]
    omega
  unfold least
  split <;> rename_i h
  · exact congrArg Duration.mk (Nat.min_eq_left (hiff.1 h)).symm
  · exact congrArg Duration.mk (Nat.min_eq_right (Nat.le_of_lt (Nat.not_le.1 (mt hiff.2 h)))).symm

end Span

end GatewayFeed
