import GatewayFeed.Proofs.Lookup
import GatewayFeed.Settings.Document
import Mathlib

/-! The message of a refusal tells what it is put together from: whatever place is shown, above the words or
behind them, can be read off it, and so can the words if they stand on one line. -/

namespace GatewayFeed

theorem newline_notMem_append {x y : String} (hx : '\n' ∉ x.toList) (hy : '\n' ∉ y.toList) :
    '\n' ∉ (x ++ y).toList := by
  rw [String.toList_append, List.mem_append]
  exact not_or.2 ⟨hx, hy⟩

namespace Decimal

theorem newline_notMem_toDigits (n : Nat) : '\n' ∉ Nat.toDigits 10 n :=
  fun h => absurd (Nat.isDigit_of_mem_toDigits (by decide) (by decide) h) (by decide)

theorem newline_notMem_zeros (n : Nat) : '\n' ∉ zeros n :=
  fun h => absurd (List.eq_of_mem_replicate h) (by decide)

theorem newline_notMem_significant (n : Nat) : '\n' ∉ significant (Nat.toDigits 10 n) := by
  rw [significant, List.mem_reverse]
  intro h
  exact newline_notMem_toDigits n (List.mem_reverse.1 ((List.dropWhile_sublist _).subset h))

variable {ds : List Char}

theorem newline_notMem_positionalChars (h : '\n' ∉ ds) (e : Int) : '\n' ∉ positionalChars ds e := by
  have htake : ∀ n, '\n' ∉ ds.take n := fun n hn => h (List.mem_of_mem_take hn)
  have hdrop : ∀ n, '\n' ∉ ds.drop n := fun n hn => h (List.mem_of_mem_drop hn)
  unfold positionalChars
  split
  · simp [h, newline_notMem_zeros]
  · dsimp only
    split <;> simp [htake, hdrop, newline_notMem_zeros]

theorem newline_notMem_exponentChars (h : '\n' ∉ ds) (e : Int) : '\n' ∉ exponentChars ds e := by
  have htake : ∀ n, '\n' ∉ ds.take n := fun n hn => h (List.mem_of_mem_take hn)
  have htail : '\n' ∉ ds.tail := fun hn => h (List.mem_of_mem_tail hn)
  unfold exponentChars
  dsimp only
  split <;> split <;> simp [htake, htail, newline_notMem_toDigits]

theorem newline_notMem_magnitude (layout : Layout) (d : Dyadic) : '\n' ∉ layout.magnitude d := by
  unfold Layout.magnitude
  split
  · decide
  · dsimp only
    split
    · exact newline_notMem_positionalChars (newline_notMem_significant _) _
    · exact newline_notMem_exponentChars (newline_notMem_significant _) _

theorem newline_notMem_write (layout : Layout) (x : Float) : '\n' ∉ (layout.write x).toList := by
  unfold Layout.write
  split
  · decide
  · dsimp only
    split
    · split <;> decide
    · refine newline_notMem_append ?_ ?_
      · split <;> decide
      · rw [String.toList_ofList]
        exact newline_notMem_magnitude _ _

end Decimal

theorem newline_notMem_repr (n : Int) : '\n' ∉ n.repr.toList := by
  have hnatural : ∀ m : Nat, '\n' ∉ m.repr.toList := by
    intro m
    rw [Nat.repr, String.toList_ofList]
    exact Decimal.newline_notMem_toDigits m
  cases n with
  | ofNat m => exact hnatural m
  | negSucc m => exact newline_notMem_append (by decide) (hnatural m.succ)

namespace Toml

inductive Form where
  | text
  | integer
  | real
  | flag
  | moment
  | array
  | table
  deriving DecidableEq, Repr

/-- The type of a value. -/
def form : Toml → Form
  | .text _ => .text
  | .integer _ => .integer
  | .real _ => .real
  | .flag _ => .flag
  | .moment => .moment
  | .array _ => .array
  | .table _ => .table

/-- Types of which a value is told where a text is expected. -/
def Form.isTold : Form → Bool
  | integer | real | flag => true
  | text | moment | array | table => false

variable {v w : Toml}

/-- A value that is told is told on one line. -/
theorem newline_notMem_message (h : v.form.isTold = true) :
    '\n' ∉ (Mismatch.wrongType v.found .text).message.toList := by
  have hwords : '\n' ∉ v.found.words.toList := by
    cases v with
    | integer n =>
      exact newline_notMem_append (newline_notMem_append (by decide) (newline_notMem_repr _)) (by decide)
    | real x =>
      exact newline_notMem_append (newline_notMem_append (by decide) (Decimal.newline_notMem_write _ _)) (by decide)
    | flag b => cases b <;> decide
    | _ => cases h
  have hbefore := newline_notMem_append (x := "invalid type: ") (by decide) hwords
  exact newline_notMem_append (newline_notMem_append hbefore (by decide)) (by decide)

/-- A value that is told can be read off the message. -/
theorem found_eq_of_message_eq (hform : v.form = w.form) (htold : v.form.isTold = true)
    (h : (Mismatch.wrongType v.found .text).message = (Mismatch.wrongType w.found .text).message) :
    v.found = w.found := by
  have hwords : v.found.words = w.found.words :=
    (String.append_right_inj _).1 ((String.append_left_inj _).1 ((String.append_left_inj _).1 h))
  cases v <;> cases w <;> cases hform <;> cases htold
  case integer m n =>
    have hrepr : m.toInt.repr = n.toInt.repr :=
      (String.append_right_inj _).1 ((String.append_left_inj _).1 hwords)
    exact congrArg Found.integer (Int.repr_injective hrepr)
  case real x y =>
    exact congrArg Found.real ((String.append_right_inj _).1 ((String.append_left_inj _).1 hwords))
  case flag b c =>
    have hflags : ∀ b c, (Found.flag b).words = (Found.flag c).words → b = c := by decide
    exact congrArg Found.flag (hflags b c hwords)

namespace Excerpt

theorem exists_toList_heading (e : Excerpt) : ∃ cs, e.heading.toList = 'T' :: cs := by
  have hfirst : "TOML parse error at line ".toList = 'T' :: "OML parse error at line ".toList := rfl
  unfold heading
  rw [String.append_assoc, String.append_assoc, String.toList_append, hfirst]
  exact ⟨_, rfl⟩

theorem exists_toList_shown (e : Excerpt) : ∃ cs, e.shown.toList = 'T' :: cs ++ "\n".toList := by
  obtain ⟨cs, hcs⟩ := e.exists_toList_heading
  simp only [shown, String.toList_append, hcs, List.cons_append]
  exact ⟨_, rfl⟩

end Excerpt

namespace Place

theorem exists_toList_after (place : Place) : ∃ cs, place.after.toList = '\n' :: cs := by
  unfold after
  split
  · exact ⟨[], rfl⟩
  · exact ⟨[], rfl⟩
  · simp only [String.toList_append]
    exact ⟨_, rfl⟩

/-- What is shown of a place stands before the words or behind them. -/
theorem before_or_after (text : String) (place : Place) :
    (∃ cs, (place.before text).toList = 'T' :: cs ++ "\n".toList) ∧ place.after = "\n" ∨
      place.before text = "" := by
  cases place with
  | stretch start length => exact .inl ⟨(excerpt text start length).exists_toList_shown, rfl⟩
  | path keys => exact .inr rfl

variable {text other words words' : String} {a b : Place}

/-- An excerpt stands before the one message and none before the other. -/
theorem report_ne {cs : List Char} (hwords : words'.toList.head? ≠ some 'T')
    (ha : (a.before text).toList = 'T' :: cs) (hb : b.before other = "") :
    a.report text words ≠ b.report other words' := by
  intro h
  obtain ⟨cs', hafter⟩ := b.exists_toList_after
  have hhead := congrArg (·.toList.head?) h
  simp only [report, String.toList_append, ha, hb, hafter, List.cons_append, List.head?_cons, List.head?_append,
    String.toList_empty, List.head?_nil, Option.none_or] at hhead
  cases hw : words'.toList.head? with
  | none =>
    rw [hw] at hhead
    exact absurd hhead (by decide)
  | some c =>
    rw [hw] at hwords hhead
    exact hwords hhead.symm

/-- Messages that are the same have an excerpt before both words or before neither. -/
theorem report_cases (hwords : words.toList.head? ≠ some 'T') (hwords' : words'.toList.head? ≠ some 'T')
    (h : a.report text words = b.report other words') :
    (∃ cs cs', (a.before text).toList = 'T' :: cs ++ "\n".toList ∧
        (b.before other).toList = 'T' :: cs' ++ "\n".toList ∧ a.after = b.after ∧
        a.before text ++ words = b.before other ++ words') ∨
      a.before text = "" ∧ b.before other = "" ∧ words ++ a.after = words' ++ b.after := by
  rcases a.before_or_after text with ⟨⟨cs, ha⟩, hafter⟩ | ha <;>
    rcases b.before_or_after other with ⟨⟨cs', hb⟩, hafter'⟩ | hb
  · rw [report, report, hafter, hafter', String.append_left_inj] at h
    exact .inl ⟨cs, cs', ha, hb, hafter.trans hafter'.symm, h⟩
  · exact absurd h (report_ne hwords' ha hb)
  · exact absurd h.symm (report_ne hwords hb ha)
  · rw [report, report, ha, hb, String.empty_append, String.empty_append] at h
    exact .inr ⟨ha, hb, h⟩

/-- The same words are reported in the same way exactly if the places are. -/
theorem report_eq_iff_of_same (hwords : words.toList.head? ≠ some 'T') :
    a.report text words = b.report other words ↔ a.before text = b.before other ∧ a.after = b.after := by
  refine ⟨fun h => ?_, fun ⟨hbefore, hafter⟩ => by rw [report, report, hbefore, hafter]⟩
  rcases report_cases hwords hwords h with ⟨_, _, _, _, hafter, hbefore⟩ | ⟨ha, hb, hafter⟩
  · exact ⟨(String.append_left_inj _).1 hbefore, hafter⟩
  · exact ⟨ha.trans hb.symm, (String.append_right_inj _).1 hafter⟩

/-- Words on one line can be read off the report. -/
theorem words_eq_of_report_eq (hwords : words.toList.head? ≠ some 'T')
    (hwords' : words'.toList.head? ≠ some 'T') (hline : '\n' ∉ words.toList) (hline' : '\n' ∉ words'.toList)
    (h : a.report text words = b.report other words') : words = words' := by
  rcases report_cases hwords hwords' h with ⟨cs, cs', ha, hb, -, hbefore⟩ | ⟨-, -, hafter⟩
  · -- the words are what stands behind the last line break
    have hlist : words.toList.reverse ++ '\n' :: ('T' :: cs).reverse =
        words'.toList.reverse ++ '\n' :: ('T' :: cs').reverse := by
      simpa [ha, hb] using congrArg (·.toList.reverse) hbefore
    have hreverse := eq_of_append_cons (mt List.mem_reverse.1 hline) (mt List.mem_reverse.1 hline') hlist
    exact String.toList_inj.1 (List.reverse_injective hreverse)
  · obtain ⟨cs, hcs⟩ := a.exists_toList_after
    obtain ⟨cs', hcs'⟩ := b.exists_toList_after
    have hlist := congrArg String.toList hafter
    rw [String.toList_append, String.toList_append, hcs, hcs'] at hlist
    exact String.toList_inj.1 (eq_of_append_cons hline hline' hlist)

end Place

end Toml

/-- No message begins like an excerpt. -/
theorem Mismatch.head?_message_ne (m : Mismatch) : m.message.toList.head? ≠ some 'T' := by
  have hfirst : ∀ (c : Char) (s t : String), s.toList.head? = some c → c ≠ 'T' →
      (s ++ t).toList.head? ≠ some 'T' := by
    intro c s t hs hc h
    rw [String.toList_append, List.head?_append, hs, Option.some_or] at h
    exact hc (Option.some.inj h)
  unfold message
  split <;> simp only [String.append_assoc]
  · exact hfirst 'i' _ _ (by decide) (by decide)
  · exact hfirst 'i' _ _ (by decide) (by decide)
  · exact hfirst 'i' _ _ (by decide) (by decide)
  · exact hfirst 'm' _ _ (by decide) (by decide)
  · exact hfirst 'd' _ _ (by decide) (by decide)

namespace Settings.Refusal

variable {text other : String} {f g : Toml.Fault}

/-- The same mismatch is told in the same message exactly if the same is shown of the place. -/
theorem message_mismatch_eq_iff (m : Mismatch) :
    (mismatch m).message text f = (mismatch m).message other g ↔
      f.place.before text = g.place.before other ∧ f.place.after = g.place.after := by
  change "Parse error: " ++ _ = "Parse error: " ++ _ ↔ _
  rw [String.append_right_inj, Toml.Place.report_eq_iff_of_same m.head?_message_ne]

/-- Values that are told are told apart, whatever is shown of their places. -/
theorem message_told_eq_iff {v w : Toml} (hform : v.form = w.form) (htold : v.form.isTold = true) :
    (mismatch (.wrongType v.found .text)).message text f = (mismatch (.wrongType w.found .text)).message other g ↔
      (f.place.before text = g.place.before other ∧ f.place.after = g.place.after) ∧ v.found = w.found := by
  refine ⟨fun h => ?_, fun ⟨hplace, hfound⟩ => ?_⟩
  · have hreport := (String.append_right_inj "Parse error: ").1 h
    have hwords := Toml.Place.words_eq_of_report_eq (Mismatch.head?_message_ne _) (Mismatch.head?_message_ne _)
      (Toml.newline_notMem_message htold) (Toml.newline_notMem_message (hform ▸ htold)) hreport
    have hfound := Toml.found_eq_of_message_eq hform htold hwords
    rw [← hfound] at h
    exact ⟨(message_mismatch_eq_iff _).1 h, hfound⟩
  · rw [← hfound]
    exact (message_mismatch_eq_iff _).2 hplace

end Settings.Refusal

end GatewayFeed
