import GatewayFeed.Toml.Parser

/-! Comparing what was read. Numbers with a fraction are left out, for two of them may compare as the same
without being it. -/

namespace GatewayFeed.Toml

mutual

def same : Toml → Toml → Bool
  | .text s, .text t => s = t
  | .integer m, .integer n => m = n
  | .flag b, .flag c => b = c
  | .moment, .moment => true
  | .array xs, .array ys => sameItems xs ys
  | .table ms, .table ns => sameMembers ms ns
  | _, _ => false

def sameItems : List Toml → List Toml → Bool
  | [], [] => true
  | v :: vs, w :: ws => same v w && sameItems vs ws
  | _, _ => false

def sameMembers : List (String × Toml) → List (String × Toml) → Bool
  | [], [] => true
  | (k, v) :: ms, (l, w) :: ns => k = l && same v w && sameMembers ms ns
  | _, _ => false

end

mutual

theorem eq_of_same {v w : Toml} (h : same v w = true) : v = w := by
  cases v <;> cases w <;> simp only [same, decide_eq_true_eq, reduceCtorEq] at h
  case text s t => rw [h]
  case integer => rw [h]
  case flag => rw [h]
  case moment => rfl
  case array => rw [eq_of_sameItems h]
  case table => rw [eq_of_sameMembers h]

theorem eq_of_sameItems {vs ws : List Toml} (h : sameItems vs ws = true) : vs = ws := by
  cases vs <;> cases ws <;> simp only [sameItems, Bool.and_eq_true, reduceCtorEq] at h
  case nil => rfl
  case cons => rw [eq_of_same h.1, eq_of_sameItems h.2]

theorem eq_of_sameMembers {ms ns : List (String × Toml)} (h : sameMembers ms ns = true) : ms = ns := by
  cases ms <;> cases ns <;> simp only [sameMembers, Bool.and_eq_true, decide_eq_true_eq, reduceCtorEq] at h
  case nil => rfl
  case cons m ms n ns =>
    obtain ⟨⟨hkey, hvalue⟩, hrest⟩ := h
    rw [Prod.ext hkey (eq_of_same hvalue), eq_of_sameMembers hrest]

end

/-- What a text says, if it has no numbers with a fraction, can be found by reading it. -/
theorem parse?_eq_some {text : String} {ms : List (String × Toml)}
    (h : (parse? text).any (sameMembers ms) = true) : parse? text = some ms := by
  obtain ⟨ns, hns, hsame⟩ := (Option.any_eq_true _ _).1 h
  rw [hns, eq_of_sameMembers hsame]

end GatewayFeed.Toml
