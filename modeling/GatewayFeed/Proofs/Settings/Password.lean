import GatewayFeed.Proofs.Settings.Messages
import GatewayFeed.Proofs.Toml.Same

/-! What a refusal tells of the password. Two documents that differ in the password alone, with values of
the same type, are both accepted or both refused for the same reason, except where the reason is the
password itself: the words that report a mismatch tell a number or a flag in its place. Besides the words, the
message shows the line of the document on which the mismatch is, with the password if that stands there too. -/

namespace GatewayFeed

/-- Results that are alike: values that are related, or the same error. -/
inductive Alike {ε α β : Type} (R : α → β → Prop) : Except ε α → Except ε β → Prop
  | ok {a : α} {b : β} (h : R a b) : Alike R (.ok a) (.ok b)
  | error (e : ε) : Alike R (.error e) (.error e)

namespace Alike

variable {ε α β γ δ : Type} {R : α → β → Prop} {S : γ → δ → Prop}

theorem refl {R : α → α → Prop} (h : ∀ a, R a a) (x : Except ε α) : Alike R x x := by
  cases x with
  | error e => exact .error e
  | ok a => exact .ok (h a)

theorem bind {x : Except ε α} {y : Except ε β} {f : α → Except ε γ} {g : β → Except ε δ} (h : Alike R x y)
    (hf : ∀ a b, R a b → Alike S (f a) (g b)) : Alike S (x >>= f) (y >>= g) := by
  cases h with
  | ok h => exact hf _ _ h
  | error e => exact .error e

theorem map {x : Except ε α} {y : Except ε β} {f : α → γ} {g : β → δ} (h : Alike R x y)
    (hf : ∀ a b, R a b → S (f a) (g b)) : Alike S (x.map f) (y.map g) := by
  cases h with
  | ok h => exact .ok (hf _ _ h)
  | error e => exact .error e

/-- The same steps from related starts. -/
theorem foldlM {R : α → α → Prop} {step : α → γ → Except ε α} {l : List γ}
    (hstep : ∀ c ∈ l, ∀ a b, R a b → Alike R (step a c) (step b c)) {a b : α} (h : R a b) :
    Alike R (l.foldlM step a) (l.foldlM step b) := by
  induction l generalizing a b with
  | nil => exact .ok h
  | cons c l ih =>
    rw [List.foldlM_cons, List.foldlM_cons]
    refine (hstep c List.mem_cons_self a b h).bind fun a' b' h' => ?_
    exact ih (fun c hc => hstep c (List.mem_cons_of_mem _ hc)) h'

end Alike

/-- Alike, but for the words that tell of a wrong password. -/
inductive AlikeButTold (v w : Toml) {α β : Type} (R : α → β → Prop) :
    Except Mismatch α → Except Mismatch β → Prop
  | alike {x : Except Mismatch α} {y : Except Mismatch β} (h : Alike R x y) : AlikeButTold v w R x y
  | told (h : v.form.isTold = true) :
      AlikeButTold v w R (.error (.wrongType v.found .text)) (.error (.wrongType w.found .text))

namespace AlikeButTold

variable {v w : Toml} {α β γ δ : Type} {R : α → β → Prop} {S : γ → δ → Prop}

theorem bind {x : Except Mismatch α} {y : Except Mismatch β} {f : α → Except Mismatch γ}
    {g : β → Except Mismatch δ} (h : AlikeButTold v w R x y) (hf : ∀ a b, R a b → Alike S (f a) (g b)) :
    AlikeButTold v w S (x >>= f) (y >>= g) := by
  cases h with
  | alike h => exact .alike (h.bind hf)
  | told h => exact .told h

theorem map {x : Except Mismatch α} {y : Except Mismatch β} {f : α → γ} {g : β → δ}
    (h : AlikeButTold v w R x y) (hf : ∀ a b, R a b → S (f a) (g b)) :
    AlikeButTold v w S (x.map f) (y.map g) := by
  cases h with
  | alike h => exact .alike (h.map hf)
  | told h => exact .told h

/-- One step of a run is another one. -/
theorem foldlM {R : α → α → Prop} {step : α → γ → Except Mismatch α} {before after : List γ} {c d : γ}
    (hcd : ∀ a, AlikeButTold v w R (step a c) (step a d))
    (hafter : ∀ e ∈ after, ∀ a b, R a b → Alike R (step a e) (step b e)) (a : α) :
    AlikeButTold v w R ((before ++ c :: after).foldlM step a) ((before ++ d :: after).foldlM step a) := by
  rw [List.foldlM_append, List.foldlM_append]
  cases before.foldlM step a with
  | error e => exact .alike (.error e)
  | ok a =>
    change AlikeButTold v w R ((c :: after).foldlM step a) ((d :: after).foldlM step a)
    rw [List.foldlM_cons, List.foldlM_cons]
    exact (hcd a).bind fun a b h => Alike.foldlM hafter h

end AlikeButTold

/-- Only a text is no mismatch, and the words do not tell what a date, an array or a table holds. -/
theorem Toml.toText_alikeButTold {v w : Toml} (h : v.form = w.form) :
    AlikeButTold v w (fun _ _ => True) v.toText w.toText := by
  cases v <;> cases w <;> cases h
  case text => exact .alike (.ok trivial)
  case integer => exact .told rfl
  case real => exact .told rfl
  case flag => exact .told rfl
  case moment => exact .alike (.error _)
  case array => exact .alike (.error _)
  case table => exact .alike (.error _)

namespace Setting

variable {σ α : Type} {R : σ → σ → Prop} {settings : List (Setting σ)} {s t : σ}

/-- A value does the same to states that are related. -/
def Respects (R : σ → σ → Prop) (f : Setting σ) : Prop :=
  ∀ s t v, R s t → Alike R (f.update s v) (f.update t v)

/-- States that are the same once something of them is erased, as long as it does not matter when it is. -/
theorem respects_ofReader {erase : σ → σ} {key : String} {read : Toml → Except Mismatch α} {set : σ → α → σ}
    (h : ∀ s x, erase (set s x) = erase (set (erase s) x)) :
    (ofReader key read set).Respects fun s t => erase s = erase t := by
  intro s t v hst
  refine (Alike.refl (R := Eq) (fun _ => rfl) (read v)).map fun x y hxy => ?_
  rw [hxy, h s, h t, hst]

/-- The settings stay related if one value is another one, as long as its key takes the two alike. -/
theorem updateAll_alikeButTold {v w a b : Toml} {key : String} {f : Setting σ}
    {before after : List (String × Toml)} (hs : ∀ f ∈ settings, f.Respects R)
    (hf : settings.find? (·.key = key) = some f)
    (hab : ∀ s, AlikeButTold v w R (f.update s a) (f.update s b)) (s : σ) :
    AlikeButTold v w R (updateAll settings s (before ++ (key, a) :: after))
      (updateAll settings s (before ++ (key, b) :: after)) := by
  refine AlikeButTold.foldlM (fun s => ?_) (fun m _ s t hst => ?_) s
  · simp only [hf]
    exact hab s
  · cases hm : settings.find? (·.key = m.1) with
    | none => exact .ok hst
    | some g => exact hs g (List.mem_of_find?_eq_some hm) s t m.2 hst

end Setting

open Setting

namespace ControlPlane

def withoutPassword (c : ControlPlane) : ControlPlane := { c with password := "" }

/-- Control planes that are the same in every field but the password. -/
def SameButPassword (c d : ControlPlane) : Prop := c.withoutPassword = d.withoutPassword

def passwordSetting : Setting ControlPlane :=
  ofReader "password" Toml.toText fun s x => { s with password := x }

theorem settings_respect : ∀ f ∈ settings, f.Respects SameButPassword := by
  simp only [settings, List.forall_mem_cons]
  refine ⟨?_, ?_, ?_, ?_, ?_, ?_, ?_, nofun⟩ <;> exact respects_ofReader fun _ _ => rfl

theorem passwordSetting_alikeButTold {v w : Toml} (h : v.form = w.form) (c : ControlPlane) :
    AlikeButTold v w SameButPassword (passwordSetting.update c v) (passwordSetting.update c w) :=
  (Toml.toText_alikeButTold h).map fun _ _ _ => rfl

/-- A section, with keys or in the order of the fields, and another one that differs in the password. -/
inductive SectionDiffers (v w : Toml) : Toml → Toml → Prop
  | keyed (before after : List (String × Toml)) :
      SectionDiffers v w (.table (before ++ ("password", v) :: after))
        (.table (before ++ ("password", w) :: after))
  | ordered (serviceUrl username : Toml) (rest : List Toml) :
      SectionDiffers v w (.array (serviceUrl :: username :: v :: rest))
        (.array (serviceUrl :: username :: w :: rest))

theorem zip_settings (a b v : Toml) (rest : List Toml) : settings.zip (a :: b :: v :: rest) =
    (settings.take 2).zip [a, b] ++ (passwordSetting, v) :: (settings.drop 3).zip rest := rfl

theorem readSection_alikeButTold {v w a b : Toml} (hvw : v.form = w.form) (hab : SectionDiffers v w a b)
    (name : String) (start : ControlPlane) :
    AlikeButTold v w SameButPassword (readSection name settings start a)
      (readSection name settings start b) := by
  cases hab with
  | keyed before after =>
    exact updateAll_alikeButTold settings_respect rfl (passwordSetting_alikeButTold hvw) start
  | ordered serviceUrl username rest =>
    simp only [readSection, zip_settings]
    refine AlikeButTold.foldlM (fun c => ?_) (fun p hp c d hcd => ?_) start
    · exact passwordSetting_alikeButTold hvw c
    · exact settings_respect p.1 (List.mem_of_mem_drop (List.of_mem_zip hp).1) c d p.2 hcd

end ControlPlane

namespace Settings

variable {v w a b : Toml} {ms ns : List (String × Toml)} {p q : Option String} {s t : Settings}

def withoutPassword (s : Settings) : Settings := { s with controlPlane := s.controlPlane.withoutPassword }

/-- Settings that are the same in every field but the password. -/
def SameButPassword (s t : Settings) : Prop := s.withoutPassword = t.withoutPassword

theorem sections_respect : ∀ f ∈ sections, f.Respects SameButPassword := by
  simp only [sections, List.forall_mem_cons]
  refine ⟨?_, ?_, ?_, ?_, ?_, nofun⟩ <;> exact respects_ofReader fun _ _ => rfl

/-- Members of documents that differ in the password of the control plane alone, which is `v` in one and
`w` in the other. -/
def PasswordDiffers (v w : Toml) (ms ns : List (String × Toml)) : Prop :=
  ∃ before after a b, ControlPlane.SectionDiffers v w a b ∧ ms = before ++ ("control_plane", a) :: after ∧
    ns = before ++ ("control_plane", b) :: after

theorem ofDocument_alikeButTold (hvw : v.form = w.form) (h : PasswordDiffers v w ms ns) :
    AlikeButTold v w SameButPassword (ofDocument ms) (ofDocument ns) := by
  obtain ⟨before, after, a, b, hab, rfl, rfl⟩ := h
  refine updateAll_alikeButTold sections_respect rfl (fun s => ?_) {}
  refine (ControlPlane.readSection_alikeButTold hvw hab _ _).map fun c d hcd => ?_
  exact congrArg (fun c => { s with controlPlane := c }) hcd

/-- The rules do not look at the password. -/
theorem problems_withoutPassword (s : Settings) : s.withoutPassword.problems = s.problems := rfl

theorem SameButPassword.problems_eq (h : SameButPassword s t) : s.problems = t.problems := by
  rw [← problems_withoutPassword s, ← problems_withoutPassword t]
  exact congrArg problems h

theorem withoutPassword_withPassword (p : Option String) (s : Settings) :
    (s.withPassword p).withoutPassword = s.withoutPassword := by
  cases p <;> rfl

theorem SameButPassword.withPassword (h : SameButPassword s t) (p q : Option String) :
    SameButPassword (s.withPassword p) (t.withPassword q) := by
  unfold SameButPassword
  rw [withoutPassword_withPassword, withoutPassword_withPassword]
  exact h

theorem SameButPassword.validated (h : SameButPassword s t) :
    s.validated = .ok s ∧ t.validated = .ok t ∨
      ∃ problems, s.validated = .error (.invalid problems) ∧ t.validated = .error (.invalid problems) := by
  unfold Settings.validated
  rw [h.problems_eq]
  split
  · exact .inl ⟨rfl, rfl⟩
  · exact .inr ⟨t.problems, rfl, rfl⟩

/-- Whatever may replace the passwords later on, documents that differ in a password of one type are both
accepted, as settings that differ in the password alone, or both refused. Settings that make no sense are
refused for the same problems, in the same message. A mismatch is the same one, except that its words tell a
number or a flag for a password, and the messages are the same exactly if the mismatch is and the places of the
two are shown in the same way. -/
theorem parse_other_password {text other : String} (hms : Toml.parse? text = some ms)
    (hns : Toml.parse? other = some ns) (h : PasswordDiffers v w ms ns) (hvw : v.form = w.form)
    (p q : Option String) :
    (∃ s t, parse text p = .ok s ∧ parse other q = .ok t ∧ SameButPassword s t) ∨
    (∃ problems, parse text p = .error (.invalid problems) ∧ parse other q = .error (.invalid problems) ∧
      ∀ f g, (Refusal.invalid problems).message text f = (Refusal.invalid problems).message other g) ∨
    ∃ m n, parse text p = .error (.mismatch m) ∧ parse other q = .error (.mismatch n) ∧
      (m = n ∨ v.form.isTold = true ∧ m = .wrongType v.found .text ∧ n = .wrongType w.found .text) ∧
      ∀ f g, (Refusal.mismatch m).message text f = (Refusal.mismatch n).message other g ↔
        (f.place.before text = g.place.before other ∧ f.place.after = g.place.after) ∧ m = n := by
  have hread := ofDocument_alikeButTold hvw h
  simp only [parse, hms, hns]
  generalize ofDocument ms = x at hread ⊢
  generalize ofDocument ns = y at hread ⊢
  cases hread with
  | told hv =>
    refine .inr (.inr ⟨_, _, rfl, rfl, .inr ⟨hv, rfl, rfl⟩, fun f g => ?_⟩)
    rw [Refusal.message_told_eq_iff hvw hv, Mismatch.wrongType.injEq, and_iff_left rfl]
  | alike hxy =>
    cases hxy with
    | error m =>
      refine .inr (.inr ⟨m, m, rfl, rfl, .inl rfl, fun f g => ?_⟩)
      rw [Refusal.message_mismatch_eq_iff, and_iff_left rfl]
    | ok hst =>
      have hpassword := hst.withPassword p q
      rcases hpassword.validated with ⟨hs, ht⟩ | ⟨problems, hs, ht⟩
      · exact .inl ⟨_, _, hs, ht, hpassword⟩
      · exact .inr (.inl ⟨problems, hs, ht, fun f g => rfl⟩)

/-- A document with a user name that is a number, and a password on the same line. -/
def numberedUser (password : String) : String :=
  "control_plane = \x7b username = 5, password = \"" ++ password ++ "\" \x7d\n"

/-- Where the number stands. -/
def userPlace : Toml.Fault := ⟨.stretch 29 1, ""⟩

/-- The words do not tell the password, but the line that is shown with them does. -/
theorem parse_other_password_shown : ∃ m, parse (numberedUser "secret") none = .error (.mismatch m) ∧
    parse (numberedUser "guess") none = .error (.mismatch m) ∧
    (Refusal.mismatch m).message (numberedUser "secret") userPlace ≠
      (Refusal.mismatch m).message (numberedUser "guess") userPlace := by
  have hms : Toml.parse? (numberedUser "secret") =
      some [("control_plane", .table [("username", .integer 5), ("password", .text "secret")])] :=
    Toml.parse?_eq_some (by decide +kernel)
  have hns : Toml.parse? (numberedUser "guess") =
      some [("control_plane", .table [("username", .integer 5), ("password", .text "guess")])] :=
    Toml.parse?_eq_some (by decide +kernel)
  have hparse : parse (numberedUser "secret") none = .error (.mismatch (.wrongType (.integer 5) .text)) := by
    simp only [parse, hms]
    rfl
  have hdiffers : PasswordDiffers (.text "secret") (.text "guess") _ _ :=
    ⟨[], [], _, _, .keyed [("username", .integer 5)] [], rfl, rfl⟩
  rcases parse_other_password hms hns hdiffers rfl none none with
    ⟨s, t, hs, -⟩ | ⟨problems, hs, -⟩ | ⟨m, n, hm, hn, hmn, hmessage⟩
  · cases hparse.symm.trans hs
  · cases hparse.symm.trans hs
  · obtain rfl : m = n := hmn.resolve_right fun h => absurd h.1 (by decide)
    refine ⟨m, hm, hn, fun h => ?_⟩
    exact absurd ((hmessage _ _).1 h).1.1 (by decide +kernel)

/-- Two numbers for a password are told, whatever is shown of their places. -/
theorem parse_numbers_told_apart : ∃ (text other : String) (ms ns : List (String × Toml)) (v w : Toml)
    (m n : Mismatch), Toml.parse? text = some ms ∧ Toml.parse? other = some ns ∧ PasswordDiffers v w ms ns ∧
      v.form = w.form ∧ parse text none = .error (.mismatch m) ∧ parse other none = .error (.mismatch n) ∧
      m.message ≠ n.message ∧
      ∀ f g, (Refusal.mismatch m).message text f ≠ (Refusal.mismatch n).message other g := by
  have hms : Toml.parse? "[control_plane]\npassword = 12345\n" =
      some [("control_plane", .table [("password", .integer 12345)])] :=
    Toml.parse?_eq_some (by decide +kernel)
  have hns : Toml.parse? "[control_plane]\npassword = 1\n" =
      some [("control_plane", .table [("password", .integer 1)])] :=
    Toml.parse?_eq_some (by decide +kernel)
  refine ⟨_, _, _, _, .integer 12345, .integer 1, .wrongType (.integer 12345) .text, .wrongType (.integer 1) .text,
    hms, hns, ⟨[], [], _, _, .keyed [] [], rfl, rfl⟩, rfl, ?_, ?_, by decide +kernel, fun f g h => ?_⟩
  · simp only [parse, hms]
    rfl
  · simp only [parse, hns]
    rfl
  · exact absurd ((Refusal.message_told_eq_iff (v := .integer 12345) (w := .integer 1) rfl rfl).1 h).2 (by decide)

example : (Refusal.mismatch (.wrongType (.integer 12345) .text)).message "[control_plane]\npassword = 12345\n"
    ⟨.stretch 27 5, ""⟩ = "Parse error: TOML parse error at line 2, column 12\n  |\n2 | password = 12345\n" ++
      "  |            ^^^^^\ninvalid type: integer `12345`, expected a string\n" := by decide +kernel

end Settings

end GatewayFeed
