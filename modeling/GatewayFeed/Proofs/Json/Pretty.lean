import GatewayFeed.Proofs.Json.Printed
import GatewayFeed.Proofs.Json.Value
import GatewayFeed.Proofs.Lookup

/-! The laid out text of a value, as it is written: a line for every item and member, indented by two blanks for
every container around it. Reals are left out. What was parsed is printed as a text that is parsed to the same
value. -/

namespace GatewayFeed.Json

open Written (itemsBytes membersBytes json? scalar?)

/-- The end of a line, and the indent of the next one. -/
def lineBreak (indent : Nat) : Blanks := .lineFeed :: List.replicate (2 * indent) .space

/-- The blanks before a closing bracket. -/
def closingBreak (indent : Nat) (empty : Bool) : Blanks := if empty then [] else lineBreak indent

mutual

def laidOut (indent : Nat) : Json → Written
  | .null => .null
  | .flag b => .flag b
  | .number (.integer n) => .number (.ofInt n)
  | .number (.real _) => .null
  | .text s => .text (.ofText s)
  | .array items => .array (laidOutItems (indent + 1) items) (closingBreak indent items.isEmpty)
  | .object members => .object (laidOutMembers (indent + 1) members) (closingBreak indent members.isEmpty)

def laidOutItems (indent : Nat) : List Json → List (Padded Written)
  | [] => []
  | x :: xs => ⟨lineBreak indent, laidOut indent x, []⟩ :: laidOutItems indent xs

def laidOutMembers (indent : Nat) : List (String × Json) → List (Member Written)
  | [] => []
  | (k, v) :: ms => ⟨lineBreak indent, .ofText k, [], ⟨[.space], laidOut indent v, []⟩⟩ :: laidOutMembers indent ms

end

theorem bytes_lineBreak (indent : Nat) : (lineBreak indent).bytes = Utf8.encodeChars (newLine indent) := by
  have hspaces : ∀ n : Nat, Blanks.bytes (List.replicate n .space) = Utf8.encodeChars (List.replicate n ' ') := by
    intro n
    induction n with
    | zero => rfl
    | succ n ih =>
      have hspace : Utf8.encodeChar ' ' = [0x20] := by decide
      rw [List.replicate_succ, List.replicate_succ, Utf8.encodeChars_cons, ← ih, hspace]
      rfl
  have hline : Utf8.encodeChar '\n' = [0x0A] := by decide
  rw [newLine, Utf8.encodeChars_cons, ← hspaces, hline]
  rfl

mutual

/-- The laid out text of a value is what `laidOut` stands for. -/
theorem bytes_laidOut : (indent : Nat) → (v : Json) → v.isExact = true →
    (laidOut indent v).bytes = Utf8.encodeChars (prettyChars indent v)
  | _, .null, h => bytes_written .null h
  | _, .flag b, h => bytes_written (.flag b) h
  | _, .number (.integer n), h => bytes_written (.number (.integer n)) h
  | _, .number (.real _), h => by cases h
  | _, .text s, h => bytes_written (.text s) h
  | indent, .array items, h => by
    obtain ⟨hopen, hclose, -⟩ := encodeChar_punctuation
    have hitems := bytes_laidOutItems (indent + 1) items h
    cases items with
    | nil => exact (by decide : (Written.array [] []).bytes = Utf8.encodeChars "[]".toList)
    | cons x xs =>
      simp [laidOut, Written.bytes, prettyChars, hitems, hopen, hclose, closingBreak, bytes_lineBreak,
        Utf8.encodeChars]
  | indent, .object members, h => by
    obtain ⟨-, -, hopen, hclose, -⟩ := encodeChar_punctuation
    have hmembers := bytes_laidOutMembers (indent + 1) members h
    cases members with
    | nil => exact (by decide : (Written.object [] []).bytes = Utf8.encodeChars ['\x7b', '\x7d'])
    | cons m ms =>
      simp [laidOut, Written.bytes, prettyChars, hmembers, hopen, hclose, closingBreak, bytes_lineBreak,
        Utf8.encodeChars]

theorem bytes_laidOutItems : (indent : Nat) → (xs : List Json) → areExact xs = true →
    itemsBytes true (laidOutItems indent xs) = Utf8.encodeChars (prettyItems indent xs)
  | _, [], _ => rfl
  | indent, [x], h => by
    have hx := bytes_laidOut indent x (by simpa [areExact] using h)
    simp [laidOutItems, itemsBytes, Written.comma, prettyItems, hx, bytes_lineBreak, Utf8.encodeChars_append]
  | indent, x :: y :: xs, h => by
    obtain ⟨hx, hxs⟩ := Bool.and_eq_true_iff.1 h
    obtain ⟨-, -, -, -, hcomma, -⟩ := encodeChar_punctuation
    have hrest : itemsBytes false (laidOutItems indent (y :: xs)) =
        0x2C :: itemsBytes true (laidOutItems indent (y :: xs)) := rfl
    rw [laidOutItems, itemsBytes, hrest, bytes_laidOut indent x hx, bytes_laidOutItems indent (y :: xs) hxs]
    simp [Written.comma, prettyItems, bytes_lineBreak, Utf8.encodeChars_append, Utf8.encodeChars_cons, hcomma]

theorem bytes_laidOutMembers : (indent : Nat) → (ms : List (String × Json)) → membersExact ms = true →
    membersBytes true (laidOutMembers indent ms) = Utf8.encodeChars (prettyMembers indent ms)
  | _, [], _ => rfl
  | indent, [(k, v)], h => by
    obtain ⟨-, -, -, -, -, hcolon⟩ := encodeChar_punctuation
    have hspace : Utf8.encodeChar ' ' = Blanks.bytes [.space] := by decide
    have hv := bytes_laidOut indent v (by simpa [membersExact] using h)
    have hk := Spelling.bytes_ofText k
    simp [laidOutMembers, membersBytes, Written.comma, prettyMembers, hv, hcolon, hspace, bytes_lineBreak,
      Utf8.encodeChars_append, Utf8.encodeChars_cons, ← hk]
  | indent, (k, v) :: m :: ms, h => by
    obtain ⟨hv, hms⟩ := Bool.and_eq_true_iff.1 h
    obtain ⟨-, -, -, -, hcomma, hcolon⟩ := encodeChar_punctuation
    have hspace : Utf8.encodeChar ' ' = Blanks.bytes [.space] := by decide
    have hk := Spelling.bytes_ofText k
    have hrest : membersBytes false (laidOutMembers indent (m :: ms)) =
        0x2C :: membersBytes true (laidOutMembers indent (m :: ms)) := rfl
    rw [laidOutMembers, membersBytes, hrest, bytes_laidOut indent v hv, bytes_laidOutMembers indent (m :: ms) hms]
    simp [Written.comma, prettyMembers, hcomma, hcolon, hspace, bytes_lineBreak, Utf8.encodeChars_append,
      Utf8.encodeChars_cons, ← hk]

end

theorem encode_pretty {v : Json} (h : v.isExact = true) : Utf8.encode v.pretty = (laidOut 0 v).bytes := by
  rw [bytes_laidOut 0 v h, pretty, Utf8.encode, String.toList_ofList]

/-- What documents of at most `depth` levels mean, without reals: integers that 64 bits hold, and the members of
objects in the order of their keys. -/
def Canonical : Nat → Json → Prop
  | _, .number (.integer n) => -0x8000000000000000 ≤ n ∧ n < 0x10000000000000000
  | _, .number (.real _) => False
  | 0, .array _ => False
  | 0, .object _ => False
  | depth + 1, .array xs => ∀ x ∈ xs, Canonical depth x
  | depth + 1, .object ms => Sorted ms ∧ ∀ m ∈ ms, Canonical depth m.2
  | _, _ => True

theorem number?_of_int? {n : Numeral} {i : Int} (h : n.int? = some i) (hlow : -0x8000000000000000 ≤ i)
    (hhigh : i < 0x10000000000000000) : Written.number? n = some (.integer i) := by
  rw [Written.number?, h, Option.filter_some, if_pos (by simpa using ⟨hlow, hhigh⟩)]

/-- Where a member of an object was written. -/
theorem exists_of_mem_ofMembers {depth : Nat} {members : List (Member Written)} {ms : List (String × Json)}
    (h : members.mapM (Written.pair? (json? depth)) = some ms) {m : String × Json} (hm : m ∈ sortedMembers ms) :
    ∃ p ∈ members, p.value.value.json? depth = some m.2 := by
  obtain ⟨p, hp, hpair⟩ := exists_of_mem_mapM h (mem_of_mem_sortedMembers hm)
  obtain ⟨k, -, hpair⟩ := Option.bind_eq_some_iff.1 hpair
  obtain ⟨x, hx, rfl⟩ := Option.map_eq_some_iff.1 hpair
  exact ⟨p, hp, hx⟩

theorem canonical_of_scalar? {w : Written} {v : Json} (h : w.scalar? = some v) (hv : v.isExact = true)
    (depth : Nat) : Canonical depth v := by
  cases w with
  | number n =>
    obtain ⟨x, hx, rfl⟩ := Option.map_eq_some_iff.1 h
    unfold Written.number? at hx
    split at hx
    · rename_i i hi
      cases hx
      simpa [Canonical] using (Option.filter_eq_some_iff.1 hi).2
    · obtain ⟨r, -, rfl⟩ := Option.map_eq_some_iff.1 hx
      cases hv
  | null =>
    cases h
    simp [Canonical]
  | flag b =>
    cases h
    simp [Canonical]
  | text ps =>
    obtain ⟨s, -, rfl⟩ := Option.map_eq_some_iff.1 h
    simp [Canonical]
  | array items closing => cases h
  | object members closing => cases h

theorem canonical_of_json? {depth : Nat} {w : Written} {v : Json} (h : w.json? depth = some v)
    (hv : v.isExact = true) : Canonical depth v := by
  induction depth generalizing w v with
  | zero => exact canonical_of_scalar? h hv 0
  | succ depth ih =>
    cases w with
    | array items closing =>
      obtain ⟨xs, hxs, rfl⟩ := Option.map_eq_some_iff.1 h
      intro x hx
      obtain ⟨p, -, hp⟩ := exists_of_mem_mapM hxs hx
      exact ih hp ((areExact_iff xs).1 hv x hx)
    | object members closing =>
      obtain ⟨ms, hms, rfl⟩ := Option.map_eq_some_iff.1 h
      refine ⟨sorted_sortedMembers ms, fun m hm => ?_⟩
      obtain ⟨p, -, hp⟩ := exists_of_mem_ofMembers hms hm
      exact ih hp ((membersExact_iff _).1 hv m hm)
    | _ => exact canonical_of_scalar? h hv _

/-- Every number of a document is an integer literal, other than minus zero, that 64 bits hold. -/
inductive Written.Integral : Written → Prop
  | null : Integral .null
  | flag (b : Bool) : Integral (.flag b)
  | text (ps : Spelling) : Integral (.text ps)
  | number {n : Numeral} {i : Int} (h : n.int? = some i) (hlow : -0x8000000000000000 ≤ i)
      (hhigh : i < 0x10000000000000000) : Integral (.number n)
  | array {items : List (Padded Written)} (closing : Blanks) (h : ∀ p ∈ items, Integral p.value) :
      Integral (.array items closing)
  | object {members : List (Member Written)} (closing : Blanks) (h : ∀ m ∈ members, Integral m.value.value) :
      Integral (.object members closing)

/-- Such a document means a value without reals. -/
theorem Written.Integral.isExact {w : Written} (h : w.Integral) {depth : Nat} {v : Json}
    (hv : w.json? depth = some v) : v.isExact = true := by
  induction h generalizing depth v with
  | null | flag =>
    cases depth <;> (cases hv; rfl)
  | text ps =>
    cases depth <;> (obtain ⟨s, -, rfl⟩ := Option.map_eq_some_iff.1 hv; rfl)
  | @number n i hi hlow hhigh =>
    have hx : (Written.number n).scalar? = some (.number (.integer i)) := by
      rw [scalar?, number?_of_int? hi hlow hhigh, Option.map_some]
    cases depth <;> (cases hx.symm.trans hv; rfl)
  | array closing _ ih =>
    cases depth with
    | zero => cases hv
    | succ depth =>
      obtain ⟨xs, hxs, rfl⟩ := Option.map_eq_some_iff.1 hv
      refine (areExact_iff xs).2 fun x hx => ?_
      obtain ⟨p, hp, hpx⟩ := exists_of_mem_mapM hxs hx
      exact ih p hp hpx
  | object closing _ ih =>
    cases depth with
    | zero => cases hv
    | succ depth =>
      obtain ⟨ms, hms, rfl⟩ := Option.map_eq_some_iff.1 hv
      refine (membersExact_iff _).2 fun m hm => ?_
      obtain ⟨p, hp, hpm⟩ := exists_of_mem_ofMembers hms hm
      exact ih p hp hpm

theorem laidOutItems_eq_map (indent : Nat) (xs : List Json) :
    laidOutItems indent xs = xs.map fun x => ⟨lineBreak indent, laidOut indent x, []⟩ := by
  induction xs with
  | nil => rfl
  | cons x xs ih => rw [laidOutItems, ih, List.map_cons]

theorem laidOutMembers_eq_map (indent : Nat) (ms : List (String × Json)) : laidOutMembers indent ms =
    ms.map fun m => ⟨lineBreak indent, .ofText m.1, [], ⟨[.space], laidOut indent m.2, []⟩⟩ := by
  induction ms with
  | nil => rfl
  | cons m ms ih =>
    obtain ⟨k, v⟩ := m
    rw [laidOutMembers, ih, List.map_cons]

/-- The laid out text of such a value means the value. -/
theorem json?_laidOut {depth : Nat} {v : Json} (h : Canonical depth v) (indent : Nat) :
    (laidOut indent v).json? depth = some v := by
  induction depth generalizing v indent with
  | zero =>
    cases v with
    | number n =>
      cases n with
      | integer n => exact congrArg (Option.map Json.number) (number?_of_int? (Numeral.int?_ofInt n) h.1 h.2)
      | real x => exact h.elim
    | text s => exact congrArg (Option.map Json.text) (Spelling.text?_ofText s)
    | array xs => exact h.elim
    | object ms => exact h.elim
    | _ => rfl
  | succ depth ih =>
    cases v with
    | number n =>
      cases n with
      | integer n => exact congrArg (Option.map Json.number) (number?_of_int? (Numeral.int?_ofInt n) h.1 h.2)
      | real x => exact h.elim
    | text s => exact congrArg (Option.map Json.text) (Spelling.text?_ofText s)
    | array xs =>
      have hxs := mapM_some (f := fun x => (laidOut (indent + 1) x).json? depth) (g := id) xs fun x hx =>
        ih (h x hx) (indent + 1)
      rw [laidOut, json?, Written.list?, laidOutItems_eq_map, List.mapM_map]
      exact (congrArg (Option.map Json.array) hxs).trans (by rw [List.map_id, Option.map_some])
    | object ms =>
      obtain ⟨hsorted, hms⟩ := h
      have hpairs := mapM_some (f := fun m : String × Json =>
          Written.pair? (json? depth) ⟨lineBreak (indent + 1), .ofText m.1, [],
            ⟨[.space], laidOut (indent + 1) m.2, []⟩⟩) (g := id) ms fun m hm => by
        rw [Written.pair?, Spelling.text?_ofText, Option.bind_some, ih (hms m hm) (indent + 1)]
        rfl
      rw [laidOut, json?, Written.map?, laidOutMembers_eq_map, List.mapM_map]
      refine (congrArg (Option.map ofMembers) hpairs).trans ?_
      rw [List.map_id, Option.map_some, ofMembers, sortedMembers_of_sorted hsorted]
    | _ => rfl

/-- What was parsed is printed as a text of the same value, whatever blanks are put behind it. -/
theorem parse_pretty {text : String} {v : Json} (h : parse text = .ok v) (hv : v.isExact = true)
    (after : Blanks) {s : String} (hs : Utf8.encode s = Utf8.encode v.pretty ++ after.bytes) :
    parse s = .ok v := by
  obtain ⟨-, w, -, -, hw⟩ := parse_eq_ok_iff.1 h
  refine parse_eq_ok_iff.2 ⟨[], laidOut 0 v, after, ?_, json?_laidOut (canonical_of_json? hw hv) 0⟩
  rw [hs, encode_pretty hv]
  rfl

end GatewayFeed.Json
