import GatewayFeed.Inspect.Printed
import GatewayFeed.Proofs.Json.Pretty

/-! What is printed of an answer is the answer: a document laid out as a text of the same value, and any other body
as it came. -/

namespace GatewayFeed.Inspect

open Json (Blanks Written Sorted)

variable {status : Nat} {text : String} {v : Json}

theorem print_of_parse (h : Json.parse text = .ok v) (status : Nat) :
    print status text = { out := v.pretty ++ "\n" } := by
  rw [print, h]

theorem print_of_success (h : ∀ v, Json.parse text ≠ .ok v) (hs : Fetch.isSuccess status = true) :
    print status text = { out := text ++ "\n" } := by
  rw [print]
  split
  · exact absurd ‹_› (h _)
  · exact if_pos hs

/-- A refused body is named only if there is one. -/
theorem print_of_failure (h : ∀ v, Json.parse text ≠ .ok v) (hs : Fetch.isSuccess status = false) :
    print status text = { err := "Error: Admin API returned status " ++ Fetch.statusText status ++ "\n" ++
      if text = "" then "" else "Response: " ++ text ++ "\n" } := by
  have hbody : (if text.isEmpty then "" else "Response: " ++ text ++ "\n") =
      if text = "" then "" else "Response: " ++ text ++ "\n" := by simp only [String.isEmpty_iff]
  rw [print, ← hbody]
  split
  · exact absurd ‹_› (h _)
  · exact if_neg (by simp [hs])

theorem parse_pretty_self (h : Json.parse text = .ok v) (hv : v.isExact = true) :
    Json.parse v.pretty = .ok v := by
  refine Json.parse_pretty h hv [] ?_
  rw [Blanks.bytes_nil, List.append_nil]

theorem parse_pretty_line (h : Json.parse text = .ok v) (hv : v.isExact = true) :
    Json.parse (v.pretty ++ "\n") = .ok v := by
  refine Json.parse_pretty h hv [.lineFeed] ?_
  rw [Utf8.encode_append]
  rfl

/-- A document is laid out whatever the status, and the text that is shown stands for the same value and is shown as
it is. Any other body is shown as it came, or reported. -/
theorem prints_what_it_got (status : Nat) (text : String) :
    (∀ v, Json.parse text = .ok v → v.isExact = true →
      print status text = { out := v.pretty ++ "\n" } ∧ Utf8.encode v.pretty = (Json.laidOut 0 v).bytes ∧
      Json.parse v.pretty = .ok v ∧ Json.parse (v.pretty ++ "\n") = .ok v ∧
      ∀ status', print status' v.pretty = print status text ∧
        print status' (v.pretty ++ "\n") = print status text) ∧
    ((∀ v, Json.parse text ≠ .ok v) →
      (Fetch.isSuccess status = true → print status text = { out := text ++ "\n" }) ∧
      (Fetch.isSuccess status = false → print status text =
        { err := "Error: Admin API returned status " ++ Fetch.statusText status ++ "\n" ++
          if text = "" then "" else "Response: " ++ text ++ "\n" })) ∧
    (∀ v, Json.parse text = .ok v ↔ ∃ (before : Blanks) (w : Written) (after : Blanks),
      Utf8.encode text = before.bytes ++ (w.bytes ++ after.bytes) ∧ w.json? Json.maxDepth = some v) ∧
    (∀ (w : Written) v, w.Integral → w.json? Json.maxDepth = some v → v.isExact = true) ∧
    (∀ ms, ∃ sorted, Json.ofMembers ms = .object sorted ∧ Sorted sorted ∧
      ∀ k, sorted.lookup k = ((ms.filter (·.1 = k)).getLast?).map (·.2)) := by
  refine ⟨fun v h hv => ?_, fun h => ⟨print_of_success h, print_of_failure h⟩, fun v => Json.parse_eq_ok_iff,
    fun w v hw => hw.isExact, fun ms => ?_⟩
  · have hself := parse_pretty_self h hv
    have hline := parse_pretty_line h hv
    refine ⟨print_of_parse h status, Json.encode_pretty hv, hself, hline, fun status' => ?_⟩
    rw [print_of_parse h, print_of_parse hself, print_of_parse hline]
    exact ⟨rfl, rfl⟩
  · exact ⟨Json.sortedMembers ms, rfl, Json.sorted_sortedMembers ms, Json.lookup_sortedMembers ms⟩

/-- A document with a repeated key, an escape and empty containers. -/
def unready : Written :=
  .object [⟨[], .ofText "b", [], ⟨[], .array [] [.space], []⟩⟩, ⟨[], .ofText "a", [], ⟨[], .null, []⟩⟩,
    ⟨[], .ofText "a", [], ⟨[], .array [⟨[], .text [.short .slash], []⟩,
      ⟨[], .number (.ofInt (-5)), []⟩, ⟨[], .object [] [], []⟩] [], []⟩⟩] []

/-- A document is shown although it comes with a refusal; a text that breaks off is none. -/
theorem prints_unavailable :
    print 503 "\x7b\"b\":[ ],\"a\":null,\"a\":[\"\\/\",-5,\x7b\x7d]\x7d" =
      { out := "\x7b\n  \"a\": [\n    \"/\",\n    -5,\n    \x7b\x7d\n  ],\n  \"b\": []\n\x7d\n" } ∧
    print 503 "[1," = { err := "Error: Admin API returned status 503 Service Unavailable\nResponse: [1,\n" } := by
  obtain ⟨hshown, -, hparse, -, -⟩ :=
    prints_what_it_got 503 "\x7b\"b\":[ ],\"a\":null,\"a\":[\"\\/\",-5,\x7b\x7d]\x7d"
  obtain ⟨-, hreported, -, -, -⟩ := prints_what_it_got 503 "[1,"
  constructor
  · have hvalue : unready.json? Json.maxDepth = some (.object
        [("a", .array [.text "/", .number (.integer (-5)), .object []]), ("b", .array [])]) := by rfl
    rw [(hshown _ ((hparse _).2 ⟨[], unready, [], by decide +kernel, hvalue⟩) rfl).1]
    decide +kernel
  · have hbroken : (Json.parse "[1,").toOption.isSome = false := by decide +kernel
    have hnone : ∀ v, Json.parse "[1," ≠ .ok v := by
      intro v h
      rw [h] at hbroken
      cases hbroken
    rw [(hreported hnone).2 (by decide)]
    decide +kernel

end GatewayFeed.Inspect
