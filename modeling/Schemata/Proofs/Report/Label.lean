import Schemata.Proofs.Report

/-!
# Where a label stands

The place of a label is found by a difference, a sum and a clamp, and in words of a machine each of
them can fail: a difference that is negative, a sum that is too great, bounds that cross.
`Report.label?` goes through them one by one. None of them fails, whatever the span is, and the
label is a stretch of the source (`label_inside`); only without its guard against empty sources
would the first one (`Report.labelSpan?_zero`).
-/

namespace Schemata

namespace Report

/-! ## Arithmetic that can fail -/

/-- A difference that is not negative. -/
def difference? (a b : Nat) : Option Nat := if b ≤ a then some (a - b) else none

/-- A sum that is not above the greatest number. -/
def sum? (greatest a b : Nat) : Option Nat := if a + b ≤ greatest then some (a + b) else none

/-- The nearest number between two bounds that do not cross. -/
def clamp? (low high n : Nat) : Option Nat :=
  if low ≤ high then some (max low (min n high)) else none

/-- Where a span is marked in a source of `length` characters, step by step. -/
def labelSpan? (greatest length : Nat) (span : Nat × Nat) : Option (Nat × Nat) := do
  let last ← difference? length 1
  let start := min span.1 last
  let next ← sum? greatest start 1
  let stop ← clamp? next length span.2
  return (start, stop)

/-- The label for a span, if there is one to build. -/
def label? (greatest : Nat) (source : String) (span : Option (Nat × Nat)) :
    Option (Option (Nat × Nat)) :=
  match span.filter fun _ => 0 < source.length with
  | some span => some <$> labelSpan? greatest source.length span
  | none => some none

variable {greatest length : Nat} {span : Nat × Nat}

/-- In an empty source there is no last character to stay on. -/
theorem labelSpan?_zero : labelSpan? greatest 0 span = none := rfl

theorem labelSpan?_eq (filled : 0 < length) (fits : length ≤ greatest) :
    labelSpan? greatest length span = some (labelSpan length span) := by
  have last : difference? length 1 = some (length - 1) := if_pos filled
  have within : min span.1 (length - 1) + 1 ≤ length := by omega
  have next : sum? greatest (min span.1 (length - 1)) 1 = some (min span.1 (length - 1) + 1) :=
    if_pos (Nat.le_trans within fits)
  have stop : clamp? (min span.1 (length - 1) + 1) length span.2 =
      some (max (min span.1 (length - 1) + 1) (min span.2 length)) := if_pos within
  simp only [labelSpan?, last, next, stop, Option.bind_eq_bind, Option.bind_some, labelSpan]
  rfl

/-- A label is not empty, and does not reach past the source. -/
theorem labelSpan_inside (span : Nat × Nat) (filled : 0 < length) :
    (labelSpan length span).1 < (labelSpan length span).2 ∧
      (labelSpan length span).2 ≤ length := by
  simp only [labelSpan]
  omega

/-- For one character of a text, or one past its end, the label is one character. -/
theorem labelSpan_single (filled : 0 < length) (single : span.2 = span.1 + 1) :
    labelSpan length span = (min span.1 (length - 1), min span.1 (length - 1) + 1) := by
  have stop : max (min span.1 (length - 1) + 1) (min span.2 length) =
      min span.1 (length - 1) + 1 := by omega
  rw [labelSpan, stop]

end Report

namespace DecodeError

variable {e : DecodeError} {span : Nat × Nat}

/-- The report of an error that is not shown in the source. -/
def heading (e : DecodeError) : String := Report.red "Error:" ++ " " ++ e.message ++ "\n"

/-- Errors are located at one character. -/
theorem single_of_span (located : e.span = some span) : span.2 = span.1 + 1 := by
  obtain ⟨path, fault⟩ := e
  cases fault with
  | malformed error =>
    obtain ⟨index, -, rfl⟩ := Option.map_eq_some_iff.mp located
    rfl
  | _ => cases located

theorem report_empty (e : DecodeError) : e.report "" = e.heading := by
  rw [report]
  cases e.span <;> rfl

end DecodeError

/-- **A label can always be built, and is a stretch of the source.** Whatever the span, no step of
the arithmetic fails in numbers that the length of the source is among; an empty source has no
label. An error is labelled at one character, the one that its offset counts to, or the last. -/
theorem label_inside (source : String) (span : Nat × Nat) :
    (source = "" →
      (∀ greatest, Report.label? greatest source (some span) = some none) ∧
      ∀ e : DecodeError, e.report source = e.heading) ∧
    (source ≠ "" → ∃ start stop, Report.labelSpan source.length span = (start, stop) ∧
      start < stop ∧ stop ≤ source.length ∧
      (∀ greatest, source.length ≤ greatest →
        Report.label? greatest source (some span) = some (some (start, stop))) ∧
      ∀ e : DecodeError, e.span = some span →
        start = min span.1 (source.length - 1) ∧ stop = start + 1 ∧
          e.report source = e.reportAt source start) := by
  constructor
  · rintro rfl
    exact ⟨fun _ => rfl, DecodeError.report_empty⟩
  · intro nonempty
    have chars : source.toList ≠ [] := mt String.toList_eq_nil_iff.mp nonempty
    have filled : 0 < source.length := by
      rw [← String.length_toList]
      exact List.length_pos_of_ne_nil chars
    obtain ⟨ordered, inside⟩ := Report.labelSpan_inside span filled
    refine ⟨(Report.labelSpan source.length span).1, (Report.labelSpan source.length span).2, rfl,
      ordered, inside, ?built, ?located⟩
    case built =>
      intro greatest fits
      have guarded : (some span).filter (fun _ => 0 < source.length) = some span := by
        simp [filled]
      simp only [Report.label?, guarded, Report.labelSpan?_eq filled fits]
      rfl
    case located =>
      intro e he
      have single := Report.labelSpan_single filled (DecodeError.single_of_span he)
      rw [single]
      refine ⟨rfl, rfl, ?_⟩
      rw [DecodeError.report_of_span he chars, String.length_toList]

/-- A reversed span past the end marks the last character. -/
example : Report.label? (2 ^ 64 - 1) "a: b" (some (9, 2)) = some (some (3, 4)) := by decide

end Schemata
