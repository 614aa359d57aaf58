import Mathlib.Algebra.Order.Field.Power
import Mathlib.Data.Rat.Cast.Order
import Mathlib.Tactic.NormNum
import Schemata.Number

/-!
# Numbers in documents and in data

Finite numbers are written in the same way in documents and in template data, but for those that
have a positive exponent: documents write it without a sign. A double has one exactly if its
shortest decimal is `10 ^ 16` or more (`Number.write_document_eq_data_iff`).
-/

namespace Schemata

namespace Double

theorem writeScientific_eq_signed_iff {digits : List Char} {exponent : Int} :
    writeScientific digits exponent false = writeScientific digits exponent true ↔
      exponent < 0 := by
  simp only [writeScientific, Bool.false_and, Bool.true_and, String.append_left_inj,
    String.append_right_inj, Bool.false_eq_true, if_false, decide_eq_true_eq]
  split
  · next nonneg => exact iff_of_false (by decide) (by omega)
  · next negative => exact iff_of_true rfl (by omega)

namespace Decimal

def value (x : Decimal) : ℚ := x.digits * 10 ^ x.exponent

/-- How many digits a decimal has before the point when it is written out. -/
def point (x : Decimal) : Int := (Nat.toDigits 10 x.digits).length + x.exponent

variable {x : Decimal}

/-- A decimal has more than so many digits before its point if it is that power of ten or more. -/
theorem lt_point_iff (nonzero : x.digits ≠ 0) (n : Nat) :
    (n : Int) < x.point ↔ (10 : ℚ) ^ n ≤ x.value := by
  have positive : (0 : ℚ) < 10 ^ x.exponent := zpow_pos (by norm_num) _
  have one : (1 : ℚ) ≤ x.digits := by exact_mod_cast Nat.pos_of_ne_zero nonzero
  by_cases wide : (n : Int) ≤ x.exponent
  · -- The exponent alone brings it there.
    have digits : 0 < (Nat.toDigits 10 x.digits).length := Nat.length_toDigits_pos
    refine iff_of_true (by unfold point; omega) ?_
    calc (10 : ℚ) ^ n = 10 ^ (n : Int) := (zpow_natCast _ _).symm
      _ ≤ 10 ^ x.exponent := zpow_le_zpow_right₀ (by norm_num) wide
      _ ≤ x.digits * 10 ^ x.exponent := le_mul_of_one_le_left positive.le one
  · obtain ⟨k, hk⟩ : ∃ k : Nat, (n : Int) = k + x.exponent :=
      ⟨((n : Int) - x.exponent).toNat, by omega⟩
    have scaled : (10 : ℚ) ^ n = 10 ^ k * 10 ^ x.exponent := by
      rw [← zpow_natCast, hk, zpow_add₀ (by norm_num), zpow_natCast]
    have many : (Nat.toDigits 10 x.digits).length ≤ k ↔ x.digits < 10 ^ k :=
      Nat.length_toDigits_le_iff (by decide) (by omega)
    have cast : (10 : ℚ) ^ k ≤ x.digits ↔ 10 ^ k ≤ x.digits := by exact_mod_cast Iff.rfl
    rw [value, scaled, mul_le_mul_iff_left₀ positive, cast, ← not_lt, ← many, point]
    omega

theorem write_of_positional (form : WrittenForm) {lowest highest : Int} (nonzero : x.digits ≠ 0)
    (h : form.positional = some (lowest, highest)) :
    x.write form = if lowest < x.point ∧ x.point ≤ highest
      then writeOut (Nat.toDigits 10 x.digits) x.point form.wholePoint
      else writeScientific (Nat.toDigits 10 x.digits) (x.point - 1) form.plus := by
  simp only [write, if_neg nonzero, h, Bool.and_eq_true, decide_eq_true_eq]
  rfl

theorem write_document_eq_data_iff :
    x.write .document = x.write .data ↔ x.value < 10 ^ 16 := by
  by_cases zero : x.digits = 0
  · have nothing : x.value = 0 := by simp [value, zero]
    rw [nothing]
    exact iff_of_true (by simp [write, zero, WrittenForm.document, WrittenForm.data])
      (by norm_num)
  · have small : x.value < 10 ^ 16 ↔ ¬ 16 < x.point :=
      not_le.symm.trans (not_congr (lt_point_iff zero 16).symm)
    rw [small, write_of_positional .document zero rfl, write_of_positional .data zero rfl]
    by_cases writtenOut : -5 < x.point ∧ x.point ≤ 16
    · rw [if_pos writtenOut, if_pos writtenOut]
      exact iff_of_true rfl (by omega)
    · rw [if_neg writtenOut, if_neg writtenOut]
      refine writeScientific_eq_signed_iff.trans ?_
      omega

end Decimal

theorem write_of_isFinite {d : Double} (finite : d.isFinite) (form : WrittenForm) :
    d.write form = (if d.isNegative then "-" else "") ++ d.shortest.write form := by
  have number : d.isNaN = false := by
    rw [isFinite, decide_eq_true_eq] at finite
    exact decide_eq_false (by omega)
  simp only [write, number, finite, Bool.not_true, Bool.false_eq_true, if_false]

end Double

/-- **Which numbers are written alike.** Finite numbers are, but for doubles from `10 ^ 16` on. -/
theorem Number.write_document_eq_data_iff {n : Number} (finite : n.isFinite) :
    n.write .document = n.write .data ↔ ∀ d, n = .float d → d.shortest.value < 10 ^ 16 := by
  cases n with
  | int i => exact iff_of_true rfl nofun
  | float d =>
    rw [write, write, Double.write_of_isFinite finite, Double.write_of_isFinite finite,
      String.append_right_inj, Double.Decimal.write_document_eq_data_iff]
    constructor
    · rintro small _ ⟨⟩
      exact small
    · exact fun small => small d rfl

end Schemata
