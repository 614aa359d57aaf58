import Schemata.Number

/-!
# What numbers are written with

Numbers are written with digits, signs, a point and the mark of an exponent, but for those that are
not finite, for which a written form has names (`Number.isNumeral_or_named`). A text with any other
character is the written form of no number (`Number.write_ne`).
-/

namespace Schemata

/-- A text of digits, signs, points and exponent marks. -/
def IsNumeral (s : String) : Prop := ∀ c ∈ s.toList, c.isDigit ∨ c ∈ ['.', '-', '+', 'e']

instance (s : String) : Decidable (IsNumeral s) := List.decidableBAll _ s.toList

theorem IsNumeral.append {s t : String} (hs : IsNumeral s) (ht : IsNumeral t) :
    IsNumeral (s ++ t) := by
  intro c hc
  rw [String.toList_append, List.mem_append] at hc
  exact hc.elim (hs c) (ht c)

theorem isNumeral_ofList {digits : List Char} (h : ∀ c ∈ digits, c.isDigit) :
    IsNumeral (String.ofList digits) := by
  intro c hc
  rw [String.toList_ofList] at hc
  exact .inl (h c hc)

theorem isDigit_toDigits (n : Nat) : ∀ c ∈ Nat.toDigits 10 n, c.isDigit :=
  fun _ => Nat.isDigit_of_mem_toDigits (by decide) (by decide)

theorem isNumeral_repr (n : Nat) : IsNumeral n.repr := by
  intro c hc
  rw [Nat.toList_repr] at hc
  exact .inl (isDigit_toDigits n c hc)

theorem isNumeral_toString (i : Int) : IsNumeral (toString i) := by
  cases i with
  | ofNat n => exact isNumeral_repr n
  | negSucc n =>
    have minus : IsNumeral "-" := by decide
    exact minus.append (isNumeral_repr (n + 1))

namespace Double

variable {digits : List Char}

theorem isNumeral_zeros (n : Nat) : IsNumeral (zeros n) :=
  isNumeral_ofList fun c hc => by rw [List.eq_of_mem_replicate hc]; decide

theorem isNumeral_writeOut (h : ∀ c ∈ digits, c.isDigit) (point : Int) (wholePoint : Bool) :
    IsNumeral (writeOut digits point wholePoint) := by
  unfold writeOut
  split
  · have front : IsNumeral "0." := by decide
    exact (front.append (isNumeral_zeros _)).append (isNumeral_ofList h)
  · split
    · refine ((isNumeral_ofList h).append (isNumeral_zeros _)).append ?_
      cases wholePoint <;> decide
    · have point : IsNumeral "." := by decide
      refine (IsNumeral.append ?_ point).append ?_
      · exact isNumeral_ofList fun c hc => h c (List.mem_of_mem_take hc)
      · exact isNumeral_ofList fun c hc => h c (List.mem_of_mem_drop hc)

theorem isNumeral_writeScientific (h : ∀ c ∈ digits, c.isDigit) (exponent : Int) (plus : Bool) :
    IsNumeral (writeScientific digits exponent plus) := by
  have first : IsNumeral (String.ofList (digits.take 1)) :=
    isNumeral_ofList fun c hc => h c (List.mem_of_mem_take hc)
  have mark : IsNumeral "e" := by decide
  have sign : IsNumeral (if plus && 0 ≤ exponent then "+" else "") := by
    split <;> decide
  unfold writeScientific
  simp only
  refine (((first.append ?fraction).append mark).append sign).append (isNumeral_toString exponent)
  case fraction =>
    split
    · decide
    · have point : IsNumeral "." := by decide
      exact point.append (isNumeral_ofList fun c hc => h c (List.mem_of_mem_tail hc))

theorem Decimal.isNumeral_write (form : WrittenForm) (x : Decimal) : IsNumeral (x.write form) := by
  have digits := isDigit_toDigits x.digits
  unfold Decimal.write
  simp only
  split
  · split <;> decide
  · split
    · split
      · exact isNumeral_writeOut digits _ _
      · exact isNumeral_writeScientific digits _ _
    · exact isNumeral_writeOut digits _ _

end Double

namespace Number

variable {form : Double.WrittenForm}

theorem isNumeral_or_named (n : Number) :
    IsNumeral (n.write form) ∨ n.write form ∈ [form.nan, form.infinity, form.negInfinity] := by
  cases n with
  | int i => exact .inl (isNumeral_toString i)
  | float d =>
    unfold write Double.write
    simp only
    split
    · exact .inr (by simp)
    · split
      · split <;> exact .inr (by simp)
      · have sign : IsNumeral (if d.isNegative then "-" else "") := by
          split <;> decide
        exact .inl (sign.append (Double.Decimal.isNumeral_write form d.shortest))

theorem write_ne {s : String} (other : ¬ IsNumeral s)
    (unnamed : s ∉ [form.nan, form.infinity, form.negInfinity]) (n : Number) :
    n.write form ≠ s := by
  rintro rfl
  exact (isNumeral_or_named n).elim other unnamed

end Number

end Schemata
