import Dynamo.Proofs.Decimal.Exact
import Dynamo.Proofs.Decimal.Underflow
import Dynamo.Value.Document

/-! # Numbers as truth values

A number attribute reads as true unless its nearest binary number is zero. So it reads as true only if
it is not zero, but not the other way round: there are numbers so near to zero that they are rounded to
it (`Document.bool_number`). -/

namespace Dynamo

open Decimal

theorem Number.isZero_toDouble (n : Number) :
    n.toDouble.isZero = true ↔ |n.value| ≤ 1 / 2 ^ 1075 := by
  rw [toDouble, Double.isZero_ofDecimal, value, Literal.abs_value]

namespace Document

theorem bool_of_get? {m : Document} {key : String} {n : Number}
    (h : Entries.get? key m = some (.number n)) : bool m key = .ok !n.toDouble.isZero := by
  have hpresent : present? m key = some (.number n) := by
    rw [present?, h]
  rw [bool, typed, hpresent]
  rfl

/-- **A number reads as true** if and only if it is farther from zero than the half of the smallest
binary number. So a zero never reads as true; and a number is not zero if and only if one of its
digits before the exponent is not. -/
theorem bool_number {m : Document} {key : String} {n : Number}
    (h : Entries.get? key m = some (.number n)) :
    ∃ b, bool m key = .ok b ∧ (b = true ↔ 1 / 2 ^ 1075 < |n.value|) ∧ (b = true → n.value ≠ 0) ∧
      (n.value ≠ 0 ↔ ∃ c ∈ n.literal.digits, c ≠ '0') := by
  have hread : (!n.toDouble.isZero) = true ↔ 1 / 2 ^ 1075 < |n.value| := by
    rw [← not_le, ← n.isZero_toDouble, Bool.not_eq_true', Bool.not_eq_true]
  refine ⟨_, bool_of_get? h, hread, fun htrue hzero => ?_, n.value_ne_zero_iff⟩
  have habs : 1 / 2 ^ 1075 < |n.value| := hread.mp htrue
  rw [hzero, abs_zero] at habs
  exact absurd habs (not_lt.mpr (by positivity))

/-- The number `-3e-324` is just great enough. -/
theorem bool_number_least : ∃ n : Number, n.text = "-3e-324" ∧
    Entries.get? "flag" (single "flag" (.number n)) = some (.number n) ∧
    bool (single "flag" (.number n)) "flag" = .ok true := by
  let n : Number := ⟨"-3e-324", by decide⟩
  have hget : Entries.get? "flag" (single "flag" (.number n)) = some (.number n) := rfl
  have hliteral : n.literal = ⟨true, ['3'], none, some (true, ['3', '2', '4'])⟩ :=
    Number.literal_eq (by decide)
  have habs : |n.value| = 3 / 10 ^ 324 := by
    rw [Number.value, Literal.abs_value, hliteral]
    show ((3 : ℕ) : ℚ) * 10 ^ (-324 : ℤ) = _
    rw [zpow_neg, div_eq_mul_inv]
    rfl
  have hgreat : (10 : ℚ) ^ 324 < 3 * 2 ^ 1075 := by
    have hnat : 10 ^ 324 < 3 * 2 ^ 1075 := by decide +kernel
    exact_mod_cast hnat
  obtain ⟨b, hb, htrue, -⟩ := bool_number hget
  refine ⟨n, rfl, hget, hb.trans (congrArg _ (htrue.mpr ?_))⟩
  rw [habs, div_lt_div_iff₀ (by positivity) (by positivity), one_mul]
  exact hgreat

/-- **A number that is not zero reads as false**, like every one that is rounded to zero. -/
theorem bool_tiny : ∃ n : Number, n.text = "1e-400" ∧ n.value ≠ 0 ∧
    Entries.get? "flag" (single "flag" (.number n)) = some (.number n) ∧
    bool (single "flag" (.number n)) "flag" = .ok false := by
  let n : Number := ⟨"1e-400", by decide⟩
  have hliteral : n.literal = ⟨false, ['1'], none, some (true, ['4', '0', '0'])⟩ :=
    Number.literal_eq (by decide)
  have hvalue : n.value ≠ 0 := by
    rw [n.value_ne_zero_iff, hliteral]
    exact ⟨'1', List.mem_cons_self, by decide⟩
  have hget : Entries.get? "flag" (single "flag" (.number n)) = some (.number n) := rfl
  refine ⟨n, rfl, hvalue, hget, ?_⟩
  rw [bool_of_get? hget, Number.toDouble, hliteral]
  decide

end Document

end Dynamo
