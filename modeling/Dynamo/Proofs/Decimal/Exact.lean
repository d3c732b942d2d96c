import Dynamo.Number
import Dynamo.Proofs.Decimal.Grammar
import Mathlib

/-! # The exact value of a decimal text

A decimal text writes a mantissa, all digits before the exponent without the point, times a power of
ten. It is zero if and only if all these digits are zeros (`Number.value_ne_zero_iff`). -/

namespace Dynamo.Decimal

theorem foldl_digits_eq_zero_iff {cs : List Char} (hcs : Digits cs) (n : ℕ) :
    cs.foldl (fun n c => n * 10 + (c.toNat - 48)) n = 0 ↔ n = 0 ∧ ∀ c ∈ cs, c = '0' := by
  induction cs generalizing n with
  | nil => simp
  | cons c cs ih =>
    have hc : 48 ≤ c.toNat ∧ c.toNat ≤ 57 := by
      simpa [Char.isDigit, UInt32.le_iff_toNat_le] using hcs c List.mem_cons_self
    have hzero : c.toNat = 48 ↔ c = '0' := by
      rw [← Char.toNat_inj]
      exact Iff.rfl
    rw [List.foldl_cons, ih (fun d hd => hcs d (List.mem_cons_of_mem _ hd)), List.forall_mem_cons,
      ← hzero, ← and_assoc]
    refine and_congr_left fun _ => ?_
    omega

theorem ofDigits_eq_zero_iff {cs : List Char} (hcs : Digits cs) :
    ofDigits cs = 0 ↔ ∀ c ∈ cs, c = '0' := by
  rw [ofDigits, foldl_digits_eq_zero_iff hcs]
  simp

namespace Literal

/-- All digits before the exponent. -/
def digits (l : Literal) : List Char := l.whole ++ l.fraction.getD []

/-- **The number that the text writes.** -/
def value (l : Literal) : ℚ := (if l.negative then -1 else 1) * (l.mantissa * 10 ^ l.scale)

theorem abs_value (l : Literal) : |l.value| = l.mantissa * 10 ^ l.scale := by
  have hsign : |(if l.negative then -1 else 1 : ℚ)| = 1 := by
    split_ifs
    · rw [abs_neg, abs_one]
    · exact abs_one
  rw [value, abs_mul, hsign, one_mul, abs_of_nonneg (by positivity)]

theorem digits_fractionOf (cs : List Char) : Digits ((fractionOf cs).1.getD []) := by
  unfold fractionOf
  split
  · exact digits_takeWhile _
  · exact fun c hc => absurd hc List.not_mem_nil

theorem digits_of_ofUnsigned? {negative : Bool} {cs : List Char} {l : Literal}
    (h : ofUnsigned? negative cs = some l) : Digits l.digits := by
  unfold ofUnsigned? at h
  dsimp only at h
  split_ifs at h
  obtain ⟨exponent, -, rfl⟩ := Option.map_eq_some_iff.mp h
  intro c hc
  rcases List.mem_append.mp hc with hc | hc
  · exact digits_takeWhile cs c hc
  · exact digits_fractionOf _ c hc

theorem digits_of_ofChars? {cs : List Char} {l : Literal} (h : ofChars? cs = some l) :
    Digits l.digits := by
  unfold ofChars? at h
  split at h
  · exact digits_of_ofUnsigned? h
  · exact digits_of_ofUnsigned? h

end Literal

end Dynamo.Decimal

namespace Dynamo.Number

open Decimal

/-- The number that the text writes, exactly. -/
def value (n : Number) : ℚ := n.literal.value

theorem literal_eq {n : Number} {l : Literal} (h : Literal.ofChars? n.text.toList = some l) :
    n.literal = l :=
  Option.get_of_eq_some n.isDecimal h

theorem digits_literal (n : Number) : Digits n.literal.digits :=
  Literal.digits_of_ofChars? (Option.some_get n.isDecimal).symm

/-- **A number is not zero** if and only if one of the digits before its exponent is not. -/
theorem value_ne_zero_iff (n : Number) : n.value ≠ 0 ↔ ∃ c ∈ n.literal.digits, c ≠ '0' := by
  have hmantissa : n.value = 0 ↔ n.literal.mantissa = 0 := by
    rw [value, ← abs_eq_zero, Literal.abs_value, mul_eq_zero, Nat.cast_eq_zero]
    exact or_iff_left (zpow_ne_zero _ (by norm_num))
  rw [Ne, hmantissa, show n.literal.mantissa = ofDigits n.literal.digits from rfl,
    ofDigits_eq_zero_iff n.digits_literal]
  push Not
  exact Iff.rfl

end Dynamo.Number
