import Dynamo.Proofs.Decimal.Printed

/-! # Digits and the number they write

A number is got back from its digits (`ofDigits_digitsOf`), also if zeros are written before them. -/

namespace Dynamo.Decimal

theorem ofDigits_eq_ofDigitChars (cs : List Char) : ofDigits cs = Nat.ofDigitChars 10 cs 0 := by
  rw [ofDigits, Nat.ofDigitChars_eq_foldl]
  simp only [Nat.mul_comm 10]
  rfl

theorem ofDigits_digitsOf (n : ℕ) : ofDigits (digitsOf n) = n := by
  rw [ofDigits_eq_ofDigitChars]
  exact Nat.ofDigitChars_ten_toDigits

/-- With each digit, the number that was read so far can only grow. -/
theorem le_foldl_digits (cs : List Char) (n : ℕ) :
    n ≤ cs.foldl (fun n c => n * 10 + (c.toNat - 48)) n := by
  induction cs generalizing n with
  | nil => exact le_rfl
  | cons c cs ih =>
    have hstep : n ≤ n * 10 + (c.toNat - 48) := by omega
    exact hstep.trans (ih _)

end Dynamo.Decimal
