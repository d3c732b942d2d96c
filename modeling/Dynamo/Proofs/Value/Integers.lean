import Dynamo.Proofs.Decimal.Digits
import Dynamo.Proofs.Decimal.Exact

/-! # Numbers as integers

A number is read as an integer digit by digit, and the range is never left on the way. As each digit
leads farther away from zero, which is in the range, the digits are read to the end if and only if
the range holds the integer that they write (`IntegerRange.foldlM_push?_eq_some`). So a number is read
as exactly the integer that it is, or it is refused (`Number.toInteger_exact`); the one integer that
can be refused though the range holds it is a zero with a minus. -/

namespace Dynamo

open Decimal

/-- The integer of a sign and a magnitude. -/
def signedInt (negative : Bool) (m : ℕ) : ℤ := if negative then -m else m

/-! ### Ranges -/

namespace IntegerRange

variable {r : IntegerRange} {negative : Bool} {m : ℕ}

theorem contains_iff {i : ℤ} : r.contains i = true ↔ r.least ≤ i ∧ i ≤ r.greatest := by
  rw [contains, Bool.and_eq_true, decide_eq_true_eq, decide_eq_true_eq]

/-- What is nearer to zero is in the range, too. -/
theorem contains_of_le {m' : ℕ} (hle : m ≤ m') (h : r.contains (signedInt negative m') = true) :
    r.contains (signedInt negative m) = true := by
  rw [contains_iff] at h ⊢
  have hleast := r.least_nonpos
  have hgreatest := r.greatest_nonneg
  unfold signedInt at h ⊢
  split_ifs at h ⊢ <;> omega

theorem within?_eq_some {i j : ℤ} : r.within? i = some j ↔ i = j ∧ r.contains i = true := by
  unfold within?
  split_ifs with h
  · rw [Option.some.injEq, and_iff_left h]
  · exact iff_of_false nofun fun hij => h hij.2

/-- **One more digit is read** if the range holds the integer with it. -/
theorem push?_eq_some {c : Char} {j : ℤ} :
    r.push? negative (signedInt negative m) c = some j ↔
      c.isDigit = true ∧ signedInt negative (m * 10 + (c.toNat - 48)) = j ∧
        r.contains j = true := by
  have htens : signedInt negative m * 10 = signedInt negative (m * 10) := by
    unfold signedInt
    split_ifs <;> push_cast <;> ring
  have hnext : (if negative then signedInt negative (m * 10) - (c.toNat - 48 : ℕ)
      else signedInt negative (m * 10) + (c.toNat - 48 : ℕ)) =
        signedInt negative (m * 10 + (c.toNat - 48)) := by
    unfold signedInt
    split_ifs <;> push_cast <;> ring
  unfold push?
  by_cases hc : c.isDigit = true
  · rw [if_pos hc, and_iff_right hc, htens, Option.bind_eq_some_iff]
    constructor
    · rintro ⟨_, htens', h⟩
      obtain ⟨rfl, -⟩ := within?_eq_some.mp htens'
      rw [hnext, within?_eq_some] at h
      exact ⟨h.1, h.1 ▸ h.2⟩
    · rintro ⟨rfl, h⟩
      have hle : m * 10 ≤ m * 10 + (c.toNat - 48) := Nat.le_add_right _ _
      refine ⟨_, within?_eq_some.mpr ⟨rfl, contains_of_le hle h⟩, ?_⟩
      rw [hnext]
      exact within?_eq_some.mpr ⟨rfl, h⟩
  · rw [if_neg hc]
    exact iff_of_false nofun fun h => hc h.1

/-- **Digits are read to the end** if and only if the range holds the integer that they write. -/
theorem foldlM_push?_eq_some {cs : List Char} {j : ℤ}
    (hm : r.contains (signedInt negative m) = true) :
    cs.foldlM (r.push? negative) (signedInt negative m) = some j ↔
      Digits cs ∧ signedInt negative (cs.foldl (fun n c => n * 10 + (c.toNat - 48)) m) = j ∧
        r.contains j = true := by
  induction cs generalizing m with
  | nil =>
    rw [List.foldlM_nil, List.foldl_nil]
    constructor
    · intro h
      obtain rfl := Option.some.inj h
      exact ⟨fun c hc => absurd hc List.not_mem_nil, rfl, hm⟩
    · rintro ⟨-, rfl, -⟩
      rfl
  | cons c cs ih =>
    rw [List.foldlM_cons, List.foldl_cons, Option.bind_eq_bind, Option.bind_eq_some_iff]
    constructor
    · rintro ⟨i, hpush, hrest⟩
      obtain ⟨hc, rfl, hi⟩ := push?_eq_some.mp hpush
      obtain ⟨hcs, hj⟩ := (ih hi).mp hrest
      exact ⟨List.forall_mem_cons.mpr ⟨hc, hcs⟩, hj⟩
    · rintro ⟨hdigits, rfl, hj⟩
      obtain ⟨hc, hcs⟩ := List.forall_mem_cons.mp hdigits
      have hi := contains_of_le (le_foldl_digits cs _) hj
      exact ⟨_, push?_eq_some.mpr ⟨hc, rfl, hi⟩, (ih hi).mpr ⟨hcs, rfl, hj⟩⟩

theorem ofDigits?_eq_some {cs : List Char} {j : ℤ} :
    r.ofDigits? negative cs = some j ↔
      cs ≠ [] ∧ Digits cs ∧ signedInt negative (ofDigits cs) = j ∧ r.contains j = true := by
  have hzero : signedInt negative 0 = 0 := by cases negative <;> rfl
  have hm : r.contains (signedInt negative 0) = true := by
    rw [hzero, contains_iff]
    exact ⟨r.least_nonpos, r.greatest_nonneg⟩
  unfold ofDigits?
  split_ifs with hnil
  · exact iff_of_false nofun fun h => h.1 hnil
  · rw [and_iff_right hnil, ← hzero]
    exact foldlM_push?_eq_some hm

/-- **Integers are read from a sign and digits**, a minus only if the range has negative integers. -/
theorem ofChars?_eq_some {cs : List Char} {j : ℤ} :
    r.ofChars? cs = some j ↔ ∃ negative ds, cs = signed negative ds ∧ (ds ≠ [] ∧ Digits ds) ∧
      (negative = true → r.least < 0) ∧ signedInt negative (ofDigits ds) = j ∧
        r.contains j = true := by
  constructor
  · intro h
    unfold ofChars? at h
    split at h
    · next ds =>
      split_ifs at h with hminus
      obtain ⟨hne, hds, hj⟩ := ofDigits?_eq_some.mp h
      exact ⟨true, ds, rfl, ⟨hne, hds⟩, fun _ => of_decide_eq_true hminus, hj⟩
    · obtain ⟨hne, hds, hj⟩ := ofDigits?_eq_some.mp h
      exact ⟨false, cs, rfl, ⟨hne, hds⟩, nofun, hj⟩
  · rintro ⟨negative, ds, rfl, ⟨hne, hds⟩, hminus, hj⟩
    have hread := ofDigits?_eq_some.mpr ⟨hne, hds, hj⟩
    cases negative with
    | true =>
      show (if r.allowsMinus then r.ofDigits? true ds else none) = some j
      have hallowed : r.allowsMinus = true := decide_eq_true (hminus rfl)
      rw [if_pos hallowed, hread]
    | false =>
      show r.ofChars? ds = some j
      unfold ofChars?
      split
      · exact absurd (hds '-' List.mem_cons_self) (by decide)
      · exact hread

end IntegerRange

/-! ### Texts without point and exponent -/

namespace Number

/-- The text has no point and no exponent. -/
def IsWhole (n : Number) : Prop := ∀ c ∈ n.text.toList, c ≠ '.' ∧ c ≠ 'e' ∧ c ≠ 'E'

theorem isWhole_iff {n : Number} :
    n.IsWhole ↔ ∃ negative ds, n.text.toList = signed negative ds ∧ ds ≠ [] ∧ Digits ds := by
  constructor
  · intro h
    obtain ⟨minus, s, e, htext, hminus, hs, he⟩ := Literal.isSome_ofChars?_iff.mp n.isDecimal
    have hnone : ∀ c ∈ s ++ e, c ≠ '.' ∧ c ≠ 'e' ∧ c ≠ 'E' := fun c hc =>
      h c (htext ▸ List.mem_append_right _ hc)
    cases he with
    | some hc =>
      obtain ⟨-, hlower, hupper⟩ := hnone _ (List.mem_append_right _ List.mem_cons_self)
      exact absurd hc (not_or.mpr ⟨hlower, hupper⟩)
    | none =>
      cases hs with
      | point =>
        have hpoint := hnone '.' (List.mem_append_left _ (by simp))
        exact absurd rfl hpoint.1
      | whole hne hds =>
        rw [List.append_nil] at htext
        rcases hminus with rfl | rfl
        · exact ⟨false, s, htext, hne, hds⟩
        · exact ⟨true, s, htext, hne, hds⟩
  · rintro ⟨negative, ds, htext, -, hds⟩ c hc
    have hdigits : ∀ d ∈ ds, d ≠ '.' ∧ d ≠ 'e' ∧ d ≠ 'E' := by
      intro d hd
      refine ⟨?_, ?_, ?_⟩ <;> rintro rfl <;> exact absurd (hds _ hd) (by decide)
    rw [htext] at hc
    cases negative with
    | false => exact hdigits c hc
    | true =>
      rcases List.mem_cons.mp hc with rfl | hc
      · decide
      · exact hdigits c hc

theorem value_eq_signedInt {n : Number} {negative : Bool} {ds : List Char}
    (htext : n.text.toList = signed negative ds) (hne : ds ≠ []) (hds : Digits ds) :
    n.value = (signedInt negative (ofDigits ds) : ℤ) := by
  have hparts : Literal.ofChars? n.text.toList = some ⟨negative, ds, none, none⟩ := by
    have hhead := @Literal.exists_cons_of_digits ds [] hne hds
    rw [List.append_nil] at hhead
    rw [htext, Literal.ofChars?_signed hhead]
    simp [Literal.ofUnsigned?, Literal.takeWhile_digits hds, Literal.dropWhile_digits hds, hne,
      Literal.fractionOf, Literal.exponentOf?]
  rw [value, literal_eq hparts]
  have hmantissa : Literal.mantissa ⟨negative, ds, none, none⟩ = ofDigits ds := by
    rw [Literal.mantissa, Option.getD_none, List.append_nil]
  have hscale : Literal.scale ⟨negative, ds, none, none⟩ = 0 := rfl
  rw [Literal.value, hmantissa, hscale, zpow_zero, mul_one, signedInt]
  cases negative <;> simp

theorem toInteger_eq_ok {r : IntegerRange} {n : Number} {k : ℤ} :
    n.toInteger r = .ok k ↔ r.ofChars? n.text.toList = some k := by
  unfold toInteger
  cases r.ofChars? n.text.toList with
  | none => exact iff_of_false nofun nofun
  | some i => rw [Except.ok.injEq, Option.some.injEq]

theorem toInteger_eq_error {r : IntegerRange} {n : Number} {e : NumberError} :
    n.toInteger r = .error e ↔ (∀ k, n.toInteger r ≠ .ok k) ∧ e = .outOfRange n.text r.name := by
  unfold toInteger
  cases r.ofChars? n.text.toList with
  | none => simp [eq_comm]
  | some i => simp

theorem minus_mem_signed_iff {negative : Bool} {ds : List Char} (hds : Digits ds) :
    '-' ∈ signed negative ds ↔ negative = true := by
  cases negative with
  | true => exact iff_of_true List.mem_cons_self rfl
  | false => exact iff_of_false (fun h => absurd (hds '-' h) (by decide)) nofun

/-- **A number is read as the integer that it is, or refused.** For every range of integers, such as
`int64`, `nat64` and `machine`: it is read as `k` if and only if its text has no point and no exponent,
what it writes, with digits of any number, is `k`, the range holds `k`, and there is no minus
unless the range has negative integers. All else is refused, with the text as it is. So integers of
the range are got back from their numbers. -/
theorem toInteger_exact (r : IntegerRange) (n : Number) :
    (∀ k : ℤ, n.toInteger r = .ok k ↔ n.IsWhole ∧ n.value = k ∧ (r.least ≤ k ∧ k ≤ r.greatest) ∧
      ('-' ∈ n.text.toList → r.least < 0)) ∧
    (∀ e, n.toInteger r = .error e ↔
      (¬ ∃ k : ℤ, n.IsWhole ∧ n.value = k ∧ (r.least ≤ k ∧ k ≤ r.greatest) ∧
        ('-' ∈ n.text.toList → r.least < 0)) ∧ e = .outOfRange n.text r.name) ∧
    ∀ k : ℤ, r.least ≤ k ∧ k ≤ r.greatest → (ofInt k).toInteger r = .ok k := by
  have hread : ∀ k : ℤ, n.toInteger r = .ok k ↔ n.IsWhole ∧ n.value = k ∧
      (r.least ≤ k ∧ k ≤ r.greatest) ∧ ('-' ∈ n.text.toList → r.least < 0) := by
    intro k
    rw [toInteger_eq_ok, IntegerRange.ofChars?_eq_some, isWhole_iff, ← IntegerRange.contains_iff]
    constructor
    · rintro ⟨negative, ds, htext, ⟨hne, hds⟩, hminus, rfl, hk⟩
      refine ⟨⟨negative, ds, htext, hne, hds⟩, value_eq_signedInt htext hne hds, hk, ?_⟩
      rwa [htext, minus_mem_signed_iff hds]
    · rintro ⟨⟨negative, ds, htext, hne, hds⟩, hvalue, hk, hminus⟩
      rw [htext, minus_mem_signed_iff hds] at hminus
      rw [value_eq_signedInt htext hne hds, Int.cast_inj] at hvalue
      exact ⟨negative, ds, htext, ⟨hne, hds⟩, hminus, hvalue, hk⟩
  refine ⟨hread, fun e => ?_, fun k hk => ?_⟩
  · rw [toInteger_eq_error, not_exists]
    exact and_congr_left fun _ => forall_congr' fun k => not_congr (hread k)
  · have htext : (ofInt k).text.toList = intText k := String.toList_ofList
    rw [toInteger_eq_ok, htext, IntegerRange.ofChars?_eq_some]
    have hdigits := ofDigits_digitsOf k.natAbs
    refine ⟨decide (k < 0), digitsOf k.natAbs, ?_, ⟨digitsOf_ne_nil _, digits_digitsOf _⟩, ?_, ?_,
      IntegerRange.contains_iff.mpr hk⟩
    · unfold intText signed
      simp only [decide_eq_true_eq]
    · intro hneg
      exact hk.1.trans_lt (of_decide_eq_true hneg)
    · rw [hdigits, signedInt]
      split_ifs with hneg
      · have hlt := of_decide_eq_true hneg
        omega
      · have hge : ¬ k < 0 := fun hlt => hneg (decide_eq_true hlt)
        omega

/-- The least integer of 64 bits is read, also behind zeros, and the one before it is refused. -/
theorem toInteger_exact_least : ∃ n n' : Number, n.text = "-009223372036854775808" ∧
    n'.text = "-9223372036854775809" ∧
    n.toInteger .int64 = .ok (-9223372036854775808) ∧
    n'.toInteger .int64 = .error (.outOfRange "-9223372036854775809" "i64") ∧
    (ofInt (-9223372036854775808)).toInteger .int64 = .ok (-9223372036854775808) := by
  let n : Number := ⟨"-009223372036854775808", by decide⟩
  let n' : Number := ⟨"-9223372036854775809", by decide⟩
  have htext : n.text.toList = signed true "009223372036854775808".toList := by decide
  have htext' : n'.text.toList = signed true "9223372036854775809".toList := by decide
  have hdigits : Digits "009223372036854775808".toList := Text.forall_mem_of_all (by decide)
  have hdigits' : Digits "9223372036854775809".toList := Text.forall_mem_of_all (by decide)
  have hvalue := value_eq_signedInt htext (by decide) hdigits
  have hvalue' := value_eq_signedInt htext' (by decide) hdigits'
  have hwhole : n.IsWhole := isWhole_iff.mpr ⟨true, _, htext, by decide, hdigits⟩
  refine ⟨n, n', rfl, rfl, ?_, ?_, ?_⟩
  · exact ((toInteger_exact .int64 n).1 _).mpr ⟨hwhole, hvalue, by decide, fun _ => by decide⟩
  · refine ((toInteger_exact .int64 n').2.1 _).mpr ⟨?_, rfl⟩
    rintro ⟨k, -, hk, hrange, -⟩
    rw [hvalue', Int.cast_inj] at hk
    subst hk
    exact absurd hrange (by decide)
  · exact (toInteger_exact .int64 n).2.2 _ (by decide)

/-- **A zero with a minus is refused** where there are no negative integers, though it is a zero. -/
theorem toInteger_minus_zero : ∃ n : Number, n.text = "-0" ∧ n.IsWhole ∧ n.value = (0 : ℤ) ∧
    (IntegerRange.nat64.least ≤ 0 ∧ 0 ≤ IntegerRange.nat64.greatest) ∧
    n.toInteger .nat64 = .error (.outOfRange "-0" "u64") := by
  let n : Number := ⟨"-0", by decide⟩
  have htext : n.text.toList = signed true ['0'] := by decide
  have hne : ['0'] ≠ [] := List.cons_ne_nil _ _
  have hwhole : n.IsWhole := isWhole_iff.mpr ⟨true, _, htext, hne, digits_zeros 1⟩
  exact ⟨n, rfl, hwhole, value_eq_signedInt htext hne (digits_zeros 1), by decide, by decide⟩

end Number

end Dynamo
