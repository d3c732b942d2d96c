import Dynamo.Text.Base64

/-! # Base64 has one text for each list of bytes

Reading accepts nothing but what writing gives (`decode?_eq_some_iff`): a text with other padding, or
with bits that no byte takes, is refused. -/

namespace Dynamo.Base64

theorem digit_of_value? {c : Char} {n : Nat} (h : value? c = some n) : n < 64 ∧ digit n = c := by
  have hc : Char.ofNat c.toNat = c := Char.ofNat_toNat c
  unfold value? at h
  simp only at h
  split at h
  · obtain rfl : c.toNat - 65 = n := Option.some.inj h
    refine ⟨by omega, ?_⟩
    rw [digit, if_pos (by omega), show 65 + (c.toNat - 65) = c.toNat by omega, hc]
  · split at h
    · obtain rfl : c.toNat - 71 = n := Option.some.inj h
      refine ⟨by omega, ?_⟩
      rw [digit, if_neg (by omega), if_pos (by omega), show 71 + (c.toNat - 71) = c.toNat by omega,
        hc]
    · split at h
      · obtain rfl : c.toNat + 4 = n := Option.some.inj h
        refine ⟨by omega, ?_⟩
        rw [digit, if_neg (by omega), if_neg (by omega), if_pos (by omega),
          show c.toNat + 4 - 4 = c.toNat by omega, hc]
      · split at h
        · next hplus =>
          obtain rfl : 62 = n := Option.some.inj h
          exact ⟨by omega, hplus.symm⟩
        · split at h
          · next hslash =>
            obtain rfl : 63 = n := Option.some.inj h
            exact ⟨by omega, hslash.symm⟩
          · exact absurd h (by simp)

theorem toNat_ofNat_of_lt {n : Nat} (h : n < 256) : (UInt8.ofNat n).toNat = n :=
  UInt8.toNat_ofNat_of_lt' h

theorem encodeChars_of_decodeChars? {cs : List Char} {bs : Bytes}
    (h : decodeChars? cs = some bs) : encodeChars bs = cs := by
  fun_induction decodeChars? cs generalizing bs with
  | case1 =>
    obtain rfl := Option.some.inj h
    rfl
  | case2 a b =>
    simp only [Option.bind_eq_bind, Option.bind_eq_some_iff, Option.ite_none_right_eq_some,
      Option.some.injEq] at h
    obtain ⟨x, hx, y, hy, hpad, rfl⟩ := h
    obtain ⟨hx64, rfl⟩ := digit_of_value? hx
    obtain ⟨hy64, rfl⟩ := digit_of_value? hy
    have hbyte : (UInt8.ofNat (x * 4 + y / 16)).toNat = x * 4 + y / 16 :=
      toNat_ofNat_of_lt (by omega)
    rw [encodeChars, hbyte, show (x * 4 + y / 16) / 4 = x by omega,
      show (x * 4 + y / 16) % 4 * 16 = y by omega]
  | case3 a b c =>
    simp only [Option.bind_eq_bind, Option.bind_eq_some_iff, Option.ite_none_right_eq_some,
      Option.some.injEq] at h
    obtain ⟨x, hx, y, hy, z, hz, hpad, rfl⟩ := h
    obtain ⟨hx64, rfl⟩ := digit_of_value? hx
    obtain ⟨hy64, rfl⟩ := digit_of_value? hy
    obtain ⟨hz64, rfl⟩ := digit_of_value? hz
    have h₁ : (UInt8.ofNat (x * 4 + y / 16)).toNat = x * 4 + y / 16 :=
      toNat_ofNat_of_lt (by omega)
    have h₂ : (UInt8.ofNat (y % 16 * 16 + z / 4)).toNat = y % 16 * 16 + z / 4 :=
      toNat_ofNat_of_lt (by omega)
    rw [encodeChars, h₁, h₂, show (x * 4 + y / 16) / 4 = x by omega,
      show (x * 4 + y / 16) % 4 * 16 + (y % 16 * 16 + z / 4) / 16 = y by omega,
      show (y % 16 * 16 + z / 4) % 16 * 4 = z by omega]
  | case4 a b c d cs _ _ ih =>
    simp only [Option.bind_eq_bind, Option.bind_eq_some_iff, Option.some.injEq] at h
    obtain ⟨x, hx, y, hy, z, hz, u, hu, bs', hbs, rfl⟩ := h
    obtain ⟨hx64, rfl⟩ := digit_of_value? hx
    obtain ⟨hy64, rfl⟩ := digit_of_value? hy
    obtain ⟨hz64, rfl⟩ := digit_of_value? hz
    obtain ⟨hu64, rfl⟩ := digit_of_value? hu
    have h₁ : (UInt8.ofNat (x * 4 + y / 16)).toNat = x * 4 + y / 16 :=
      toNat_ofNat_of_lt (by omega)
    have h₂ : (UInt8.ofNat (y % 16 * 16 + z / 4)).toNat = y % 16 * 16 + z / 4 :=
      toNat_ofNat_of_lt (by omega)
    have h₃ : (UInt8.ofNat (z % 4 * 64 + u)).toNat = z % 4 * 64 + u :=
      toNat_ofNat_of_lt (by omega)
    rw [encodeChars, h₁, h₂, h₃, ih hbs, show (x * 4 + y / 16) / 4 = x by omega,
      show (x * 4 + y / 16) % 4 * 16 + (y % 16 * 16 + z / 4) / 16 = y by omega,
      show (y % 16 * 16 + z / 4) % 16 * 4 + (z % 4 * 64 + u) / 64 = z by omega,
      show (z % 4 * 64 + u) % 64 = u by omega]
  | case5 => exact absurd h (by simp)

/-- **Writing and reading are inverse to each other.** -/
theorem decode?_eq_some_iff {s : String} {bs : Bytes} : decode? s = some bs ↔ s = encode bs := by
  constructor
  · intro h
    rw [encode, encodeChars_of_decodeChars? h, String.ofList_toList]
  · rintro rfl
    exact decode?_encode bs

end Dynamo.Base64
