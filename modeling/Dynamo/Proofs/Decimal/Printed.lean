import Dynamo.Json
import Dynamo.Proofs.Decimal.Grammar

/-! # The texts that numbers are written with

Integers are written as `-?D+`, and binary numbers with all their digits at their places as
`-?D+(.D+)?`; in JSON, binary numbers far from one have an exponent. All of these are decimal texts. -/

namespace Dynamo.Decimal

/-- `D+(.D+)?` -/
inductive Fixed : List Char → Prop
  | whole {ds : List Char} (hne : ds ≠ []) (hds : Digits ds) : Fixed ds
  | point {ds es : List Char} (hne : ds ≠ []) (hne' : es ≠ []) (hds : Digits ds) (hes : Digits es) :
    Fixed (ds ++ '.' :: es)

/-- `-?D+` -/
def IsInteger (cs : List Char) : Prop :=
  ∃ minus ds, cs = minus ++ ds ∧ (minus = [] ∨ minus = ['-']) ∧ ds ≠ [] ∧ Digits ds

/-- `-?D+(.D+)?` -/
def IsFixed (cs : List Char) : Prop :=
  ∃ minus s, cs = minus ++ s ∧ (minus = [] ∨ minus = ['-']) ∧ Fixed s

theorem Fixed.significand {s : List Char} (h : Fixed s) : Significand s := by
  cases h with
  | whole hne hds => exact .whole hne hds
  | point hne _ hds hes => exact .point (.inl hne) hds hes

theorem IsInteger.isFixed {cs : List Char} (h : IsInteger cs) : IsFixed cs := by
  obtain ⟨minus, ds, rfl, hminus, hne, hds⟩ := h
  exact ⟨minus, ds, rfl, hminus, .whole hne hds⟩

/-- A text without an exponent is a decimal text. -/
theorem IsFixed.isText {cs : List Char} (h : IsFixed cs) : IsText cs := by
  obtain ⟨minus, s, rfl, hminus, hs⟩ := h
  exact ⟨minus, s, [], by rw [List.append_nil], hminus, hs.significand, .none⟩

theorem exists_signed (negative : Bool) (cs : List Char) :
    ∃ minus, signed negative cs = minus ++ cs ∧ (minus = [] ∨ minus = ['-']) := by
  cases negative with
  | false => exact ⟨[], rfl, .inl rfl⟩
  | true => exact ⟨['-'], rfl, .inr rfl⟩

theorem isFixed_signed {cs : List Char} (h : Fixed cs) (negative : Bool) :
    IsFixed (signed negative cs) := by
  obtain ⟨minus, heq, hminus⟩ := exists_signed negative cs
  exact ⟨minus, cs, heq, hminus, h⟩

/-! ### Digits -/

theorem digits_digitsOf (n : ℕ) : Digits (digitsOf n) := fun _ hc => isDigit_of_mem_digitsOf hc

theorem digits_zeros (n : ℕ) : Digits (List.replicate n '0') := by
  intro c hc
  rw [(List.mem_replicate.mp hc).2]
  decide

theorem Digits.append {ds es : List Char} (hds : Digits ds) (hes : Digits es) : Digits (ds ++ es) := by
  intro c hc
  rcases List.mem_append.mp hc with hc | hc
  · exact hds c hc
  · exact hes c hc

theorem isInteger_intText (i : ℤ) : IsInteger (intText i) := by
  unfold intText
  split_ifs
  · exact ⟨['-'], _, rfl, .inr rfl, digitsOf_ne_nil _, digits_digitsOf _⟩
  · exact ⟨[], _, rfl, .inl rfl, digitsOf_ne_nil _, digits_digitsOf _⟩

theorem fixed_positional (s : Scaled) : Fixed (positional s) := by
  have hdigits := digits_digitsOf s.digits
  have hne := digitsOf_ne_nil s.digits
  unfold positional
  dsimp only
  split_ifs with hpower hplaces
  · exact .whole (List.append_ne_nil_of_left_ne_nil hne _) (hdigits.append (digits_zeros _))
  · -- the point stands among the digits
    refine .point ?_ ?_ (fun c hc => hdigits c (List.mem_of_mem_take hc))
      fun c hc => hdigits c (List.mem_of_mem_drop hc)
    · rw [← List.length_pos_iff, List.length_take]
      omega
    · rw [← List.length_pos_iff, List.length_drop]
      omega
  · refine @Fixed.point ['0'] _ (List.cons_ne_nil _ _) ?_ (digits_zeros 1)
      ((digits_zeros _).append hdigits)
    exact List.append_ne_nil_of_right_ne_nil _ hne

/-- With one digit before the point, a number is a significand and a power of ten. -/
theorem exists_scientific (s : Scaled) :
    ∃ significand exponent, scientific s = significand ++ exponent ∧ Significand significand ∧
      Exponent exponent := by
  obtain ⟨d, ds, hcons⟩ := List.exists_cons_of_ne_nil (digitsOf_ne_nil s.digits)
  have hdigits : Digits (d :: ds) := hcons ▸ digits_digitsOf s.digits
  have hd : Digits [d] := fun c hc => hdigits c (by simp [List.mem_singleton.mp hc])
  have hds : Digits ds := fun c hc => hdigits c (List.mem_cons_of_mem _ hc)
  have hexponent : ∀ power : ℤ, Exponent ('e' :: (if power < 0 then '-' else '+') ::
      digitsOf power.natAbs) := by
    intro power
    have hsign : [if power < 0 then '-' else '+'] = ['+'] ∨
        [if power < 0 then '-' else '+'] = ['-'] := by
      split_ifs
      · exact .inr rfl
      · exact .inl rfl
    exact .some (.inl rfl) (.inr hsign) (digitsOf_ne_nil _) (digits_digitsOf _)
  unfold scientific
  rw [hcons]
  cases ds with
  | nil => exact ⟨[d], _, rfl, .whole (List.cons_ne_nil _ _) hd, hexponent _⟩
  | cons d' ds' =>
    exact ⟨[d] ++ '.' :: d' :: ds', _, rfl, .point (.inl (List.cons_ne_nil _ _)) hd hds,
      hexponent _⟩

/-! ### Finite numbers -/

/-- What bits stand for is no infinity and is a number. -/
def Parts.IsFinite (p : Parts) : Prop :=
  ∃ negative m q narrow, p = .finite negative m q narrow

theorem Double.parts_isFinite {x : Double} (h : x.isFinite = true) : x.parts.IsFinite := by
  rw [Double.isFinite] at h
  cases hparts : x.parts with
  | finite negative m q narrow => exact ⟨negative, m, q, narrow, rfl⟩
  | infinite negative =>
    rw [hparts] at h
    exact absurd h nofun
  | nan =>
    rw [hparts] at h
    exact absurd h nofun

end Dynamo.Decimal

/-! ### Numbers of JSON -/

namespace Dynamo.JsonNumber

open Decimal

/-- The number is no infinity; no JSON text holds one. -/
def IsFinite : JsonNumber → Prop
  | .int _ => True
  | .float x => x.isFinite = true

/-- A binary number in JSON has its digits at their places, or an exponent. -/
theorem exists_shortestText (s : Scaled) :
    ∃ significand exponent, shortestText s = significand ++ exponent ∧ Significand significand ∧
      Exponent exponent := by
  unfold shortestText
  split_ifs with hpositional hpower
  · refine ⟨positional s ++ ['.', '0'], [], by rw [List.append_nil], ?_, .none⟩
    have hdigits : positional s = digitsOf s.digits ++ List.replicate s.power.toNat '0' := by
      unfold positional
      exact if_pos hpower
    rw [hdigits]
    exact .point (.inr (List.cons_ne_nil _ _)) ((digits_digitsOf _).append (digits_zeros _))
      (digits_zeros 1)
  · exact ⟨positional s, [], by rw [List.append_nil], (fixed_positional s).significand, .none⟩
  · exact exists_scientific s

/-- **The numbers of JSON are decimal texts.** -/
theorem isText_chars {k : JsonNumber} (h : k.IsFinite) : IsText k.chars := by
  cases k with
  | int i => exact (isInteger_intText i).isFixed.isText
  | float x =>
    obtain ⟨negative, m, q, narrow, hparts⟩ := Double.parts_isFinite h
    rw [chars, hparts]
    dsimp only
    split_ifs
    · have hzero : Fixed ['0', '.', '0'] :=
        @Fixed.point ['0'] ['0'] nofun nofun (digits_zeros 1) (digits_zeros 1)
      exact (isFixed_signed hzero negative).isText
    · obtain ⟨s, e, htext, hs, he⟩ := exists_shortestText (shortest tie m q narrow)
      obtain ⟨minus, hsigned, hminus⟩ := exists_signed negative (s ++ e)
      rw [htext, hsigned]
      exact ⟨minus, s, e, rfl, hminus, hs, he⟩

end Dynamo.JsonNumber
