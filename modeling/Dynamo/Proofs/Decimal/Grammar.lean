import Dynamo.Decimal.Literal
import Dynamo.Proofs.Text.Joined

/-! # The grammar of decimal texts

With `D` for a digit, decimal texts are `-?(D+(.D*)?|.D+)([eE][+-]?D+)?`: an optional minus, a
significand and an optional exponent. `Literal.ofChars?` takes a text apart from the left, always as
many digits as there are. As no exponent begins with a digit or a point, this finds the parts of every
decimal text (`Literal.isSome_ofChars?_iff`). -/

namespace Dynamo.Decimal

def Digits (cs : List Char) : Prop := ∀ c ∈ cs, c.isDigit = true

/-- `D+(.D*)?|.D+` -/
inductive Significand : List Char → Prop
  | whole {ds : List Char} (hne : ds ≠ []) (hds : Digits ds) : Significand ds
  | point {ds es : List Char} (hne : ds ≠ [] ∨ es ≠ []) (hds : Digits ds) (hes : Digits es) :
    Significand (ds ++ '.' :: es)

/-- `([eE][+-]?D+)?` -/
inductive Exponent : List Char → Prop
  | none : Exponent []
  | some {c : Char} {sign ds : List Char} (hc : c = 'e' ∨ c = 'E')
    (hsign : sign = [] ∨ sign = ['+'] ∨ sign = ['-']) (hne : ds ≠ []) (hds : Digits ds) :
    Exponent (c :: (sign ++ ds))

/-- **A decimal text**: an optional minus, a significand and an optional exponent. -/
def IsText (cs : List Char) : Prop :=
  ∃ minus s e, cs = minus ++ (s ++ e) ∧ (minus = [] ∨ minus = ['-']) ∧ Significand s ∧ Exponent e

/-! ### Where parts end -/

theorem digits_takeWhile (cs : List Char) : Digits (cs.takeWhile Char.isDigit) :=
  fun _ hc => List.mem_takeWhile_imp hc

/-- What follows is no digit. -/
def NoDigitHead (cs : List Char) : Prop := ∀ c r, cs = c :: r → c.isDigit = false

theorem takeWhile_append_of_noDigitHead {ds r : List Char} (hds : Digits ds) (hr : NoDigitHead r) :
    (ds ++ r).takeWhile Char.isDigit = ds ∧ (ds ++ r).dropWhile Char.isDigit = r := by
  refine Text.takeWhile_append_of_stop hds fun c hc => ?_
  obtain ⟨r', rfl⟩ := List.head?_eq_some_iff.mp hc
  exact hr c r' rfl

theorem Exponent.noDigitHead {e : List Char} (h : Exponent e) : NoDigitHead e := by
  rintro c r rfl
  cases h with
  | some hc => rcases hc with rfl | rfl <;> decide

theorem Exponent.ne_point {e : List Char} (h : Exponent e) (r : List Char) : e ≠ '.' :: r := by
  rintro rfl
  cases h with
  | some hc => rcases hc with hc | hc <;> exact absurd hc (by decide)

theorem Significand.ne_minus {s : List Char} (h : Significand s) (r r' : List Char) :
    s ++ r ≠ '-' :: r' := by
  have hdigits : ∀ ds : List Char, Digits ds → ds ≠ [] → ∀ t, ds ++ t ≠ '-' :: r' := by
    rintro ds hds hne t heq
    obtain ⟨c, ds, rfl⟩ := List.exists_cons_of_ne_nil hne
    obtain ⟨rfl, -⟩ := List.cons.inj heq
    exact absurd (hds '-' List.mem_cons_self) (by decide)
  cases h with
  | whole hne hds => exact hdigits s hds hne r
  | @point ds es hne hds hes =>
    by_cases hnil : ds = []
    · subst hnil
      exact fun heq => absurd (List.cons.inj heq).1 (by decide)
    · rw [List.append_assoc]
      exact hdigits ds hds hnil _

namespace Literal

/-! ### Taking apart -/

theorem isSome_exponentOf?_sign {c d : Char} (hc : c = 'e' ∨ c = 'E') (hd : d = '+' ∨ d = '-')
    (ds : List Char) : (exponentOf? (c :: d :: ds)).isSome ↔ ds ≠ [] ∧ Digits ds := by
  rcases hd with rfl | rfl
  · simp [exponentOf?, hc, Digits]
  · simp [exponentOf?, hc, Digits]

theorem isSome_exponentOf?_digits {c : Char} (hc : c = 'e' ∨ c = 'E') {ds : List Char}
    (hds : ∀ d r, ds = d :: r → ¬ (d = '+' ∨ d = '-')) :
    (exponentOf? (c :: ds)).isSome ↔ ds ≠ [] ∧ Digits ds := by
  cases ds with
  | nil => simp [exponentOf?]
  | cons d r =>
    obtain ⟨hplus, hminus⟩ := not_or.mp (hds d r rfl)
    simp [exponentOf?, hc, hplus, hminus, Digits]

theorem isSome_exponentOf?_iff {e : List Char} : (exponentOf? e).isSome ↔ Exponent e := by
  constructor
  · intro h
    rcases e with _ | ⟨c, cs⟩
    · exact .none
    by_cases hc : c = 'e' ∨ c = 'E'
    · by_cases hsign : ∃ d r, cs = d :: r ∧ (d = '+' ∨ d = '-')
      · obtain ⟨d, ds, rfl, hd⟩ := hsign
        obtain ⟨hne, hds⟩ := (isSome_exponentOf?_sign hc hd ds).mp h
        have hd' : [d] = ['+'] ∨ [d] = ['-'] := by
          rcases hd with rfl | rfl
          · exact .inl rfl
          · exact .inr rfl
        exact .some hc (.inr hd') hne hds
      · have hhead : ∀ d r, cs = d :: r → ¬ (d = '+' ∨ d = '-') :=
          fun d r heq hd => hsign ⟨d, r, heq, hd⟩
        obtain ⟨hne, hds⟩ := (isSome_exponentOf?_digits hc hhead).mp h
        exact .some hc (.inl rfl) hne hds
    · rw [exponentOf?.eq_def] at h
      simp [hc] at h
  · rintro (_ | ⟨hc, rfl | rfl | rfl, hne, hds⟩)
    · rfl
    · refine (isSome_exponentOf?_digits hc ?_).mpr ⟨hne, hds⟩
      rintro d r rfl hd
      have hdigit := hds d List.mem_cons_self
      rcases hd with rfl | rfl
      · exact absurd hdigit (by decide)
      · exact absurd hdigit (by decide)
    · exact (isSome_exponentOf?_sign hc (.inl rfl) _).mpr ⟨hne, hds⟩
    · exact (isSome_exponentOf?_sign hc (.inr rfl) _).mpr ⟨hne, hds⟩

theorem fractionOf_of_ne_point {cs : List Char} (h : ∀ r, cs ≠ '.' :: r) :
    fractionOf cs = (none, cs) := by
  unfold fractionOf
  split
  · next r => exact absurd rfl (h r)
  · rfl

/-- A text without a minus is taken apart into digits, a fraction and an exponent. -/
theorem isSome_ofUnsigned?_eq (negative : Bool) (cs : List Char) :
    (ofUnsigned? negative cs).isSome ↔
      ¬ (cs.takeWhile Char.isDigit = [] ∧
        (fractionOf (cs.dropWhile Char.isDigit)).1.getD [] = []) ∧
      Exponent (fractionOf (cs.dropWhile Char.isDigit)).2 := by
  rw [← isSome_exponentOf?_iff]
  unfold ofUnsigned?
  dsimp only
  split
  · next h => simp [h]
  · next h => rw [Option.isSome_map, and_iff_right h]

theorem isSome_ofUnsigned?_iff {negative : Bool} {cs : List Char} :
    (ofUnsigned? negative cs).isSome ↔ ∃ s e, cs = s ++ e ∧ Significand s ∧ Exponent e := by
  rw [isSome_ofUnsigned?_eq]
  constructor
  · rintro ⟨hne, he⟩
    have hds := digits_takeWhile cs
    have hcs := List.takeWhile_append_dropWhile (p := Char.isDigit) (l := cs)
    by_cases hpoint : ∃ r, cs.dropWhile Char.isDigit = '.' :: r
    · obtain ⟨r, hr⟩ := hpoint
      have hes := digits_takeWhile r
      have hrest := List.takeWhile_append_dropWhile (p := Char.isDigit) (l := r)
      rw [hr] at hcs hne he
      have hsignificand := Significand.point (not_and_or.mp hne) hds hes
      refine ⟨_, _, ?_, hsignificand, he⟩
      rw [List.append_assoc, List.cons_append]
      show cs = _ ++ '.' :: (r.takeWhile Char.isDigit ++ r.dropWhile Char.isDigit)
      rw [hrest, hcs]
    · rw [fractionOf_of_ne_point (not_exists.mp hpoint)] at hne he
      exact ⟨_, _, hcs.symm, .whole (fun h => hne ⟨h, rfl⟩) hds, he⟩
  · rintro ⟨s, e, rfl, hs, he⟩
    cases hs with
    | whole hne hds =>
      obtain ⟨htake, hdrop⟩ := takeWhile_append_of_noDigitHead hds he.noDigitHead
      rw [htake, hdrop, fractionOf_of_ne_point he.ne_point]
      exact ⟨fun h => hne h.1, he⟩
    | @point ds es hne hds hes =>
      have hhead : NoDigitHead ('.' :: (es ++ e)) := by
        rintro c r heq
        rw [← (List.cons.inj heq).1]
        decide
      obtain ⟨htake, hdrop⟩ := takeWhile_append_of_noDigitHead hds hhead
      obtain ⟨htake', hdrop'⟩ := takeWhile_append_of_noDigitHead hes he.noDigitHead
      rw [List.append_assoc, List.cons_append, htake, hdrop, fractionOf, htake', hdrop']
      exact ⟨not_and_or.mpr hne, he⟩

/-- **The texts that can be taken apart are the decimal texts.** -/
theorem isSome_ofChars?_iff {cs : List Char} : (ofChars? cs).isSome ↔ IsText cs := by
  constructor
  · intro h
    unfold ofChars? at h
    split at h
    · obtain ⟨s, e, rfl, hs, he⟩ := isSome_ofUnsigned?_iff.mp h
      exact ⟨['-'], s, e, rfl, .inr rfl, hs, he⟩
    · obtain ⟨s, e, rfl, hs, he⟩ := isSome_ofUnsigned?_iff.mp h
      exact ⟨[], s, e, rfl, .inl rfl, hs, he⟩
  · rintro ⟨minus, s, e, rfl, rfl | rfl, hs, he⟩
    · have hunsigned : (ofUnsigned? false (s ++ e)).isSome :=
        isSome_ofUnsigned?_iff.mpr ⟨s, e, rfl, hs, he⟩
      unfold ofChars?
      split
      · next heq => exact absurd heq (hs.ne_minus e _)
      · exact hunsigned
    · exact isSome_ofUnsigned?_iff.mpr ⟨s, e, rfl, hs, he⟩

end Literal

end Dynamo.Decimal
