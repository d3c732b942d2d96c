import Dynamo.Decimal.Literal
import Dynamo.Decimal.Text

/-! # Written numbers are decimal texts

* `Literal.isSome_ofChars?_intText`: the text of an integer is in the grammar.
* `Literal.isSome_ofChars?_positional`: so is a decimal with its digits at their places. -/

namespace Dynamo.Decimal

/-- The text of a sign and of what follows. -/
def signed (negative : Bool) (cs : List Char) : List Char := if negative then '-' :: cs else cs

theorem isDigit_of_mem_digitsOf {n : Nat} {c : Char} (h : c ∈ digitsOf n) : c.isDigit :=
  Nat.isDigit_of_mem_toDigits (by decide) (by decide) h

theorem digitsOf_ne_nil (n : Nat) : digitsOf n ≠ [] := Nat.toDigits_ne_nil

namespace Literal

theorem takeWhile_digits {cs : List Char} (h : ∀ c ∈ cs, c.isDigit) :
    cs.takeWhile Char.isDigit = cs := by
  simpa using @List.takeWhile_append_of_pos _ _ cs [] h

theorem dropWhile_digits {cs : List Char} (h : ∀ c ∈ cs, c.isDigit) :
    cs.dropWhile Char.isDigit = [] := by
  simpa using @List.dropWhile_append_of_pos _ _ cs [] h

theorem takeWhile_digits_point {cs ds : List Char} (h : ∀ c ∈ cs, c.isDigit) :
    (cs ++ '.' :: ds).takeWhile Char.isDigit = cs := by
  rw [List.takeWhile_append_of_pos h, List.takeWhile_cons_of_neg (by decide), List.append_nil]

theorem dropWhile_digits_point {cs ds : List Char} (h : ∀ c ∈ cs, c.isDigit) :
    (cs ++ '.' :: ds).dropWhile Char.isDigit = '.' :: ds := by
  rw [List.dropWhile_append_of_pos h, List.dropWhile_cons_of_neg (by decide)]

theorem isSome_ofUnsigned?_digits {cs : List Char} (hne : cs ≠ []) (h : ∀ c ∈ cs, c.isDigit)
    (negative : Bool) : (ofUnsigned? negative cs).isSome := by
  simp [ofUnsigned?, takeWhile_digits h, dropWhile_digits h, hne, fractionOf, exponentOf?]

theorem isSome_ofUnsigned?_point {cs ds : List Char} (hne : cs ≠ []) (hc : ∀ c ∈ cs, c.isDigit)
    (hd : ∀ c ∈ ds, c.isDigit) (negative : Bool) :
    (ofUnsigned? negative (cs ++ '.' :: ds)).isSome := by
  simp [ofUnsigned?, takeWhile_digits_point hc, dropWhile_digits_point hc, hne, fractionOf,
    takeWhile_digits hd, dropWhile_digits hd, exponentOf?]

theorem ofChars?_of_isDigit {c : Char} {cs : List Char} (h : c.isDigit) :
    ofChars? (c :: cs) = ofUnsigned? false (c :: cs) := by
  have hc : c ≠ '-' := by rintro rfl; exact absurd h (by decide)
  simp [ofChars?, hc]

theorem ofChars?_signed {negative : Bool} {cs : List Char} (h : ∃ c r, cs = c :: r ∧ c.isDigit) :
    ofChars? (signed negative cs) = ofUnsigned? negative cs := by
  obtain ⟨c, r, rfl, hc⟩ := h
  cases negative
  · exact ofChars?_of_isDigit hc
  · rfl

theorem exists_cons_of_digits {cs ds : List Char} (hne : cs ≠ []) (h : ∀ c ∈ cs, c.isDigit) :
    ∃ c r, cs ++ ds = c :: r ∧ c.isDigit := by
  cases cs with
  | nil => exact absurd rfl hne
  | cons c r => exact ⟨c, r ++ ds, rfl, h c List.mem_cons_self⟩

theorem isSome_ofChars?_digits {cs : List Char} (hne : cs ≠ []) (h : ∀ c ∈ cs, c.isDigit)
    (negative : Bool) : (ofChars? (signed negative cs)).isSome := by
  have hhead : ∃ c r, cs = c :: r ∧ c.isDigit := by simpa using @exists_cons_of_digits cs [] hne h
  rw [ofChars?_signed hhead]
  exact isSome_ofUnsigned?_digits hne h negative

theorem isSome_ofChars?_point {cs ds : List Char} (hne : cs ≠ []) (hc : ∀ c ∈ cs, c.isDigit)
    (hd : ∀ c ∈ ds, c.isDigit) (negative : Bool) :
    (ofChars? (signed negative (cs ++ '.' :: ds))).isSome := by
  rw [ofChars?_signed (exists_cons_of_digits hne hc)]
  exact isSome_ofUnsigned?_point hne hc hd negative

/-- The text of an integer is a decimal text. -/
theorem isSome_ofChars?_intText (i : Int) : (ofChars? (intText i)).isSome := by
  have h := isSome_ofChars?_digits (digitsOf_ne_nil i.natAbs)
    (fun _ h => isDigit_of_mem_digitsOf h) (decide (i < 0))
  by_cases hi : i < 0 <;> simpa [intText, signed, hi] using h

/-- A decimal with its digits at their places is a decimal text. -/
theorem isSome_ofChars?_positional (negative : Bool) (s : Scaled) :
    (ofChars? (signed negative (positional s))).isSome := by
  have hdigits : ∀ c ∈ digitsOf s.digits, c.isDigit := fun _ h => isDigit_of_mem_digitsOf h
  have hzeros (n : Nat) : ∀ c ∈ List.replicate n '0', c.isDigit := fun c h => by
    rw [(List.mem_replicate.1 h).2]; decide
  unfold positional
  dsimp only
  split
  · refine isSome_ofChars?_digits ?_ ?_ negative
    · simp [digitsOf_ne_nil]
    · intro c h
      rcases List.mem_append.1 h with h | h
      · exact hdigits c h
      · exact hzeros _ c h
  · split
    · next hlt =>
      refine isSome_ofChars?_point ?_ (fun c h => hdigits c (List.mem_of_mem_take h))
        (fun c h => hdigits c (List.mem_of_mem_drop h)) negative
      intro h
      have := congrArg List.length h
      simp at this
      omega
    · refine @isSome_ofChars?_point ['0'] _ (by simp) (by simp) ?_ negative
      intro c h
      rcases List.mem_append.1 h with h | h
      · exact hzeros _ c h
      · exact hdigits c h

end Literal

end Dynamo.Decimal
