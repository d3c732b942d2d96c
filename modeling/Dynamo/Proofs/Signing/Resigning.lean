import Dynamo.Proofs.Signing.Verification

/-! # Signing again

Signing changes the headers before it can fail, so what a failed signing leaves is not what it was
given. It does not matter for a later one: the headers that a signature covers are the same, whether an
earlier signing succeeded, failed or never was (`stamped_left`), and on nothing else of the headers
does signing depend. -/

namespace Dynamo.Headers

/-- Of two settings of a header, the later one counts. -/
theorem insert_insert (name : String) (value value' : Bytes) (hs : Headers) :
    (hs.insert name value).insert name value' = hs.insert name value' := by
  rw [insert, remove_insert_self, ← insert]

theorem ne_of_mem_remove {name : String} {hs : Headers} {h : String × Bytes}
    (hmem : h ∈ hs.remove name) : h.1 ≠ lowerAscii name := by
  simpa using (List.mem_filter.mp hmem).2

end Dynamo.Headers

namespace Dynamo.Signature

variable {t : Target} {c : Credentials} {now : Instant} {hs : Headers}

/-! ### What signing leaves -/

/-- Setting the time never fails. -/
theorem value?_basicText (now : Instant) :
    Headers.value? now.basicText = some (.ofString now.basicText) := by
  have hpadded : ∀ width n, ∀ x ∈ Clock.padded width n, Headers.Printable x :=
    fun _ _ _ hx => Headers.printable_of_isDigit (isDigit_of_mem_padded hx)
  refine Headers.value?_of_printable fun x hx => ?_
  rw [Instant.basicText, String.toList_ofList, Clock.basicChars] at hx
  simp only [List.mem_append, List.mem_cons, List.not_mem_nil, or_false] at hx
  rcases hx with (((hx | rfl | hx) | hx) | hx) | rfl
  · exact printable_of_mem_basicDateChars hx
  · decide
  · exact hpadded _ _ x hx
  · exact hpadded _ _ x hx
  · exact hpadded _ _ x hx
  · decide

/-- What is left is what a signature covers, with the signature or without any. -/
theorem sign_cases (t : Target) (c : Credentials) (now : Instant) (hs : Headers) :
    (∃ value, sign t c now hs =
      (.ok (), (stamped now.basicText hs).insert authorizationHeader value)) ∨
    ∃ e, sign t c now hs = (.error e, stamped now.basicText hs) := by
  rw [sign]
  cases Canonical.ofHeaders (stamped now.basicText hs) with
  | error e => exact .inr ⟨e, rfl⟩
  | ok ch =>
    dsimp only
    cases Headers.value? (authorizationFor t c ch now.basicText now.basicDate) with
    | none => exact .inr ⟨_, rfl⟩
    | some value => exact .inl ⟨value, rfl⟩

/-- Of two times, the later one counts. -/
theorem stamped_stamped (timestamp timestamp' : String) (hs : Headers) :
    stamped timestamp' (stamped timestamp hs) = stamped timestamp' hs := by
  rw [stamped, remove_stamped, stamped, Headers.insert_insert, ← stamped]

theorem stamped_insert_authorization (timestamp : String) (value : Bytes) (hs : Headers) :
    stamped timestamp (hs.insert authorizationHeader value) = stamped timestamp hs := by
  rw [stamped, Headers.remove_insert_self, ← stamped]

/-- **A signature covers the same headers after an earlier signing as without it.** -/
theorem stamped_left (timestamp : String) :
    stamped timestamp (sign t c now hs).2 = stamped timestamp hs := by
  rcases sign_cases t c now hs with ⟨value, h⟩ | ⟨e, h⟩
  · rw [h]
    exact (stamped_insert_authorization _ _ _).trans (stamped_stamped _ _ _)
  · rw [h]
    exact stamped_stamped _ _ _

theorem sign_congr {hs' : Headers} (h : stamped now.basicText hs' = stamped now.basicText hs) :
    sign t c now hs' = sign t c now hs := by
  rw [sign, sign, h]

/-- **Signing again replaces an earlier signature completely.** The time can always be set. Whatever
comes of signing, signing what it leaves at any time has the outcome and leaves the headers that
signing the headers as they were has; and where signing fails, no signature is left. -/
theorem sign_again (t : Target) (c : Credentials) (now : Instant) (hs : Headers) :
    Headers.value? now.basicText = some (.ofString now.basicText) ∧
      (∀ later, sign t c later (sign t c now hs).2 = sign t c later hs) ∧
      ∀ e, (sign t c now hs).1 = .error e →
        ∀ h ∈ (sign t c now hs).2, h.1 ≠ authorizationHeader := by
  refine ⟨value?_basicText now, fun later => sign_congr (stamped_left _), fun e he h hmem => ?_⟩
  rcases sign_cases t c now hs with ⟨value, hok⟩ | ⟨e', hleft⟩
  · rw [hok] at he
    exact absurd he nofun
  · rw [hleft] at hmem
    rw [← remove_stamped] at hmem
    exact Headers.ne_of_mem_remove hmem

/-- Headers with two old signatures and two times, of which one header cannot be signed. -/
theorem sign_again_unsignable :
    let hs : Headers := [("authorization", Bytes.ofString "old"), ("x-amz-date", Bytes.ofString "now"),
      ("host", [0xFF]), ("authorization", Bytes.ofString "older"),
      ("x-amz-date", Bytes.ofString "then")]
    let t : Target := ⟨"POST", "/", "", []⟩
    let c : Credentials := ⟨"us-east-1", "AKID", "secret", "dynamodb"⟩
    (sign t c ⟨0, 0⟩ hs).1 = .error (.unsignableHeader "host") ∧
      ∀ h ∈ (sign t c ⟨0, 0⟩ hs).2, h.1 ≠ authorizationHeader := by
  intro hs t c
  have hfail : (sign t c ⟨0, 0⟩ hs).1 = .error (.unsignableHeader "host") := by cbv
  obtain ⟨-, -, hnone⟩ := sign_again t c ⟨0, 0⟩ hs
  exact ⟨hfail, hnone _ hfail⟩

end Dynamo.Signature
