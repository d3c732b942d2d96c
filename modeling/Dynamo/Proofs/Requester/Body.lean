import Dynamo.Proofs.Except
import Dynamo.Requester
import Mathlib.Data.List.Basic

/-! # Bodies below a limit

A body arrives in chunks, and each chunk is added to what is held unless the limit would be reached. As
what is held only grows, it is the same to look at its length after each chunk and to look at the length
of the whole: chunks are taken to the end if and only if all of them together stay below the limit
(`Buffer.foldlM_push_eq_ok`). So it does not matter how a body is split, and a true declared length
says in advance what counting finds (`Response.readBody_framing`). -/

namespace Dynamo

open Dynamo.Except

/-! ### What is held -/

namespace Buffer

variable {limit : Nat} {buffer buffer' : Buffer limit}

theorem eq_of_bytes_eq (h : buffer.bytes = buffer'.bytes) : buffer = buffer' := by
  cases buffer
  cases buffer'
  cases h
  rfl

/-- A chunk is taken if there is a buffer that can hold it, too. -/
theorem push_eq_ok {chunk : Bytes} :
    buffer.push chunk = .ok buffer' ↔ buffer'.bytes = buffer.bytes ++ chunk := by
  unfold push
  constructor
  · intro h
    split_ifs at h
    rw [← Except.ok.inj h]
  · intro h
    have hlength : buffer.bytes.length + chunk.length < limit := by
      rw [← List.length_append, ← h]
      exact buffer'.length_lt
    rw [dif_pos hlength]
    exact congrArg Except.ok (eq_of_bytes_eq h.symm)

theorem push_eq_error {chunk : Bytes} {e : Error} (h : buffer.push chunk = .error e) :
    e = .responseTooLarge limit := by
  unfold push at h
  split_ifs at h
  exact (Except.error.inj h).symm

/-- **Chunks are taken** if and only if there is a buffer that can hold all of them. -/
theorem foldlM_push_eq_ok {chunks : List Bytes} :
    chunks.foldlM push buffer = .ok buffer' ↔ buffer'.bytes = buffer.bytes ++ chunks.flatten := by
  induction chunks generalizing buffer with
  | nil =>
    rw [List.foldlM_nil, pure_eq_ok, List.flatten_nil, List.append_nil]
    exact ⟨fun h => h ▸ rfl, fun h => (eq_of_bytes_eq h).symm⟩
  | cons chunk chunks ih =>
    rw [List.foldlM_cons, bind_eq_ok, List.flatten_cons, ← List.append_assoc]
    constructor
    · rintro ⟨between, hpush, hrest⟩
      rw [← push_eq_ok.mp hpush]
      exact ih.mp hrest
    · intro h
      -- what is held on the way is no longer than what is held at the end
      have hlength : (buffer.bytes ++ chunk).length < limit := by
        have hlast := buffer'.length_lt
        rw [h, List.length_append] at hlast
        omega
      exact ⟨⟨_, hlength⟩, push_eq_ok.mpr rfl, ih.mpr h⟩

theorem foldlM_push_eq_error {chunks : List Bytes} {e : Error}
    (h : chunks.foldlM push buffer = .error e) : e = .responseTooLarge limit := by
  induction chunks generalizing buffer with
  | nil => exact absurd h nofun
  | cons chunk chunks ih =>
    rw [List.foldlM_cons] at h
    rcases bind_eq_error.mp h with hpush | ⟨between, -, hrest⟩
    · exact push_eq_error hpush
    · exact ih hrest

/-- Chunks are refused if and only if they reach the limit together. -/
theorem foldlM_push_empty_eq_error {chunks : List Bytes} (h : 0 < limit) :
    chunks.foldlM push (empty h) = .error (.responseTooLarge limit) ↔
      limit ≤ chunks.flatten.length := by
  constructor
  · intro herror
    refine Nat.not_lt.mp fun hlength => ?_
    have hok : chunks.foldlM push (empty h) = .ok ⟨chunks.flatten, hlength⟩ :=
      foldlM_push_eq_ok.mpr rfl
    rw [hok] at herror
    exact absurd herror nofun
  · intro hlength
    cases hread : chunks.foldlM push (empty h) with
    | error e => rw [foldlM_push_eq_error hread]
    | ok buffer =>
      have hbytes : buffer.bytes = chunks.flatten := foldlM_push_eq_ok.mp hread
      have hlt := buffer.length_lt
      rw [hbytes] at hlt
      exact absurd hlt (Nat.not_lt.mpr hlength)

end Buffer

/-! ### Bodies -/

namespace Response

variable {limit : Nat} {r : Response}

theorem readBody_eq_ok {body : Bytes} :
    r.readBody limit = .ok body ↔
      (r.declaredLength.getD 0 < limit ∧ r.chunks.flatten.length < limit) ∧ r.isComplete = true ∧
        body = r.chunks.flatten := by
  unfold readBody
  constructor
  · intro h
    by_cases hdeclared : r.declaredLength.getD 0 < limit
    swap
    · rw [dif_neg hdeclared] at h
      exact absurd h nofun
    rw [dif_pos hdeclared] at h
    obtain ⟨buffer, hread, h⟩ := bind_eq_ok.mp h
    have hbytes : buffer.bytes = r.chunks.flatten := Buffer.foldlM_push_eq_ok.mp hread
    split_ifs at h with hcomplete
    refine ⟨⟨hdeclared, ?_⟩, hcomplete, ?_⟩
    · rw [← hbytes]
      exact buffer.length_lt
    · rw [← hbytes]
      exact (Except.ok.inj h).symm
  · rintro ⟨⟨hdeclared, hlength⟩, hcomplete, rfl⟩
    rw [dif_pos hdeclared]
    refine bind_eq_ok.mpr ⟨⟨_, hlength⟩, Buffer.foldlM_push_eq_ok.mpr rfl, ?_⟩
    rw [if_pos hcomplete]

theorem readBody_eq_error {e : Error} (h : r.readBody limit = .error e) :
    e = .responseTooLarge limit ∨ r.isComplete = false ∧ e = .transport := by
  unfold readBody at h
  by_cases hdeclared : r.declaredLength.getD 0 < limit
  · rw [dif_pos hdeclared] at h
    rcases bind_eq_error.mp h with hread | ⟨buffer, -, h⟩
    · exact .inl (Buffer.foldlM_push_eq_error hread)
    · split_ifs at h with hcomplete
      exact .inr ⟨by simpa using hcomplete, (Except.error.inj h).symm⟩
  · rw [dif_neg hdeclared] at h
    exact .inl (Except.error.inj h).symm

/-- A body that arrives up to its end is read, or it is too large. -/
theorem readBody_of_isComplete (h : r.isComplete = true) :
    r.readBody limit =
      if r.declaredLength.getD 0 < limit ∧ r.chunks.flatten.length < limit then
        .ok r.chunks.flatten
      else .error (.responseTooLarge limit) := by
  split_ifs with hbelow
  · exact readBody_eq_ok.mpr ⟨hbelow, h, rfl⟩
  · cases hread : r.readBody limit with
    | ok body => exact absurd (readBody_eq_ok.mp hread).1 hbelow
    | error e =>
      rcases readBody_eq_error hread with rfl | ⟨hbroken, -⟩
      · rfl
      · exact absurd h (by simp [hbroken])

/-- **The limit does not depend on framing.** A body that arrives up to its end is read whole if and
only if both its declared length, zero if there is none, and its length are below the limit, and it is
too large otherwise; fewer bytes than the limit are held after any number of chunks. So equal bodies
with equal declared lengths are read alike, however they are split, and a declared length that is true
changes nothing: it reaches the limit if and only if counting finds that the chunks do. -/
theorem readBody_framing (limit : Nat) (r : Response) (h : r.isComplete = true) :
    (∀ body, r.readBody limit = .ok body ↔
      (r.declaredLength.getD 0 < limit ∧ r.chunks.flatten.length < limit) ∧
        body = r.chunks.flatten) ∧
    (¬ (r.declaredLength.getD 0 < limit ∧ r.chunks.flatten.length < limit) →
      r.readBody limit = .error (.responseTooLarge limit)) ∧
    (∀ (hpos : 0 < limit) (n : ℕ) (buffer : Buffer limit),
      (r.chunks.take n).foldlM Buffer.push (.empty hpos) = .ok buffer →
        buffer.bytes = (r.chunks.take n).flatten ∧ buffer.bytes.length < limit) ∧
    (∀ r' : Response, r'.isComplete = true → r'.declaredLength = r.declaredLength →
      r'.chunks.flatten = r.chunks.flatten → r'.readBody limit = r.readBody limit) ∧
    (r.declaredLength = some r.chunks.flatten.length →
      r.readBody limit = { r with declaredLength := none }.readBody limit ∧
      ∀ hpos : 0 < limit, limit ≤ r.declaredLength.getD 0 ↔
        r.chunks.foldlM Buffer.push (.empty hpos) = .error (.responseTooLarge limit)) := by
  refine ⟨fun body => ?_, fun hbelow => ?_, fun hpos n buffer hread => ?_,
    fun r' h' hdeclared hchunks => ?_, fun hdeclared => ⟨?_, fun hpos => ?_⟩⟩
  · rw [readBody_eq_ok, and_iff_right h]
  · rw [readBody_of_isComplete h, if_neg hbelow]
  · exact ⟨Buffer.foldlM_push_eq_ok.mp hread, buffer.length_lt⟩
  · rw [readBody_of_isComplete h, readBody_of_isComplete h', hdeclared, hchunks]
  · have hbelow : (r.chunks.flatten.length < limit ∧ r.chunks.flatten.length < limit) ↔
        (0 < limit ∧ r.chunks.flatten.length < limit) := by omega
    rw [readBody_of_isComplete h, readBody_of_isComplete (by exact h), hdeclared]
    exact if_congr hbelow rfl rfl
  · rw [Buffer.foldlM_push_empty_eq_error, hdeclared]
    rfl

/-- Four bytes are too many where four is the limit, and three are not, with an empty chunk or none
between them. -/
theorem readBody_framing_four :
    (readBody 4 ⟨200, none, [[1, 2], [], [3]], true⟩ = .ok [1, 2, 3] ∧
      readBody 4 ⟨200, none, [[1, 2, 3], [4]], true⟩ = .error (.responseTooLarge 4)) ∧
    readBody 4 ⟨200, some 3, [[1, 2, 3]], true⟩ = readBody 4 ⟨200, some 3, [[1], [2, 3]], true⟩ ∧
    readBody 4 ⟨200, some 4, [[1, 2, 3], [4]], true⟩ =
      readBody 4 ⟨200, none, [[1, 2, 3], [4]], true⟩ := by
  refine ⟨⟨?_, ?_⟩, ?_, ?_⟩
  · exact ((readBody_framing 4 ⟨200, none, [[1, 2], [], [3]], true⟩ rfl).1 _).mpr (by decide)
  · exact (readBody_framing 4 ⟨200, none, [[1, 2, 3], [4]], true⟩ rfl).2.1 (by decide)
  · exact (readBody_framing 4 ⟨200, some 3, [[1], [2, 3]], true⟩ rfl).2.2.2.1
      ⟨200, some 3, [[1, 2, 3]], true⟩ rfl rfl rfl
  · exact ((readBody_framing 4 ⟨200, some 4, [[1, 2, 3], [4]], true⟩ rfl).2.2.2.2 rfl).1

end Response

end Dynamo
