import Dynamo.Proofs.Except
import Dynamo.Proofs.Requester.Body
import Dynamo.Requester

/-! # What a requester says

The errors of a signed request are those of its making, of the network, of the response and of the
service. Bodies are written before, so that none of them says that a body cannot be written
(`Requester.send_ne_marshal`). -/

namespace Dynamo

open Dynamo.Except

namespace Requester

/-- **A request is sent** if it has headers and these can be signed. -/
theorem post_eq_ok {q : Requester} {now : Instant} {target : String} {body : Bytes}
    {p : SignedPost} :
    q.post now target body = .ok p ↔ ∃ plain signed,
      q.plainHeaders (qualified target) = .ok plain ∧
        Signature.sign ⟨"POST", q.path, q.query, body⟩ q.credentials now plain =
          (.ok (), signed) ∧
        ⟨qualified target, signed, body⟩ = p := by
  unfold post
  constructor
  · intro h
    obtain ⟨plain, hplain, h⟩ := bind_eq_ok.mp h
    rcases hsign : Signature.sign ⟨"POST", q.path, q.query, body⟩ q.credentials now plain with
      ⟨result, signed⟩
    rw [hsign] at h
    obtain ⟨_, hresult, h⟩ := bind_eq_ok.mp h
    rw [mapError_eq_ok.mp hresult] at hsign
    exact ⟨plain, signed, mapError_eq_ok.mp hplain, hsign, pure_eq_ok.mp h⟩
  · rintro ⟨plain, signed, hplain, hsign, rfl⟩
    refine bind_eq_ok.mpr ⟨plain, mapError_eq_ok.mpr hplain, ?_⟩
    rw [hsign]
    rfl

theorem post_ne_marshal (q : Requester) (now : Instant) (target : String) (body : Bytes)
    (cause : EncodeError) : q.post now target body ≠ .error (.marshal cause) := by
  intro h
  rcases bind_eq_error.mp h with hplain | ⟨headers, -, h⟩
  · obtain ⟨cause, -, hcause⟩ := mapError_eq_error.mp hplain
    exact absurd hcause nofun
  · rcases hsign : Signature.sign ⟨"POST", q.path, q.query, body⟩ q.credentials now headers with
      ⟨result, headers'⟩
    rw [hsign] at h
    rcases bind_eq_error.mp h with hresult | ⟨u, -, h⟩
    · obtain ⟨cause, -, hcause⟩ := mapError_eq_error.mp hresult
      exact absurd hcause nofun
    · exact absurd h nofun

theorem conclude_ne_marshal (p : SignedPost) (response : Response) (cause : EncodeError) :
    conclude p response ≠ .error (.marshal cause) := by
  have hread : response.readBody Response.maxSize ≠ .error (.marshal cause) := by
    intro h
    rcases Response.readBody_eq_error h with hcause | ⟨-, hcause⟩
    · exact absurd hcause nofun
    · exact absurd hcause nofun
  intro h
  rcases bind_eq_error.mp h with hbody | ⟨body, -, h⟩
  · exact hread hbody
  · split at h
    · exact absurd h nofun
    · exact absurd (Except.error.inj h) nofun

/-- Whoever makes signed requests never says that a body cannot be written. -/
theorem send_ne_marshal (q : Requester) (network : SignedPost → Option Response) (now : Instant)
    (target : String) (body : Bytes) (cause : EncodeError) :
    (q.send network now target body).2 ≠ .error (.marshal cause) := by
  unfold send
  cases hpost : q.post now target body with
  | error e =>
    intro h
    exact q.post_ne_marshal now target body cause (hpost.trans (Except.error.inj h ▸ rfl))
  | ok p =>
    dsimp only
    cases network p with
    | none => exact nofun
    | some response => exact conclude_ne_marshal p response cause

end Requester

end Dynamo
