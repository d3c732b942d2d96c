import Dynamo.Config
import Dynamo.Proofs.Endpoint.Uri
import Dynamo.Requester

/-! # Which endpoints are accepted

An endpoint is read twice: when it is brought into its usual form, and when a requester is made for it.
The second reading gives the parts of the first one, with a path (`Endpoint.ofString?_normalize`),
unless the added path makes the text too long. The first reading looks for a scheme and an authority,
the second one only for an authority, so that a host without a scheme is accepted as it is. -/

namespace Dynamo

/-! ### The path of a request -/

namespace Uri

theorem requestPath_of_nil {u : Uri} (h : u.path.toList = []) : u.requestPath = "/" := by
  have hpath : u.path = "" := String.toList_injective h
  rw [requestPath, hpath]
  rfl

theorem requestPath_of_cons {u : Uri} {c : Char} {cs : List Char} (h : u.path.toList = c :: cs) :
    u.requestPath = u.path := by
  rw [requestPath, if_neg]
  rw [String.isEmpty_iff]
  intro hempty
  rw [hempty] at h
  exact absurd h nofun

/-- An absolute URI keeps its parts when it is given a path. -/
theorem IsAbsolute.requestPath {scheme authority : List Char} {query : Option (List Char)} {u : Uri}
    (h : IsAbsolute scheme authority u.path.toList query) :
    IsAbsolute scheme authority u.requestPath.toList query := by
  rcases hpath : u.path.toList with - | ⟨c, cs⟩
  · rw [requestPath_of_nil hpath]
    exact { h with
      path_chars := Text.forall_mem_of_all (by decide)
      path_head := by rintro c ⟨⟩; rfl }
  · rw [requestPath_of_cons hpath]
    exact h

theorem requestPath_idem (u : Uri) :
    Uri.requestPath { u with path := u.requestPath } = u.requestPath := by
  rcases hpath : u.path.toList with - | ⟨c, cs⟩
  · rw [requestPath_of_nil hpath]
    rfl
  · rw [requestPath_of_cons hpath]
    exact requestPath_of_cons hpath

theorem size_le_of_ofString? {text : String} {u : Uri} (h : ofString? text = some u) :
    text.utf8ByteSize ≤ maxLength := by
  refine Nat.not_lt.mp fun hlong => ?_
  rw [ofString?, if_pos hlong] at h
  exact absurd h nofun

theorem isAbsolute_of_ofString? {text scheme authority : String} {u : Uri}
    (h : ofString? text = some u) (hscheme : u.scheme = some scheme)
    (hauthority : u.authority = some authority) :
    IsAbsolute scheme.toList authority.toList u.path.toList (u.query.map String.toList) := by
  unfold ofString? at h
  split_ifs at h
  have hparts : ofChars? text.toList = some ⟨some scheme, some authority, u.path, u.query⟩ := by
    rw [h, ← hscheme, ← hauthority]
  exact isAbsolute_of_ofChars? hparts

end Uri

/-! ### The usual form -/

namespace Endpoint

variable {text scheme authority : String} {u : Uri}

theorem toList_queryText (u : Uri) :
    u.queryText.toList = Uri.queryChars (u.query.map String.toList) := by
  unfold Uri.queryText
  cases u.query with
  | none => rfl
  | some q => exact String.toList_append

theorem toList_absolute (h : ∀ c ∈ u.path.toList.head?, c = '/') :
    (absolute scheme authority u).toList =
      Uri.written scheme.toList authority.toList u.requestPath.toList
        (u.query.map String.toList) := by
  have hpath : (if u.path.toList.head? = some '/' then u.path else "/" ++ u.path) =
      u.requestPath := by
    rcases hchars : u.path.toList with - | ⟨c, cs⟩
    · have hpath : u.path = "" := String.toList_injective hchars
      rw [Uri.requestPath_of_nil hchars, hpath]
      rfl
    · rw [Uri.requestPath_of_cons hchars]
      rw [hchars] at h
      rw [h c rfl]
      exact if_pos rfl
  unfold absolute
  dsimp only
  rw [hpath]
  simp only [String.toList_append, toList_queryText, Uri.written, List.append_assoc]
  rfl

theorem normalize_of_none (h : Uri.ofString? (Text.trim text) = none) :
    normalize text = Text.trim text := by
  unfold normalize
  dsimp only
  rw [h]

theorem normalize_of_relative (h : Uri.ofString? (Text.trim text) = some u)
    (hrelative : u.scheme = none ∨ u.authority = none) : normalize text = Text.trim text := by
  unfold normalize
  dsimp only
  rw [h]
  dsimp only
  rcases hrelative with hscheme | hauthority
  · rw [hscheme]
  · rw [hauthority]
    cases u.scheme with
    | none => rfl
    | some scheme => rfl

theorem normalize_of_absolute (h : Uri.ofString? (Text.trim text) = some u)
    (hscheme : u.scheme = some scheme) (hauthority : u.authority = some authority) :
    normalize text = absolute scheme authority u := by
  unfold normalize
  dsimp only
  rw [h]
  dsimp only
  rw [hscheme, hauthority]

/-- **The usual form of an absolute URI has its parts**, and always a path. -/
theorem ofString?_normalize_absolute (h : Uri.ofString? (Text.trim text) = some u)
    (hscheme : u.scheme = some scheme) (hauthority : u.authority = some authority) :
    Uri.ofString? (normalize text) =
      if Uri.maxLength < (normalize text).utf8ByteSize then none
      else some { u with path := u.requestPath } := by
  have habsolute := Uri.isAbsolute_of_ofString? h hscheme hauthority
  rw [Uri.ofString?, normalize_of_absolute h hscheme hauthority,
    toList_absolute habsolute.path_head, Uri.ofChars?_written habsolute.requestPath]
  simp only [String.ofList_toList, Option.map_map, Function.comp_def, Option.map_id', hscheme,
    hauthority]

/-- **Both readings agree**, if the usual form is not too long: what a request needs is the same. -/
theorem ofString?_normalize (h : Uri.ofString? (Text.trim text) = some u) :
    ∃ v : Uri, v.authority = u.authority ∧ v.requestPath = u.requestPath ∧ v.query = u.query ∧
      Uri.ofString? (normalize text) =
        if Uri.maxLength < (normalize text).utf8ByteSize then none else some v := by
  have hrelative (hpart : u.scheme = none ∨ u.authority = none) :
      Uri.ofString? (normalize text) =
        if Uri.maxLength < (normalize text).utf8ByteSize then none else some u := by
    rw [normalize_of_relative h hpart, if_neg (Nat.not_lt.mpr (Uri.size_le_of_ofString? h)), h]
  cases hscheme : u.scheme with
  | none => exact ⟨u, rfl, rfl, rfl, hrelative (Or.inl hscheme)⟩
  | some scheme =>
    cases hauthority : u.authority with
    | none => exact ⟨u, hauthority, rfl, rfl, hrelative (Or.inr hauthority)⟩
    | some authority =>
      exact ⟨{ u with path := u.requestPath }, hauthority, Uri.requestPath_idem u, rfl,
        ofString?_normalize_absolute h hscheme hauthority⟩

end Endpoint

/-! ### Requesters -/

namespace Requester

open Endpoint (normalize)

variable {text : String} {c : Credentials} {u : Uri}

theorem ofConfig_unread (h : Uri.ofString? (Text.trim text) = none) :
    ofConfig (.new text c) = .error (.invalidEndpoint (normalize text)) := by
  have hread : Uri.ofString? (normalize text) = none := by rwa [Endpoint.normalize_of_none h]
  simp only [ofConfig, ClientConfig.new, hread]

theorem ofConfig_hostless (h : Uri.ofString? (Text.trim text) = some u)
    (hauthority : u.authority = none) :
    ofConfig (.new text c) = .error (.noHost (normalize text)) := by
  have hread : Uri.ofString? (normalize text) = some u := by
    rwa [Endpoint.normalize_of_relative h (Or.inr hauthority)]
  simp only [ofConfig, ClientConfig.new, hread, hauthority]

/-- The requester of an endpoint with this URI and host. -/
def atHost (text : String) (c : Credentials) (u : Uri) (host : String) : Requester where
  endpoint := normalize text
  host := host
  path := u.requestPath
  query := u.query.getD ""
  credentials := c
  debug := {}
  hasSink := false

theorem ofConfig_hosted {host : String} (h : Uri.ofString? (Text.trim text) = some u)
    (hauthority : u.authority = some host) :
    ofConfig (.new text c) =
      if Uri.maxLength < (normalize text).utf8ByteSize then .error (.invalidEndpoint (normalize text))
      else .ok (atHost text c u host) := by
  obtain ⟨v, hhost, hpath, hquery, hread⟩ := Endpoint.ofString?_normalize h
  rw [hauthority] at hhost
  split_ifs at hread ⊢ with hlong
  · simp only [ofConfig, ClientConfig.new, hread]
  · simp only [ofConfig, ClientConfig.new, hread, hhost, hpath, hquery, atHost]

/-- **Which endpoints a requester can be made for**: those that are read as a URI with an authority,
with or without a scheme, unless the path that is added makes them too long. Any other endpoint is
refused, with an error that names it in its usual form. -/
theorem ofConfig_new (text : String) (c : Credentials) :
    (∀ r, ofConfig (.new text c) = .ok r ↔
      (normalize text).utf8ByteSize ≤ Uri.maxLength ∧
        ∃ u host, Uri.ofString? (Text.trim text) = some u ∧ u.authority = some host ∧
          r = atHost text c u host) ∧
      ∀ e, ofConfig (.new text c) = .error e ↔
        ((Uri.ofString? (Text.trim text) = none ∨
            Uri.maxLength < (normalize text).utf8ByteSize) ∧
          e = .invalidEndpoint (normalize text)) ∨
        ((∃ u, Uri.ofString? (Text.trim text) = some u ∧ u.authority = none) ∧
          e = .noHost (normalize text)) := by
  cases hread : Uri.ofString? (Text.trim text) with
  | none =>
    rw [ofConfig_unread hread]
    simp [eq_comm]
  | some u =>
    cases hauthority : u.authority with
    | none =>
      have hshort := Uri.size_le_of_ofString? hread
      rw [← Endpoint.normalize_of_relative hread (Or.inr hauthority)] at hshort
      rw [ofConfig_hostless hread hauthority]
      simp [eq_comm, hauthority, Nat.not_lt.mpr hshort]
    | some host =>
      rw [ofConfig_hosted hread hauthority]
      by_cases hlong : Uri.maxLength < (normalize text).utf8ByteSize
      · simp [eq_comm, hauthority, hlong]
      · simp [eq_comm, hauthority, hlong, Nat.not_lt.mp hlong]

/-- An authority alone is accepted, without a scheme. -/
theorem ofConfig_authority_alone :
    (Uri.ofString? (Text.trim "localhost:8000")).map Uri.scheme = some none ∧
      ofConfig (.new "localhost:8000" ⟨"r", "a", "k", "dynamodb"⟩) =
        .ok
          { endpoint := "localhost:8000", host := "localhost:8000", path := "/", query := ""
            credentials := ⟨"r", "a", "k", "dynamodb"⟩, debug := {}, hasSink := false } := by
  constructor <;> rfl

end Requester

end Dynamo
