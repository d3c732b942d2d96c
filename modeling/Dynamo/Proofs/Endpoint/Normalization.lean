import Dynamo.Proofs.Endpoint.Acceptance
import Dynamo.Proofs.Endpoint.Reading
import Dynamo.Proofs.Text.Blank

/-! # The usual form of an endpoint

An absolute URI is brought into its usual form by adding a path, if there is none, and leaving out a
fragment. What is left may end in a blank that stood before the fragment; such blanks at the end, and
nothing else, are taken away when the usual form is brought into its usual form once more
(`Endpoint.normalize_normalize`). A requester reads the usual form as it is, so that host, path and
query of a request make up the endpoint (`Requester.endpoint_agrees`). -/

namespace Dynamo

namespace Uri

open Text (isBlank)

variable {scheme authority path : List Char} {query : Option (List Char)}

theorem toNat_of_isAlphanum {c : Char} (h : c.isAlphanum = true) :
    33 ≤ c.toNat ∧ c.toNat ≤ 126 := by
  have hcases : (c.isUpper = true ∨ c.isLower = true) ∨ c.isDigit = true :=
    ((Bool.or_eq_true _ _).mp h).imp_left (Bool.or_eq_true _ _).mp
  have hrange : (65 ≤ c.toNat ∧ c.toNat ≤ 90 ∨ 97 ≤ c.toNat ∧ c.toNat ≤ 122) ∨
      48 ≤ c.toNat ∧ c.toNat ≤ 57 := by
    refine hcases.imp (Or.imp (fun hupper => ?_) fun hlower => ?_) fun hdigit => ?_
    · exact of_decide_eq_true hupper
    · exact ((Bool.and_eq_true _ _).mp hlower).imp of_decide_eq_true of_decide_eq_true
    · exact ((Bool.and_eq_true _ _).mp hdigit).imp of_decide_eq_true of_decide_eq_true
  omega

theorem toNat_of_isSchemeChar {c : Char} (h : isSchemeChar c = true) :
    33 ≤ c.toNat ∧ c.toNat ≤ 126 := by
  simp only [isSchemeChar, Bool.or_eq_true, decide_eq_true_eq] at h
  rcases h with (((h | rfl) | rfl) | rfl) | rfl
  · exact toNat_of_isAlphanum h
  all_goals decide

theorem isBlank_of_isSchemeChar {c : Char} (h : isSchemeChar c = true) : isBlank c = false := by
  obtain ⟨hleast, hgreatest⟩ := toNat_of_isSchemeChar h
  exact Text.isBlank_of_toNat hleast hgreatest

theorem written_eq_append (scheme authority path : List Char) (query : Option (List Char)) :
    written scheme authority path query =
      scheme ++ ':' :: '/' :: '/' :: (authority ++ path) ++ queryChars query := by
  simp [written]

/-- An absolute URI does not begin with a blank. -/
theorem first_written (h : IsAbsolute scheme authority path query) :
    ∀ c ∈ (written scheme authority path query).head?, isBlank c = false := by
  unfold written
  cases hscheme : scheme with
  | nil =>
    rintro c ⟨⟩
    decide
  | cons d ds =>
    rintro c ⟨⟩
    exact isBlank_of_isSchemeChar (h.scheme_chars _ (hscheme ▸ List.mem_cons_self))

/-- **The end of an absolute URI**, behind the slash before the path or the question mark before the
query, may be cut off anywhere. -/
theorem exists_end (h : IsAbsolute scheme authority path query) (hpath : path ≠ []) :
    ∃ before c rest, written scheme authority path query = before ++ c :: rest ∧
      isBlank c = false ∧ ∀ inner after, rest = inner ++ after → ∃ path' query',
        path' ≠ [] ∧ IsAbsolute scheme authority path' query' ∧
          before ++ c :: inner = written scheme authority path' query' := by
  cases query with
  | none =>
    obtain ⟨c, rest, rfl⟩ := List.exists_cons_of_ne_nil hpath
    obtain rfl := h.path_head c rfl
    refine ⟨scheme ++ ':' :: '/' :: '/' :: authority, '/', rest, ?_, by decide, ?_⟩
    · simp [written, queryChars]
    · rintro inner after rfl
      refine ⟨'/' :: inner, none, List.cons_ne_nil _ _, ?_, ?_⟩
      · exact { h with
          path_chars := fun d hd => h.path_chars d (List.mem_append_left after hd)
          path_head := by rintro d ⟨⟩; rfl }
      · simp [written, queryChars]
  | some q =>
    refine ⟨scheme ++ ':' :: '/' :: '/' :: (authority ++ path), '?', q, ?_, by decide, ?_⟩
    · simp [written, queryChars]
    · rintro inner after rfl
      refine ⟨path, some inner, hpath, ?_, ?_⟩
      · refine { h with query_chars := ?_ }
        rintro q ⟨⟩ d hd
        exact h.query_chars _ rfl d (List.mem_append_left after hd)
      · simp [written, queryChars]

/-- Without the blanks at its end, an absolute URI is one. -/
theorem exists_trim_written {text : String} (h : IsAbsolute scheme authority path query)
    (hpath : path ≠ []) (htext : text.toList = written scheme authority path query) :
    ∃ path' query', path' ≠ [] ∧ IsAbsolute scheme authority path' query' ∧
      (Text.trim text).toList = written scheme authority path' query' := by
  obtain ⟨before, c, rest, hwritten, hc, hcut⟩ := exists_end h hpath
  obtain ⟨inner, after, hrest, hafter, hlast⟩ := Text.exists_trimmed_end rest
  obtain ⟨path', query', hpath', h', hwritten'⟩ := hcut inner after hrest
  have htrims : Text.Trims text (String.ofList (before ++ c :: inner)) := by
    refine ⟨⟨[], after, ?_, nofun, hafter⟩, ?_, ?_⟩
    · rw [htext, hwritten, hrest, String.toList_ofList]
      simp
    · rw [String.toList_ofList, hwritten']
      exact first_written h'
    · rw [String.toList_ofList, List.getLast?_append_cons]
      intro d hd
      rw [List.getLast?_cons, Option.mem_def, Option.some.injEq] at hd
      cases hinner : inner.getLast? with
      | none =>
        rw [hinner] at hd
        exact hd ▸ hc
      | some e =>
        rw [hinner] at hd
        exact hd ▸ hlast e hinner
  refine ⟨path', query', hpath', h', ?_⟩
  rw [← Text.trims_iff.mp htrims, String.toList_ofList, hwritten']

theorem requestPath_ne_nil (u : Uri) : u.requestPath.toList ≠ [] := by
  cases hpath : u.path.toList with
  | nil =>
    rw [requestPath_of_nil hpath]
    exact List.cons_ne_nil _ _
  | cons c cs =>
    rw [requestPath_of_cons hpath, hpath]
    exact List.cons_ne_nil _ _

/-- The path that is added is one byte long. -/
theorem size_requestPath_le (u : Uri) : u.requestPath.utf8ByteSize ≤ u.path.utf8ByteSize + 1 := by
  cases hpath : u.path.toList with
  | nil =>
    rw [requestPath_of_nil hpath]
    exact Nat.le_add_left 1 _
  | cons c cs =>
    rw [requestPath_of_cons hpath]
    exact Nat.le_succ _

end Uri

namespace Endpoint

open Text (isBlank)

variable {text scheme authority : String} {u : Uri}

/-- What is written as an absolute URI with a path is in its usual form, but for blanks around it. -/
theorem normalize_written {scheme authority path : List Char} {query : Option (List Char)}
    (h : Uri.IsAbsolute scheme authority path query) (hpath : path ≠ [])
    (htrim : (Text.trim text).toList = Uri.written scheme authority path query)
    (hsize : (Text.trim text).utf8ByteSize ≤ Uri.maxLength) : normalize text = Text.trim text := by
  let u : Uri := ⟨some (String.ofList scheme), some (String.ofList authority), String.ofList path,
    query.map String.ofList⟩
  have hread : Uri.ofString? (Text.trim text) = some u := by
    rw [Uri.ofString?, if_neg (Nat.not_lt.mpr hsize), htrim, Uri.ofChars?_written h]
  have hpath' : u.path.toList = path := String.toList_ofList
  have hquery : u.query.map String.toList = query := by
    cases query with
    | none => rfl
    | some q => exact congrArg some String.toList_ofList
  obtain ⟨c, cs, rfl⟩ := List.exists_cons_of_ne_nil hpath
  refine String.toList_injective ?_
  rw [normalize_of_absolute hread rfl rfl, toList_absolute (u := u) (hpath' ▸ h.path_head),
    Uri.requestPath_of_cons hpath', hpath', hquery, String.toList_ofList, String.toList_ofList, htrim]

section Absolute
variable (hread : Uri.ofString? (Text.trim text) = some u) (hscheme : u.scheme = some scheme)
  (hauthority : u.authority = some authority)
include hread hscheme hauthority

theorem toList_normalize : (normalize text).toList =
    Uri.written scheme.toList authority.toList u.requestPath.toList (u.query.map String.toList) := by
  have habsolute := Uri.isAbsolute_of_ofString? hread hscheme hauthority
  rw [normalize_of_absolute hread hscheme hauthority, toList_absolute habsolute.path_head]

/-- The usual form of a text is that of what was read from it. -/
theorem exists_source : ∃ name fragment : List Char,
    (Text.trim text).toList = Uri.written name authority.toList u.path.toList
      (u.query.map String.toList) ++ fragment ∧
    name.map Char.toLower = scheme.toList.map Char.toLower ∧ Uri.IsFragment fragment := by
  unfold Uri.ofString? at hread
  split_ifs at hread
  have hparts : Uri.ofChars? (Text.trim text).toList =
      some ⟨some scheme, some authority, u.path, u.query⟩ := by
    rw [hread, ← hscheme, ← hauthority]
  exact Uri.exists_written hparts

theorem size_normalize_le :
    (normalize text).utf8ByteSize ≤ (Text.trim text).utf8ByteSize + 1 := by
  obtain ⟨name, fragment, htrim, hname, -⟩ := exists_source hread hscheme hauthority
  have hle := Uri.size_written_le authority.toList u.path.toList fragment
    (u.query.map String.toList) hname
  have hpath := u.size_requestPath_le
  rw [← String.ofList_toList (s := normalize text), toList_normalize hread hscheme hauthority]
  rw [← htrim, String.ofList_toList] at hle
  simp only [Uri.written, Uri.size_cons, String.ofList_append, String.utf8ByteSize_append,
    String.ofList_toList] at hle ⊢
  omega

/-- **The usual form of the usual form** has no blanks at its end, and is the same otherwise. -/
theorem normalize_normalize (hshort : (Text.trim text).utf8ByteSize < Uri.maxLength) :
    normalize (normalize text) = Text.trim (normalize text) := by
  have habsolute := (Uri.isAbsolute_of_ofString? hread hscheme hauthority).requestPath
  have hsize := size_normalize_le hread hscheme hauthority
  obtain ⟨path, query, hne, h, htrim⟩ := Uri.exists_trim_written habsolute u.requestPath_ne_nil
    (toList_normalize hread hscheme hauthority)
  exact normalize_written h hne htrim ((Text.size_trim_le _).trans (by omega))

/-- Blanks at the end of the usual form stood before a fragment. -/
theorem last_normalize (hfragment : '#' ∉ (Text.trim text).toList) :
    ∀ c ∈ (normalize text).toList.getLast?, isBlank c = false := by
  obtain ⟨name, fragment, htrim, -, hhead⟩ := exists_source hread hscheme hauthority
  have hnil : fragment = [] := by
    cases fragment with
    | nil => rfl
    | cons c cs =>
      rw [htrim, hhead c rfl] at hfragment
      exact absurd (List.mem_append_right _ List.mem_cons_self) hfragment
  rw [hnil, List.append_nil] at htrim
  have hlast := (Text.trims_trim text).last
  rw [htrim] at hlast
  rw [toList_normalize hread hscheme hauthority]
  cases hquery : u.query.map String.toList with
  | some q =>
    -- both texts end with the query
    rw [hquery, Uri.written_eq_append, Uri.queryChars, List.getLast?_append_cons] at hlast
    rw [Uri.written_eq_append, Uri.queryChars, List.getLast?_append_cons]
    exact hlast
  | none =>
    rw [hquery] at hlast
    cases hpath : u.path.toList with
    | nil =>
      have hend : Uri.written scheme.toList authority.toList "/".toList none =
          scheme.toList ++ ':' :: '/' :: '/' :: authority.toList ++ ['/'] := by
        simp [Uri.written, Uri.queryChars]
      rw [Uri.requestPath_of_nil hpath, hend, List.getLast?_append_cons]
      rintro c ⟨⟩
      decide
    | cons c cs =>
      -- both texts end with the path
      rw [Uri.requestPath_of_cons hpath, Uri.written, List.getLast?_append_cons]
      rw [Uri.written, List.getLast?_append_cons] at hlast
      exact hlast

/-- **The usual form is not changed again** unless it ends with a blank. -/
theorem normalize_normalize_eq_iff (hshort : (Text.trim text).utf8ByteSize < Uri.maxLength) :
    normalize (normalize text) = normalize text ↔
      ∀ c ∈ (normalize text).toList.getLast?, isBlank c = false := by
  have hfirst := Uri.first_written
    (Uri.isAbsolute_of_ofString? hread hscheme hauthority).requestPath
  rw [← toList_normalize hread hscheme hauthority] at hfirst
  rw [normalize_normalize hread hscheme hauthority hshort, Text.trim_eq_self_iff,
    and_iff_right hfirst]

end Absolute

end Endpoint

theorem ClientConfig.endpoint_new (text : String) (c : Credentials) :
    (ClientConfig.new text c).endpoint = Endpoint.normalize text := by
  rw [ClientConfig.new]

namespace Requester

/-- **What is signed is what the endpoint says.** An endpoint that is read as an absolute URI, a byte
shorter than the longest URI, is kept with its scheme, authority and query, and with its path, which is
a slash if there is none. A requester is made for it, and scheme, host, path and query make up the
endpoint. To configure a client with this endpoint again takes away the blanks at its end, so that
nothing changes unless there are some; and there are none unless a fragment was left out. -/
theorem endpoint_agrees {text scheme host endpoint : String} {u : Uri} {c : Credentials}
    (hread : Uri.ofString? (Text.trim text) = some u) (hscheme : u.scheme = some scheme)
    (hhost : u.authority = some host) (hshort : (Text.trim text).utf8ByteSize < Uri.maxLength)
    (hendpoint : (ClientConfig.new text c).endpoint = endpoint) :
    Uri.ofString? endpoint =
        some ⟨some scheme, some host, if u.path = "" then "/" else u.path, u.query⟩ ∧
      (∃ r, ofConfig (.new text c) = .ok r ∧ r.endpoint = endpoint ∧ r.host = host ∧
        r.path = (if u.path = "" then "/" else u.path) ∧ r.query = u.query.getD "" ∧
        endpoint = scheme ++ "://" ++ r.host ++ r.path ++
          if u.query.isSome then "?" ++ r.query else "") ∧
      (ClientConfig.new endpoint c).endpoint = Text.trim endpoint ∧
      ((ClientConfig.new endpoint c).endpoint = endpoint ↔
        ∀ ch ∈ endpoint.toList.getLast?, Text.isBlank ch = false) ∧
      ('#' ∉ (Text.trim text).toList → (ClientConfig.new endpoint c).endpoint = endpoint) := by
  have hsize : ¬ Uri.maxLength < (Endpoint.normalize text).utf8ByteSize := by
    have hle := Endpoint.size_normalize_le hread hscheme hhost
    omega
  have hpath : u.requestPath = if u.path = "" then "/" else u.path := by
    simp only [Uri.requestPath, String.isEmpty_iff]
  have hagain := Endpoint.normalize_normalize_eq_iff hread hscheme hhost hshort
  have htrim := Endpoint.normalize_normalize hread hscheme hhost hshort
  have hlast := Endpoint.last_normalize hread hscheme hhost
  rw [ClientConfig.endpoint_new] at hendpoint ⊢
  rw [hendpoint] at hsize hagain htrim hlast
  refine ⟨?_, ?_, htrim, hagain, fun hfragment => hagain.mpr (hlast hfragment)⟩
  · have hread' := Endpoint.ofString?_normalize_absolute hread hscheme hhost
    rw [hendpoint, if_neg hsize, hscheme, hhost, hpath] at hread'
    exact hread'
  · have hmade := ofConfig_hosted (c := c) hread hhost
    rw [hendpoint, if_neg hsize] at hmade
    have htext := Endpoint.toList_normalize hread hscheme hhost
    have hquery : (if u.query.isSome then "?" ++ u.query.getD "" else "") = u.queryText := by
      unfold Uri.queryText
      cases u.query <;> rfl
    rw [hendpoint] at htext
    refine ⟨_, hmade, ?_⟩
    simp only [atHost, hendpoint, true_and]
    refine ⟨hpath, String.toList_injective ?_⟩
    simp only [hquery, htext, String.toList_append, Endpoint.toList_queryText, Uri.written,
      List.append_assoc]
    rfl

/-- User and port are part of the host, and the path is put between them and the query. -/
theorem endpoint_agrees_port :
    (ClientConfig.new " HTTP://user@host:80?x=1#top " ⟨"r", "a", "k", "s"⟩).endpoint =
      "http://user@host:80/?x=1" ∧
    Uri.ofString? "http://user@host:80/?x=1" =
      some ⟨some "http", some "user@host:80", "/", some "x=1"⟩ ∧
    ∃ r, ofConfig (.new " HTTP://user@host:80?x=1#top " ⟨"r", "a", "k", "s"⟩) = .ok r ∧
      "http://user@host:80/?x=1" = "http" ++ "://" ++ r.host ++ r.path ++ ("?" ++ r.query) := by
  have hread : Uri.ofString? (Text.trim " HTTP://user@host:80?x=1#top ") =
      some ⟨some "http", some "user@host:80", "", some "x=1"⟩ := by rfl
  have hendpoint : (ClientConfig.new " HTTP://user@host:80?x=1#top "
      ⟨"r", "a", "k", "s"⟩).endpoint = "http://user@host:80/?x=1" := by rfl
  obtain ⟨hparts, ⟨r, hr, -, -, -, -, htext⟩, -⟩ :=
    endpoint_agrees hread rfl rfl (by decide) hendpoint
  exact ⟨hendpoint, hparts, r, hr, htext⟩

/-- **A blank before a fragment** ends the usual form, and is taken away the next time. -/
theorem endpoint_blank_fragment :
    Uri.ofString? (Text.trim "http://host/\u00a0#top") =
        some ⟨some "http", some "host", "/\u00a0", none⟩ ∧
      "http://host/\u00a0#top".utf8ByteSize < Uri.maxLength ∧
      (ClientConfig.new "http://host/\u00a0#top" ⟨"r", "a", "k", "s"⟩).endpoint =
        "http://host/\u00a0" ∧
      (ClientConfig.new "http://host/\u00a0" ⟨"r", "a", "k", "s"⟩).endpoint = "http://host/" := by
  refine ⟨?_, by decide, ?_, ?_⟩
  · rfl
  · rfl
  · rfl

end Requester

end Dynamo
