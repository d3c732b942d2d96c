import Dynamo.Endpoint.Uri
import Dynamo.Proofs.Text.Joined

/-! # Absolute URIs, written and read

An absolute URI is written as scheme, `://`, authority, path and query. What these parts may be
(`Uri.IsAbsolute`) is what they are in every absolute URI that is read (`isAbsolute_of_ofChars?`), and
every such URI is read as its parts (`ofChars?_written`). Only the two schemes that all know are read
without regard to case, and so they occur in lower case only. -/

namespace Dynamo.Uri

/-- The parts of an absolute URI. -/
structure IsAbsolute (scheme authority path : List Char) (query : Option (List Char)) : Prop where
  scheme_chars : ∀ c ∈ scheme, isSchemeChar c = true
  scheme_length : scheme.length ≤ maxSchemeLength
  scheme_http : scheme.map Char.toLower = "http".toList → scheme = "http".toList
  scheme_https : scheme.map Char.toLower = "https".toList → scheme = "https".toList
  authority_valid : isAuthority authority = true
  authority_ne : authority ≠ []
  authority_inner : ∀ c ∈ authority, endsAuthority c = false
  path_chars : ∀ c ∈ path, isPathChar c = true
  path_head : ∀ c ∈ path.head?, c = '/'
  query_chars : ∀ q ∈ query, ∀ c ∈ q, isQueryChar c = true

/-- The query as it is written behind the path. -/
def queryChars : Option (List Char) → List Char
  | none => []
  | some q => '?' :: q

/-- **The text of an absolute URI.** -/
def written (scheme authority path : List Char) (query : Option (List Char)) : List Char :=
  scheme ++ ':' :: '/' :: '/' :: (authority ++ (path ++ queryChars query))

/-! ### Schemes -/

theorem toLower_ne_colon {c : Char} (h : isSchemeChar c = true) : c.toLower ≠ ':' := by
  intro hcolon
  unfold Char.toLower at hcolon
  split_ifs at hcolon with hupper
  · have hval := congrArg (fun d : Char => d.val.toNat) hcolon
    simp only [UInt32.toNat_add] at hval
    have hsum : (c.val.toNat + 32) % 2 ^ 32 = 58 := hval
    have hlow : 65 ≤ c.val.toNat := hupper.1
    have hhigh : c.val.toNat ≤ 90 := hupper.2
    omega
  · rw [hcolon] at h
    exact absurd h (by decide)

/-- The beginning of an absolute URI is told by its scheme alone. -/
theorem dropStart?_scheme (start : String) (known : List Char)
    (hstart : start.toList = known ++ [':', '/', '/']) (hknown : ':' ∉ known) {scheme : List Char}
    (hscheme : ∀ c ∈ scheme, isSchemeChar c = true) (rest : List Char) :
    dropStart? start (scheme ++ ':' :: '/' :: '/' :: rest) =
      if scheme.map Char.toLower = known then some rest else none := by
  have hcolon : ':' ∉ scheme.map Char.toLower := by
    intro hmem
    obtain ⟨c, hc, heq⟩ := List.mem_map.mp hmem
    exact toLower_ne_colon (hscheme c hc) heq
  unfold dropStart?
  dsimp only
  rw [hstart, List.length_append]
  by_cases hlower : scheme.map Char.toLower = known
  · have hlength : known.length = scheme.length := by rw [← hlower, List.length_map]
    rw [if_pos hlower, hlength, List.take_length_add_append, List.drop_length_add_append,
      List.map_append, hlower]
    exact if_pos rfl
  · rw [if_neg hlower]
    refine if_neg fun htake => hlower ?_
    have hwhole := List.take_append_drop (known.length + [':', '/', '/'].length)
      (scheme ++ ':' :: '/' :: '/' :: rest)
    have hmap := congrArg (List.map Char.toLower) hwhole
    rw [List.map_append, htake, List.append_assoc, List.map_append] at hmap
    exact (Text.append_cons_inj hknown hcolon hmap).1.symm

theorem scheme?_written {scheme authority path : List Char} {query : Option (List Char)}
    (h : IsAbsolute scheme authority path query) {rest : List Char} (hrest : rest ≠ []) :
    scheme? (scheme ++ ':' :: '/' :: '/' :: rest) = some (some (String.ofList scheme), rest) := by
  unfold scheme?
  rw [dropStart?_scheme "http://" "http".toList rfl (by decide) h.scheme_chars,
    dropStart?_scheme "https://" "https".toList rfl (by decide) h.scheme_chars]
  by_cases hhttp : scheme.map Char.toLower = "http".toList
  · rw [if_pos hhttp, h.scheme_http hhttp]
    rfl
  · by_cases hhttps : scheme.map Char.toLower = "https".toList
    · rw [if_neg hhttp, if_pos hhttps, h.scheme_https hhttps]
      rfl
    · rw [if_neg hhttp, if_neg hhttps]
      have hstop : ∀ c ∈ (':' :: '/' :: '/' :: rest).head?, isSchemeChar c = false := by
        rintro c ⟨⟩
        decide
      obtain ⟨htake, hdrop⟩ := Text.takeWhile_append_of_stop h.scheme_chars hstop
      have hnil : ¬ (scheme = [] ∧ rest = []) := fun hnil => hrest hnil.2
      rw [htake, hdrop]
      show (if scheme = [] ∧ rest = [] then _ else _) = _
      rw [if_neg hnil, if_pos h.scheme_length]

theorem scheme_of_scheme? {cs rest : List Char} {scheme : String}
    (h : scheme? cs = some (some scheme, rest)) :
    (∀ c ∈ scheme.toList, isSchemeChar c = true) ∧ scheme.toList.length ≤ maxSchemeLength ∧
      (scheme.toList.map Char.toLower = "http".toList → scheme.toList = "http".toList) ∧
      (scheme.toList.map Char.toLower = "https".toList → scheme.toList = "https".toList) := by
  unfold scheme? at h
  split at h
  · obtain rfl : "http" = scheme := Option.some.inj (Prod.mk.inj (Option.some.inj h)).1
    exact ⟨Text.forall_mem_of_all (by decide), by decide, fun _ => rfl,
      fun hlower => absurd hlower (by decide)⟩
  · obtain rfl : "https" = scheme := Option.some.inj (Prod.mk.inj (Option.some.inj h)).1
    exact ⟨Text.forall_mem_of_all (by decide), by decide,
      fun hlower => absurd hlower (by decide), fun _ => rfl⟩
  · next hhttp hhttps =>
    have hchars : ∀ c ∈ cs.takeWhile isSchemeChar, isSchemeChar c = true :=
      fun c hc => List.mem_takeWhile_imp hc
    have hcs := List.takeWhile_append_dropWhile (p := isSchemeChar) (l := cs)
    dsimp only at h
    split at h
    · next r hdrop =>
      rw [hdrop] at hcs
      split_ifs at h with hnil hlength
      · exact absurd (Prod.mk.inj (Option.some.inj h)).1 nofun
      obtain ⟨hname, rfl⟩ := Prod.mk.inj (Option.some.inj h)
      obtain rfl := Option.some.inj hname
      have hhttp' := dropStart?_scheme "http://" "http".toList rfl (by decide) hchars r
      have hhttps' := dropStart?_scheme "https://" "https".toList rfl (by decide) hchars r
      rw [hcs] at hhttp' hhttps'
      rw [String.toList_ofList]
      refine ⟨hchars, hlength, fun hlower => ?_, fun hlower => ?_⟩
      · rw [if_pos hlower] at hhttp'
        exact absurd hhttp' (hhttp r)
      · rw [if_pos hlower] at hhttps'
        exact absurd hhttps' (hhttps r)
    · exact absurd h (by simp)

/-! ### Paths and queries -/

theorem ne_of_isPathChar {c : Char} (h : isPathChar c = true) : (c ≠ '?' && c ≠ '#') = true := by
  rw [Bool.and_eq_true, decide_eq_true_iff, decide_eq_true_iff]
  constructor
  · rintro rfl
    exact absurd h (by decide)
  · rintro rfl
    exact absurd h (by decide)

theorem ne_of_isQueryChar {c : Char} (h : isQueryChar c = true) : decide (c ≠ '#') = true := by
  rw [decide_eq_true_iff]
  rintro rfl
  exact absurd h (by decide)

theorem target?_written {path : List Char} {query : Option (List Char)}
    (hpath : ∀ c ∈ path, isPathChar c = true)
    (hquery : ∀ q ∈ query, ∀ c ∈ q, isQueryChar c = true) :
    target? (path ++ queryChars query) =
      some (String.ofList path, query.map String.ofList) := by
  have hstop : ∀ c ∈ (queryChars query).head?, (c ≠ '?' && c ≠ '#') = false := by
    cases query with
    | none => exact nofun
    | some q => rintro c ⟨⟩; rfl
  obtain ⟨htake, hdrop⟩ := Text.takeWhile_append_of_stop
    (fun c hc => ne_of_isPathChar (hpath c hc)) hstop
  unfold target?
  dsimp only
  rw [htake, hdrop, if_pos (List.all_eq_true.mpr hpath)]
  cases query with
  | none => rfl
  | some q =>
    have hq : q.takeWhile (· ≠ '#') = q :=
      List.takeWhile_eq_self_iff.mpr fun c hc => ne_of_isQueryChar (hquery q rfl c hc)
    show (if (q.takeWhile (· ≠ '#')).all isQueryChar then some (String.ofList path,
      some (String.ofList (q.takeWhile (· ≠ '#')))) else none) = _
    rw [hq, if_pos (List.all_eq_true.mpr (hquery q rfl))]
    rfl

/-- What is read behind an authority is a path, which begins with a slash or is empty, and a query. -/
theorem target_of_target? {cs : List Char} (hcs : ∀ c ∈ cs.head?, endsAuthority c = true)
    {path : String} {query : Option String} (h : target? cs = some (path, query)) :
    (∀ c ∈ path.toList, isPathChar c = true) ∧ (∀ c ∈ path.toList.head?, c = '/') ∧
      ∀ q ∈ query.map String.toList, ∀ c ∈ q, isQueryChar c = true := by
  unfold target? at h
  dsimp only at h
  split_ifs at h with hpath
  have hhead : ∀ c ∈ (cs.takeWhile fun c => c ≠ '?' && c ≠ '#').head?, c = '/' := by
    cases cs with
    | nil => exact nofun
    | cons d ds =>
      have hd := hcs d rfl
      rw [List.takeWhile_cons]
      split_ifs with hne
      · rintro c ⟨⟩
        simp only [endsAuthority, Bool.or_eq_true, decide_eq_true_iff] at hd
        simp only [Bool.and_eq_true, decide_eq_true_iff] at hne
        tauto
      · exact nofun
  split at h
  · split_ifs at h with hquery
    obtain ⟨rfl, rfl⟩ := Prod.mk.inj (Option.some.inj h)
    refine ⟨?_, ?_, ?_⟩
    · rw [String.toList_ofList]
      exact List.all_eq_true.mp hpath
    · rw [String.toList_ofList]
      exact hhead
    · rintro q ⟨⟩
      rw [String.toList_ofList]
      exact List.all_eq_true.mp hquery
  · obtain ⟨rfl, rfl⟩ := Prod.mk.inj (Option.some.inj h)
    refine ⟨?_, ?_, nofun⟩
    · rw [String.toList_ofList]
      exact List.all_eq_true.mp hpath
    · rw [String.toList_ofList]
      exact hhead

/-! ### The whole -/

/-- **What is written is read**: the text of an absolute URI has its parts. -/
theorem ofChars?_written {scheme authority path : List Char} {query : Option (List Char)}
    (h : IsAbsolute scheme authority path query) :
    ofChars? (written scheme authority path query) =
      some ⟨some (String.ofList scheme), some (String.ofList authority), String.ofList path,
        query.map String.ofList⟩ := by
  have hhead : ∀ c ∈ (written scheme authority path query).head?, c ≠ '/' := by
    unfold written
    cases scheme with
    | nil => rintro c ⟨⟩; decide
    | cons d ds =>
      rintro c ⟨⟩ rfl
      exact absurd (h.scheme_chars _ List.mem_cons_self) (by decide)
  have hfull : ofChars? (written scheme authority path query) =
      full? (written scheme authority path query) := by
    unfold ofChars?
    split
    · next heq =>
      have hlength := congrArg List.length heq
      simp only [written, List.length_append, List.length_cons, List.length_nil] at hlength
      omega
    · next heq => exact absurd rfl (hhead '/' (by rw [heq]; rfl))
    · rfl
  have hrest : authority ++ (path ++ queryChars query) ≠ [] :=
    List.append_ne_nil_of_left_ne_nil h.authority_ne _
  have hstop : ∀ c ∈ (path ++ queryChars query).head?, (!endsAuthority c) = false := by
    cases path with
    | nil =>
      cases query with
      | none => exact nofun
      | some q => rintro c ⟨⟩; decide
    | cons d ds =>
      rintro c ⟨⟩
      rw [h.path_head _ rfl]
      decide
  obtain ⟨htake, hdrop⟩ := Text.takeWhile_append_of_stop (p := (!endsAuthority ·))
    (fun c hc => by rw [h.authority_inner c hc]; rfl) hstop
  rw [hfull, full?, written, scheme?_written h hrest]
  dsimp only [Option.bind_eq_bind, Option.bind_some]
  rw [htake, hdrop, target?_written h.path_chars h.query_chars, h.authority_valid]
  rw [if_neg (by simpa using h.authority_ne), if_neg nofun]
  rfl

theorem full?_of_ofChars? {cs : List Char} {scheme authority path : String} {query : Option String}
    (h : ofChars? cs = some ⟨some scheme, some authority, path, query⟩) :
    full? cs = some ⟨some scheme, some authority, path, query⟩ := by
  unfold ofChars? at h
  split at h
  · exact absurd (Option.some.inj h) (by simp)
  · obtain ⟨t, -, ht⟩ := Option.map_eq_some_iff.mp h
    exact absurd ht (by simp)
  · exact h

/-- **What is read as an absolute URI has its parts.** -/
theorem isAbsolute_of_ofChars? {cs : List Char} {scheme authority path : String}
    {query : Option String}
    (h : ofChars? cs = some ⟨some scheme, some authority, path, query⟩) :
    IsAbsolute scheme.toList authority.toList path.toList (query.map String.toList) := by
  have hfull := full?_of_ofChars? h
  unfold full? at hfull
  obtain ⟨⟨read?, cs'⟩, hscheme, hfull⟩ := Option.bind_eq_some_iff.mp hfull
  dsimp only at hfull
  split_ifs at hfull with hauthority hnone hend
  · exact absurd (Option.some.inj hfull) (by simp)
  obtain ⟨⟨path', query'⟩, htarget, hfull⟩ := Option.bind_eq_some_iff.mp hfull
  obtain ⟨rfl, hname, rfl, rfl⟩ := (Uri.mk.injEq ..).mp (Option.some.inj hfull)
  obtain rfl := Option.some.inj hname
  have hstop : ∀ c ∈ (cs'.dropWhile (!endsAuthority ·)).head?, endsAuthority c = true :=
    fun c hc => by simpa using Text.stop_dropWhile (!endsAuthority ·) cs' c hc
  obtain ⟨hchars, hlength, hhttp, hhttps⟩ := scheme_of_scheme? hscheme
  obtain ⟨hpath, hhead, hquery⟩ := target_of_target? hstop htarget
  simp only [Bool.or_eq_true, Bool.not_eq_true', decide_eq_true_iff, not_or,
    Bool.not_eq_false] at hauthority
  refine ⟨hchars, hlength, hhttp, hhttps, ?_, ?_, ?_, hpath, hhead, hquery⟩
  · rw [String.toList_ofList]
    exact hauthority.1
  · rw [String.toList_ofList]
    exact hauthority.2
  · rw [String.toList_ofList]
    exact fun c hc => by simpa using List.mem_takeWhile_imp hc

end Dynamo.Uri
