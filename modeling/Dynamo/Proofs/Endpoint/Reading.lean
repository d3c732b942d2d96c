import Dynamo.Proofs.Endpoint.Uri

/-! # What an absolute URI is read from

A text that is read as an absolute URI is the written URI, but for the case of a known scheme, and for a
fragment behind it that is passed over (`Uri.exists_written`). So the written URI is not longer than the
text (`Uri.size_written_le`). -/

namespace Dynamo.Uri

/-- A fragment, or nothing. -/
def IsFragment (cs : List Char) : Prop := ∀ c ∈ cs.head?, c = '#'

/-! ### Letters of either case -/

theorem eq_of_toLower {c d : Char} (hd : d.toNat < 65) (h : c.toLower = d) : c = d := by
  unfold Char.toLower at h
  split_ifs at h with hupper
  · have hval := congrArg (fun x : Char => x.val.toNat) h
    simp only [UInt32.toNat_add] at hval
    have hsum : (c.val.toNat + 32) % 2 ^ 32 = d.toNat := hval
    have hlow : 65 ≤ c.val.toNat := hupper.1
    have hhigh : c.val.toNat ≤ 90 := hupper.2
    omega
  · exact h

theorem utf8Size_toLower (c : Char) : c.toLower.utf8Size = c.utf8Size := by
  unfold Char.toLower
  split_ifs with hupper
  · have hlow : 65 ≤ c.val.toNat := hupper.1
    have hhigh : c.val.toNat ≤ 90 := hupper.2
    have hsize : c.utf8Size = 1 := Char.utf8Size_eq_one_iff.mpr (by
      rw [UInt32.le_iff_toNat_le]
      exact hhigh.trans (by decide))
    rw [hsize, Char.utf8Size_eq_one_iff, UInt32.le_iff_toNat_le, UInt32.toNat_add]
    show (c.val.toNat + 32) % 2 ^ 32 ≤ 127
    omega
  · rfl

theorem size_cons (c : Char) (cs : List Char) :
    (String.ofList (c :: cs)).utf8ByteSize = c.utf8Size + (String.ofList cs).utf8ByteSize := by
  rw [← List.singleton_append, String.ofList_append, String.utf8ByteSize_append]
  exact congrArg (· + _) String.utf8ByteSize_singleton

theorem size_map_toLower (cs : List Char) :
    (String.ofList (cs.map Char.toLower)).utf8ByteSize = (String.ofList cs).utf8ByteSize := by
  induction cs with
  | nil => rfl
  | cons c cs ih => rw [List.map_cons, size_cons, size_cons, utf8Size_toLower, ih]

/-! ### Schemes -/

/-- A text that begins with `known://` in letters of any case begins with a scheme in these. -/
theorem exists_of_dropStart? {start : String} (known : List Char) {cs rest : List Char}
    (hstart : start.toList = known ++ [':', '/', '/']) (h : dropStart? start cs = some rest) :
    ∃ name : List Char, cs = name ++ ':' :: '/' :: '/' :: rest ∧ name.map Char.toLower = known := by
  unfold dropStart? at h
  dsimp only at h
  split_ifs at h with hlower
  rw [hstart] at h hlower
  obtain ⟨name, sep, htake, hname, hsep⟩ := List.map_eq_append_iff.mp hlower
  have hsep' : sep = [':', '/', '/'] := by
    obtain ⟨c₁, r₁, rfl, h₁, hsep⟩ := List.map_eq_cons_iff.mp hsep
    obtain ⟨c₂, r₂, rfl, h₂, hsep⟩ := List.map_eq_cons_iff.mp hsep
    obtain ⟨c₃, r₃, rfl, h₃, hsep⟩ := List.map_eq_cons_iff.mp hsep
    rw [eq_of_toLower (by decide) h₁, eq_of_toLower (by decide) h₂, eq_of_toLower (by decide) h₃,
      List.map_eq_nil_iff.mp hsep]
  refine ⟨name, ?_, hname⟩
  have hcs := List.take_append_drop (known ++ [':', '/', '/']).length cs
  rw [htake, hsep', Option.some.inj h, List.append_assoc] at hcs
  exact hcs.symm

theorem exists_of_scheme? {cs rest : List Char} {scheme : String}
    (h : scheme? cs = some (some scheme, rest)) :
    ∃ name : List Char, cs = name ++ ':' :: '/' :: '/' :: rest ∧
      name.map Char.toLower = scheme.toList.map Char.toLower := by
  unfold scheme? at h
  split at h
  · next hhttp =>
    obtain ⟨hscheme, rfl⟩ := Prod.mk.inj (Option.some.inj h)
    obtain rfl := Option.some.inj hscheme
    exact exists_of_dropStart? "http".toList rfl hhttp
  · next hhttps _ =>
    obtain ⟨hscheme, rfl⟩ := Prod.mk.inj (Option.some.inj h)
    obtain rfl := Option.some.inj hscheme
    exact exists_of_dropStart? "https".toList rfl hhttps
  · have hcs := List.takeWhile_append_dropWhile (p := isSchemeChar) (l := cs)
    dsimp only at h
    split at h
    · next r hdrop =>
      rw [hdrop] at hcs
      split_ifs at h with hnil hlength
      · exact absurd (Prod.mk.inj (Option.some.inj h)).1 nofun
      obtain ⟨hscheme, rfl⟩ := Prod.mk.inj (Option.some.inj h)
      obtain rfl := Option.some.inj hscheme
      exact ⟨_, hcs.symm, by rw [String.toList_ofList]⟩
    · exact absurd h (by simp)

/-! ### Paths and queries -/

theorem exists_of_target? {cs : List Char} {path : String} {query : Option String}
    (h : target? cs = some (path, query)) :
    ∃ fragment, cs = path.toList ++ queryChars (query.map String.toList) ++ fragment ∧
      IsFragment fragment := by
  unfold target? at h
  dsimp only at h
  split_ifs at h with hpath
  have hcs := List.takeWhile_append_dropWhile (p := fun c => c ≠ '?' && c ≠ '#') (l := cs)
  have hstop := Text.stop_dropWhile (fun c => c ≠ '?' && c ≠ '#') cs
  split at h
  · next r hdrop =>
    split_ifs at h with hquery
    obtain ⟨rfl, rfl⟩ := Prod.mk.inj (Option.some.inj h)
    refine ⟨r.dropWhile (· ≠ '#'), ?_, fun c hc => ?_⟩
    · have hr := List.takeWhile_append_dropWhile (p := (· ≠ '#')) (l := r)
      rw [hdrop] at hcs
      simp only [String.toList_ofList, Option.map_some, queryChars, List.append_assoc,
        List.cons_append]
      rw [hr, hcs]
    · simpa using Text.stop_dropWhile (· ≠ '#') r c hc
  · next hdrop =>
    obtain ⟨rfl, rfl⟩ := Prod.mk.inj (Option.some.inj h)
    refine ⟨cs.dropWhile fun c => c ≠ '?' && c ≠ '#', ?_, fun c hc => ?_⟩
    · rw [String.toList_ofList, Option.map_none, queryChars, List.append_nil, hcs]
    · -- what follows the path is no query, so it is a fragment
      have hne : c ≠ '?' := by
        rintro rfl
        obtain ⟨r, hr⟩ := List.head?_eq_some_iff.mp hc
        exact hdrop r hr
      simpa [hne] using hstop c hc

/-! ### The whole -/

/-- **An absolute URI is read from its written form**, with a fragment or without one, and with letters
of any case in a known scheme. -/
theorem exists_written {cs : List Char} {scheme authority path : String} {query : Option String}
    (h : ofChars? cs = some ⟨some scheme, some authority, path, query⟩) :
    ∃ name fragment : List Char,
      cs = written name authority.toList path.toList (query.map String.toList) ++ fragment ∧
        name.map Char.toLower = scheme.toList.map Char.toLower ∧ IsFragment fragment := by
  have hfull := full?_of_ofChars? h
  unfold full? at hfull
  obtain ⟨⟨read?, rest⟩, hscheme, hfull⟩ := Option.bind_eq_some_iff.mp hfull
  dsimp only at hfull
  split_ifs at hfull with hauthority hnone hend
  · exact absurd (Option.some.inj hfull) (by simp)
  obtain ⟨⟨path', query'⟩, htarget, hfull⟩ := Option.bind_eq_some_iff.mp hfull
  obtain ⟨rfl, hname, rfl, rfl⟩ := (Uri.mk.injEq ..).mp (Option.some.inj hfull)
  obtain rfl := Option.some.inj hname
  obtain ⟨name, rfl, hlower⟩ := exists_of_scheme? hscheme
  obtain ⟨fragment, hrest, hfragment⟩ := exists_of_target? htarget
  refine ⟨name, fragment, ?_, hlower, hfragment⟩
  have hcs := List.takeWhile_append_dropWhile (p := (!endsAuthority ·)) (l := rest)
  rw [hrest, List.append_assoc] at hcs
  simp only [written, String.toList_ofList, List.append_assoc, List.cons_append]
  exact congrArg (name ++ ':' :: '/' :: '/' :: ·) hcs.symm

/-- The written form, with a scheme in lower case, is not longer than what it is read from. -/
theorem size_written_le {name scheme : List Char} (authority path fragment : List Char)
    (query : Option (List Char)) (h : name.map Char.toLower = scheme.map Char.toLower) :
    (String.ofList (written scheme authority path query)).utf8ByteSize ≤
      (String.ofList (written name authority path query ++ fragment)).utf8ByteSize := by
  have hsize : (String.ofList name).utf8ByteSize = (String.ofList scheme).utf8ByteSize := by
    rw [← size_map_toLower, h, size_map_toLower]
  simp only [written, String.ofList_append, String.utf8ByteSize_append, hsize]
  omega

end Dynamo.Uri
