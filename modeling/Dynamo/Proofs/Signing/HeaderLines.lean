import Dynamo.Proofs.Dict
import Dynamo.Proofs.Requester
import Dynamo.Proofs.Signing.Verification
import Dynamo.Proofs.Text.Blank

/-! # What the canonical form of headers depends on

The canonical form has one line for each name, with the first value of the name. It is made by going
through the headers once, and then putting lines and names in order, each on their own. So it does not
depend on how headers with different names are ordered, on the case of names, or on blanks around
values; and lines and names only go together where no name is the beginning of another.

* `firstValue?`: all that the canonical form depends on (`headers_congr`).
* `exists_aligned`: where lines and names go together.
* `headers_lines`: the canonical form, and what it does not depend on. -/

namespace Dynamo.Canonical

/-! ### First values -/

/-- The value of the first header with the name, which is in lower case. -/
def firstValue? (name : String) (hs : List (String × String)) : Option String :=
  (hs.find? fun h => lowerAscii h.1 = name).map (·.2)

theorem firstValue?_append (name : String) (hs hs' : List (String × String)) :
    firstValue? name (hs ++ hs') = (firstValue? name hs).or (firstValue? name hs') := by
  rw [firstValue?, firstValue?, firstValue?, List.find?_append, Option.map_or]

theorem firstValue?_cons (name : String) (h : String × String) (hs : List (String × String)) :
    firstValue? name (h :: hs) =
      if name = lowerAscii h.1 then some h.2 else firstValue? name hs := by
  by_cases hname : name = lowerAscii h.1
  · simp [firstValue?, hname]
  · simp [firstValue?, hname, Ne.symm hname]

theorem firstValue?_filter (name : String) (hs : List (String × String)) :
    firstValue? name (hs.filter fun h => lowerAscii h.1 = name) = firstValue? name hs := by
  rw [firstValue?, List.find?_filter, firstValue?]
  simp

/-- **The first value of a name** has no header with the name before it. -/
theorem firstValue?_eq_some {name value : String} {hs : List (String × String)} :
    firstValue? name hs = some value ↔ ∃ before h after, hs = before ++ h :: after ∧
      (∀ g ∈ before, lowerAscii g.1 ≠ name) ∧ lowerAscii h.1 = name ∧ h.2 = value := by
  rw [firstValue?, Option.map_eq_some_iff]
  simp only [List.find?_eq_some_iff_append, decide_eq_true_eq, Bool.not_eq_true',
    decide_eq_false_iff_not]
  constructor
  · rintro ⟨h, ⟨hname, before, after, rfl, hbefore⟩, rfl⟩
    exact ⟨before, h, after, rfl, hbefore, hname, rfl⟩
  · rintro ⟨before, h, after, rfl, hbefore, hname, rfl⟩
    exact ⟨h, ⟨hname, before, after, rfl, hbefore⟩, rfl⟩

theorem exists_firstValue?_iff {name : String} {hs : List (String × String)} :
    (∃ value, firstValue? name hs = some value) ↔ ∃ h ∈ hs, lowerAscii h.1 = name := by
  rw [← Option.isSome_iff_exists, firstValue?, Option.isSome_map, List.find?_isSome]
  simp

/-- One more header counts if its name is new. -/
theorem firstValues_concat (hs : List (String × String)) (h : String × String) :
    firstValues (hs ++ [h]) =
      if lowerAscii h.1 ∈ (firstValues hs).map (·.1) then firstValues hs
      else firstValues hs ++ [(lowerAscii h.1, h.2)] := by
  rw [firstValues, List.foldl_append, ← firstValues]
  simp only [List.foldl_cons, List.foldl_nil, List.contains_iff_mem]

/-- **Each name is kept once, with its first value.** -/
theorem firstValues_spec (hs : List (String × String)) :
    (Entries.keys (firstValues hs)).Nodup ∧
      ∀ name, Entries.get? name (firstValues hs) = firstValue? name hs := by
  induction hs using List.reverseRecOn with
  | nil => exact ⟨List.nodup_nil, fun _ => rfl⟩
  | append_singleton hs h ih =>
    obtain ⟨hnodup, hget⟩ := ih
    rw [firstValues_concat]
    split_ifs with hmem
    · refine ⟨hnodup, fun name => ?_⟩
      rw [hget, firstValue?_append, firstValue?_cons]
      split_ifs with hname
      · obtain ⟨e, he, heq⟩ := List.mem_map.mp hmem
        have hfirst := hget e.1
        rw [← Entries.last?_eq_get? hnodup, Entries.last?_of_mem hnodup he, heq, ← hname] at hfirst
        rw [← hfirst, Option.some_or]
      · exact Option.or_none.symm
    · refine ⟨?_, fun name => ?_⟩
      · rw [Entries.keys, List.map_append, List.nodup_append]
        refine ⟨hnodup, List.nodup_singleton _, fun a ha b hb heq => hmem ?_⟩
        obtain rfl : b = lowerAscii h.1 := List.mem_singleton.mp hb
        exact heq ▸ ha
      · rw [Entries.get?_append, hget, firstValue?_append, firstValue?_cons]
        rfl

/-- The names with their first values, these without the blanks around them. -/
def trimmedFirsts (hs : List (String × String)) : List (String × String) :=
  (firstValues hs).map fun f => (f.1, Text.trim f.2)

/-- The line of a name and a trimmed value. -/
def lineOf (f : String × String) : String := f.1 ++ ":" ++ f.2

theorem keys_trimmedFirsts (hs : List (String × String)) :
    (trimmedFirsts hs).map (·.1) = (firstValues hs).map (·.1) := by
  rw [trimmedFirsts, List.map_map]
  rfl

theorem headers_eq (hs : List (String × String)) :
    headers hs = ⟨"\n".intercalate (ascending ((trimmedFirsts hs).map lineOf)),
      ";".intercalate (ascending ((trimmedFirsts hs).map (·.1)))⟩ := by
  rw [keys_trimmedFirsts, trimmedFirsts, List.map_map]
  rfl

theorem nodup_trimmedFirsts (hs : List (String × String)) :
    ((trimmedFirsts hs).map (·.1)).Nodup := by
  rw [keys_trimmedFirsts]
  exact (firstValues_spec hs).1

theorem mem_trimmedFirsts {hs : List (String × String)} {f : String × String} :
    f ∈ trimmedFirsts hs ↔ (firstValue? f.1 hs).map Text.trim = some f.2 := by
  obtain ⟨-, hget⟩ := firstValues_spec hs
  have hmap : Entries.get? f.1 (trimmedFirsts hs) = (firstValue? f.1 hs).map Text.trim := by
    rw [trimmedFirsts, Entries.get?_map, hget]
  rw [← hmap]
  refine ⟨fun hf => ?_, Entries.mem_of_get?⟩
  rw [← Entries.last?_eq_get? (nodup_trimmedFirsts hs)]
  exact Entries.last?_of_mem (nodup_trimmedFirsts hs) hf

theorem ascending_eq_of_perm {ss ts : List String} (h : ss.Perm ts) : ascending ss = ascending ts := by
  have hsorted : (ascending ts).SortedLE := List.sortedLE_mergeSort
  exact ascending_of_perm (h.trans (perm_ascending ts).symm) hsorted.pairwise

/-- **The canonical form depends on the trimmed first values only.** -/
theorem headers_congr {hs hs' : List (String × String)}
    (h : ∀ name, (firstValue? name hs).map Text.trim = (firstValue? name hs').map Text.trim) :
    headers hs = headers hs' := by
  have hperm : (trimmedFirsts hs).Perm (trimmedFirsts hs') := by
    refine (List.perm_ext_iff_of_nodup (nodup_trimmedFirsts hs).of_map
      (nodup_trimmedFirsts hs').of_map).mpr fun f => ?_
    rw [mem_trimmedFirsts, mem_trimmedFirsts, h]
  rw [headers_eq, headers_eq, ascending_eq_of_perm (hperm.map lineOf),
    ascending_eq_of_perm (hperm.map (·.1))]

/-! ### Lines and names -/

/-- No name is the beginning of another. -/
def PrefixFree (names : List String) : Prop :=
  ∀ a ∈ names, ∀ b ∈ names, a.toList <+: b.toList → a = b

instance (names : List String) : Decidable (PrefixFree names) :=
  inferInstanceAs (Decidable (∀ a ∈ names, ∀ b ∈ names, a.toList <+: b.toList → a = b))

theorem PrefixFree.mono {names names' : List String} (h : PrefixFree names)
    (hsub : names' ⊆ names) : PrefixFree names' :=
  fun a ha b hb => h a (hsub ha) b (hsub hb)

theorem lt_append_of_lt {a b : List Char} (h : a < b) (hstart : ¬ a <+: b) (x y : List Char) :
    a ++ x < b ++ y := by
  change List.lt _ _ at h
  show List.lt _ _
  rw [List.lt_iff_lex_lt] at h ⊢
  induction h with
  | nil => exact absurd List.nil_prefix hstart
  | cons _ ih => exact .cons (ih fun hpre => hstart (List.cons_prefix_cons.mpr ⟨rfl, hpre⟩))
  | rel hlt => exact .rel hlt

/-- Names of which neither begins the other order their lines. -/
theorem lineOf_le {f g : String × String} (hlt : f.1 < g.1)
    (hstart : ¬ f.1.toList <+: g.1.toList) : lineOf f ≤ lineOf g := by
  refine le_of_lt (String.lt_iff_toList_lt.mpr ?_)
  simp only [lineOf, String.toList_append, List.append_assoc]
  exact lt_append_of_lt (String.lt_iff_toList_lt.mp hlt) hstart _ _

/-- **Headers in the order of their names.** Their lines are in order too if no name is the beginning
of another. -/
theorem exists_aligned {fs : List (String × String)} (hnodup : (fs.map (·.1)).Nodup) :
    ∃ gs : List (String × String), gs.Perm fs ∧ (gs.map (·.1)).Pairwise (· < ·) ∧
      ascending (fs.map (·.1)) = gs.map (·.1) ∧
      (PrefixFree (fs.map (·.1)) → ascending (fs.map lineOf) = gs.map lineOf) := by
  have hperm : (fs.mergeSort fun f g => f.1 ≤ g.1).Perm fs := List.mergeSort_perm fs _
  have hsorted : ((fs.mergeSort fun f g => f.1 ≤ g.1).map (·.1)).Pairwise (· ≤ ·) := by
    rw [List.pairwise_map]
    refine (List.pairwise_mergeSort (fun f g h => ?_) (fun f g => ?_) fs).imp (by simp)
    · simpa using le_trans
    · simpa using le_total f.1 g.1
  generalize fs.mergeSort (fun f g => decide (f.1 ≤ g.1)) = gs at hperm hsorted
  have hstrict : (gs.map (·.1)).Pairwise (· < ·) := by
    refine hsorted.imp₂ (fun _ _ hle hne => lt_of_le_of_ne hle hne) ?_
    exact (hperm.map (·.1)).nodup_iff.mpr hnodup
  refine ⟨gs, hperm, hstrict, ascending_of_perm (hperm.map (·.1)).symm hsorted, fun hfree => ?_⟩
  refine ascending_of_perm (hperm.map lineOf).symm ?_
  rw [List.pairwise_map] at hstrict ⊢
  refine hstrict.imp_of_mem fun {f g} hf hg hlt => lineOf_le hlt fun hstart => ?_
  exact absurd (hfree _ (List.mem_map_of_mem (hperm.subset hf)) _
    (List.mem_map_of_mem (hperm.subset hg)) hstart) (ne_of_lt hlt)

/-! ### Headers of requests -/

theorem mem_names_iff_first? {m : Headers} (hm : m.Named) {n : String} :
    n ∈ m.names ↔ lowerAscii n = n ∧ ∃ value, m.first? n = some value := by
  have hfirst : ∀ value, m.first? n = some value → ∃ h ∈ m, h.1 = lowerAscii n := by
    intro value hvalue
    rw [Headers.first?_eq_head?] at hvalue
    obtain ⟨h, hh, -⟩ := List.mem_map.mp (List.mem_of_mem_head? hvalue)
    exact ⟨h, List.mem_of_mem_filter hh, by simpa using (List.mem_filter.mp hh).2⟩
  rw [Headers.mem_names]
  constructor
  · rintro ⟨h, hh, rfl⟩
    have hlower := Headers.lowerAscii_of_named (hm h hh).2
    refine ⟨hlower, ?_⟩
    rw [← Option.isSome_iff_exists, Headers.first?_eq_head?, hlower, List.isSome_head?]
    simpa [Headers.valuesOf] using ⟨h.2, hh⟩
  · rintro ⟨hlower, value, hvalue⟩
    rw [← hlower]
    exact hfirst value hvalue

theorem ofHeaders_of_first? {m m' : Headers} (hm : m.Named) (hm' : m'.Named)
    (h : ∀ name, m.first? name = m'.first? name) {ch : CanonicalHeaders}
    (hch : ofHeaders m = .ok ch) : ofHeaders m' = .ok ch := by
  have hnames : ∀ n, n ∈ m'.names ↔ n ∈ m.names := fun n => by
    rw [mem_names_iff_first? hm, mem_names_iff_first? hm', h]
  obtain ⟨fs, hfs, rfl⟩ := (ofHeaders_eq_ok hm).mp hch
  obtain ⟨fs', hfs'⟩ : ∃ fs', visibleFirsts m' = .ok fs' := by
    refine Except.exists_mapM_eq_ok.mpr fun n hn => ?_
    obtain ⟨f, hf, rfl⟩ := List.mem_map.mp ((visibleFirsts_eq_ok hfs).1 ▸ (hnames n).mp hn)
    rw [← h, ((mem_lines_iff hfs).mp hf).2]
    exact ⟨_, rfl⟩
  have hnodup : ∀ {k : Headers} {gs}, visibleFirsts k = .ok gs → gs.Nodup := fun {k gs} hgs =>
    List.Nodup.of_map (·.1) ((visibleFirsts_eq_ok hgs).1 ▸ Headers.nodup_names k)
  have hperm : fs'.Perm fs := by
    refine (List.perm_ext_iff_of_nodup (hnodup hfs') (hnodup hfs)).mpr fun f => ?_
    rw [mem_lines_iff hfs, mem_lines_iff hfs', hnames, h]
  have hperm' : m'.names.Perm m.names :=
    (List.perm_ext_iff_of_nodup (Headers.nodup_names _) (Headers.nodup_names _)).mpr hnames
  refine (ofHeaders_eq_ok hm').mpr ⟨fs', hfs', ?_⟩
  rw [ascending_eq_of_perm (hperm.map line), ascending_eq_of_perm hperm']

theorem mem_names_insert {name n : String} {value : Bytes} {hs : Headers} :
    n ∈ (hs.insert name value).names ↔ n = lowerAscii name ∨ n ∈ hs.names := by
  rw [Source.mem_names_iff, Source.mem_names_iff, Headers.insert, Headers.append, List.map_append,
    List.mem_append, Headers.mem_map_remove, List.map_singleton, List.mem_singleton]
  tauto

theorem mem_names_remove {name n : String} {hs : Headers} :
    n ∈ (hs.remove name).names ↔ n ≠ lowerAscii name ∧ n ∈ hs.names := by
  rw [Source.mem_names_iff, Source.mem_names_iff, Headers.mem_map_remove]

/-- The headers that every request carries. -/
def sentNames : List String :=
  ["authorization", "content-type", "host", "x-amz-date", "x-amz-target"]

theorem prefixFree_sentNames : PrefixFree sentNames := by decide

theorem plainHeaders_eq_ok {q : Requester} {target : String} {plain : Headers}
    (h : q.plainHeaders target = .ok plain) :
    plain.Named ∧ ∀ n, n ∈ plain.names ↔ n ∈ ["content-type", "host", "x-amz-target"] := by
  unfold Requester.plainHeaders at h
  split at h
  · split at h
    · obtain rfl := Except.pure_eq_ok.mp h
      refine ⟨?_, fun n => ?_⟩
      · have hnil : Headers.Named [] := fun _ hmem => absurd hmem List.not_mem_nil
        refine ((hnil.insert _ ?_).insert _ ?_).insert _ ?_
        all_goals exact ⟨by decide, Text.forall_mem_of_all (by decide)⟩
      · simp only [mem_names_insert, List.mem_cons, List.not_mem_nil, or_false]
        have htarget : lowerAscii Requester.targetHeader = "x-amz-target" := by decide
        have hhost : lowerAscii "host" = "host" := by decide
        have htype : lowerAscii "content-type" = "content-type" := by decide
        have hnil : n ∉ Headers.names [] := List.not_mem_nil
        rw [htarget, hhost, htype]
        tauto
    · exact absurd h nofun
  · exact absurd h nofun

/-- **The headers of a request that is sent** can be signed, all but the one with the signature. -/
theorem headers_of_post {q : Requester} {now : Instant} {target : String} {body : Bytes}
    {p : SignedPost} (h : q.post now target body = .ok p) :
    p.headers.Named ∧ (∀ n, n ∈ p.headers.names ↔ n ∈ sentNames) ∧
      ∃ ch, ofHeaders (p.headers.remove Signature.authorizationHeader) = .ok ch := by
  obtain ⟨plain, signed, hplain, hsign, rfl⟩ := Requester.post_eq_ok.mp h
  obtain ⟨hnamed, hnames⟩ := plainHeaders_eq_ok hplain
  obtain ⟨ch, value, hch, -, rfl⟩ := Signature.sign_eq_ok.mp hsign
  refine ⟨?_, fun n => ?_, ch, ?_⟩
  · exact (Signature.named_stamped hnamed).insert _ ⟨by decide, Text.forall_mem_of_all (by decide)⟩
  · have hauth : lowerAscii Signature.authorizationHeader = "authorization" := by decide
    have hdate : lowerAscii Signature.dateHeader = "x-amz-date" := by decide
    rw [Signature.stamped, mem_names_insert, mem_names_insert, mem_names_remove, hnames, hauth, hdate]
    simp only [sentNames, List.mem_cons, List.not_mem_nil, or_false]
    by_cases hn : n = "authorization"
    · simp [hn]
    · tauto
  · rw [Headers.remove_insert_self, Signature.remove_stamped]
    exact hch

/-! ### The canonical form -/

/-- **What the canonical form of headers is made of**: names with trimmed first values, and lines. -/
structure Form (hs fs : List (String × String)) (lines : List String) : Prop where
  /-- Each name stands once, in ascending order. -/
  names : (fs.map (·.1)).Pairwise (· < ·)
  mem_names : ∀ name, name ∈ fs.map (·.1) ↔ ∃ h ∈ hs, lowerAscii h.1 = name
  /-- The value is that of the first header with the name, without the blanks around it. -/
  value : ∀ f ∈ fs, ∃ before h after, hs = before ++ h :: after ∧
    (∀ g ∈ before, lowerAscii g.1 ≠ f.1) ∧ lowerAscii h.1 = f.1 ∧ Text.Trims h.2 f.2
  /-- Each name has one line. -/
  perm : lines.Perm (fs.map lineOf)
  ascending : lines.Pairwise (· ≤ ·)
  aligned : PrefixFree (fs.map (·.1)) → lines = fs.map lineOf

theorem exists_form (hs : List (String × String)) :
    ∃ (fs : List (String × String)) (lines : List String),
      headers hs = ⟨"\n".intercalate lines, ";".intercalate (fs.map (·.1))⟩ ∧
        Form hs fs lines := by
  obtain ⟨fs, hperm, hstrict, hnames, haligned⟩ := exists_aligned (nodup_trimmedFirsts hs)
  have hsorted : (ascending ((trimmedFirsts hs).map lineOf)).SortedLE := List.sortedLE_mergeSort
  have hmem : ∀ f, f ∈ fs ↔ (firstValue? f.1 hs).map Text.trim = some f.2 := fun f =>
    hperm.mem_iff.trans mem_trimmedFirsts
  refine ⟨fs, ascending ((trimmedFirsts hs).map lineOf), by rw [headers_eq, hnames], hstrict,
    fun name => ?_, fun f hf => ?_, (perm_ascending _).trans (hperm.map lineOf).symm,
    hsorted.pairwise, fun hfree => haligned ?_⟩
  · rw [← exists_firstValue?_iff, List.mem_map]
    constructor
    · rintro ⟨f, hf, rfl⟩
      obtain ⟨value, hvalue, -⟩ := Option.map_eq_some_iff.mp ((hmem f).mp hf)
      exact ⟨value, hvalue⟩
    · rintro ⟨value, hvalue⟩
      exact ⟨(name, Text.trim value), (hmem _).mpr (by rw [hvalue]; rfl), rfl⟩
  · obtain ⟨value, hvalue, htrim⟩ := Option.map_eq_some_iff.mp ((hmem f).mp hf)
    obtain ⟨before, h, after, hsplit, hbefore, hname, rfl⟩ := firstValue?_eq_some.mp hvalue
    exact ⟨before, h, after, hsplit, hbefore, hname, Text.trims_iff.mpr htrim.symm⟩
  · exact hfree.mono (hperm.map (·.1)).symm.subset

/-- The headers of each name are the same, in the same order. -/
def Reordered (hs hs' : List (String × String)) : Prop :=
  ∀ name, hs.filter (fun h => lowerAscii h.1 = name) = hs'.filter fun h => lowerAscii h.1 = name

/-- The second header is the first with other cases of letters in its name, and with blanks around its
value. -/
structure Restyled (h h' : String × String) : Prop where
  name : lowerAscii h'.1 = lowerAscii h.1
  value : ∃ before after : String, h'.2 = before ++ h.2 ++ after ∧
    (∀ c ∈ before.toList, Text.isBlank c = true) ∧ ∀ c ∈ after.toList, Text.isBlank c = true

theorem headers_of_reordered {hs hs' : List (String × String)} (h : Reordered hs hs') :
    headers hs' = headers hs := by
  refine headers_congr fun name => ?_
  rw [← firstValue?_filter name hs', ← firstValue?_filter name hs, h name]

theorem headers_of_restyled {hs hs' : List (String × String)}
    (h : List.Forall₂ Restyled hs hs') : headers hs' = headers hs := by
  refine headers_congr fun name => ?_
  induction h with
  | nil => rfl
  | @cons f f' hs hs' hf _ ih =>
    obtain ⟨hname, before, after, hvalue, hbefore, hafter⟩ := hf
    rw [firstValue?_cons, firstValue?_cons, hname]
    split_ifs
    · rw [Option.map_some, Option.map_some, hvalue, Text.trim_append hbefore hafter]
    · exact ih

/-- Lines and names of a request that is sent go together. -/
theorem exists_aligned_of_post {q : Requester} {now : Instant} {target : String} {body : Bytes}
    {p : SignedPost} (h : q.post now target body = .ok p) :
    ∃ fs : List (String × String),
      ofHeaders (p.headers.remove Signature.authorizationHeader) =
        .ok ⟨"\n".intercalate (fs.map lineOf), ";".intercalate (fs.map (·.1))⟩ ∧
      fs.map (·.1) = ["content-type", "host", "x-amz-date", "x-amz-target"] := by
  obtain ⟨hnamed, hnames, ch, hch⟩ := headers_of_post h
  obtain ⟨fs, hfs, rfl⟩ := (ofHeaders_eq_ok (hnamed.remove _)).mp hch
  set m := p.headers.remove Signature.authorizationHeader
  obtain ⟨hkeys, -⟩ := visibleFirsts_eq_ok hfs
  have hkeys' : (fs.map fun f => (f.1, Text.trim f.2)).map (·.1) = m.names := by
    rw [List.map_map, ← hkeys]
    rfl
  have hlines : (fs.map fun f => (f.1, Text.trim f.2)).map lineOf = fs.map line := by
    rw [List.map_map]
    rfl
  have hmem : ∀ n, n ∈ m.names ↔ n ∈ ["content-type", "host", "x-amz-date", "x-amz-target"] := by
    intro n
    have hauth : lowerAscii Signature.authorizationHeader = "authorization" := by decide
    rw [mem_names_remove, hnames, hauth]
    simp only [sentNames, List.mem_cons, List.not_mem_nil, or_false]
    constructor
    · rintro ⟨hne, hn⟩
      exact hn.resolve_left hne
    · intro hn
      refine ⟨?_, .inr hn⟩
      rcases hn with rfl | rfl | rfl | rfl <;> decide
  obtain ⟨gs, -, -, hascending, haligned⟩ :=
    exists_aligned (hkeys' ▸ Headers.nodup_names m)
  rw [hkeys', hlines] at haligned
  rw [hkeys'] at hascending
  have hfree : PrefixFree m.names := prefixFree_sentNames.mono fun n hn =>
    List.mem_cons_of_mem _ ((hmem n).mp hn)
  refine ⟨gs, by rw [hch, hascending, haligned hfree], ?_⟩
  rw [← hascending]
  exact ascending_of_perm ((List.perm_ext_iff_of_nodup (Headers.nodup_names m) (by decide)).mpr hmem)
    (by decide)

/-- **The canonical form of headers.** It lists each name once, in ascending order, and in ascending
order one line for each name, with the trimmed value of the first header of that name. It is the same
for headers that are reordered among different names, or whose names are spelt in other cases, or
whose values stand between other blanks; of the headers of a request only the first value of each
name counts. Each line stands where its name stands if no name is the beginning of another, and
that is so for all requests that are sent. -/
theorem headers_lines :
    (∀ hs : List (String × String), ∃ (fs : List (String × String)) (lines : List String),
      headers hs = ⟨"\n".intercalate lines, ";".intercalate (fs.map (·.1))⟩ ∧ Form hs fs lines) ∧
    (∀ hs hs' : List (String × String), Reordered hs hs' → headers hs' = headers hs) ∧
    (∀ hs hs' : List (String × String), List.Forall₂ Restyled hs hs' →
      headers hs' = headers hs) ∧
    (∀ m m' : Headers, m.Named → m'.Named → (∀ name, m.first? name = m'.first? name) →
      ∀ ch, ofHeaders m = .ok ch ↔ ofHeaders m' = .ok ch) ∧
    ∀ (q : Requester) (now : Instant) (target : String) (body : Bytes) (p : SignedPost),
      q.post now target body = .ok p →
        PrefixFree p.headers.names ∧ ∃ fs : List (String × String),
          ofHeaders (p.headers.remove Signature.authorizationHeader) =
            .ok ⟨"\n".intercalate (fs.map lineOf), ";".intercalate (fs.map (·.1))⟩ ∧
          fs.map (·.1) = ["content-type", "host", "x-amz-date", "x-amz-target"] := by
  refine ⟨exists_form, fun hs hs' => headers_of_reordered, fun hs hs' => headers_of_restyled,
    fun m m' hm hm' hfirst ch => ⟨?_, ?_⟩, fun q now target body p hp => ⟨?_, ?_⟩⟩
  · exact ofHeaders_of_first? hm hm' hfirst
  · exact ofHeaders_of_first? hm' hm fun name => (hfirst name).symm
  · exact prefixFree_sentNames.mono fun n => ((headers_of_post hp).2.1 n).mp
  · exact exists_aligned_of_post hp

/-- A request that is sent. -/
theorem exists_post :
    ∃ p, Requester.post ⟨"http://db/", "db", "/", "", ⟨"us-east-1", "AKID", "secret", "dynamodb"⟩,
      {}, false⟩ ⟨1369353600, 0⟩ "PutItem" [] = .ok p := by
  let plain : Headers := [("x-amz-target", Bytes.ofString "DynamoDB_20120810.PutItem"),
    ("content-type", Bytes.ofString "application/x-amz-json-1.0"), ("host", Bytes.ofString "db")]
  have htarget : Requester.qualified "PutItem" = "DynamoDB_20120810.PutItem" := by decide
  have hplain : Requester.plainHeaders ⟨"http://db/", "db", "/", "",
      ⟨"us-east-1", "AKID", "secret", "dynamodb"⟩, {}, false⟩ "DynamoDB_20120810.PutItem" =
        .ok plain := by cbv
  have hnamed : plain.Named := by decide
  have hvisible : ∃ ch, ofHeaders
      (Signature.stamped (Instant.mk 1369353600 0).basicText plain) = .ok ch :=
    ⟨_, (ofHeaders_eq_ok (Signature.named_stamped hnamed)).mpr
      ⟨[("x-amz-target", "DynamoDB_20120810.PutItem"),
        ("content-type", "application/x-amz-json-1.0"), ("host", "db"),
        ("x-amz-date", "20130524T000000Z")], by cbv, rfl⟩⟩
  have hshown := @Text.forall_mem_of_all Headers.Printable _
  obtain ⟨signed, hsign⟩ := Signature.exists_sign (t := ⟨"POST", "/", "", []⟩)
    (c := ⟨"us-east-1", "AKID", "secret", "dynamodb"⟩) hnamed hvisible
    (hshown (by decide)) (hshown (by decide)) (hshown (by decide))
  exact ⟨_, Requester.post_eq_ok.mpr ⟨plain, signed, htarget ▸ hplain, hsign, rfl⟩⟩

/-- Headers with a repeated name and with a name that begins another, in another order and then in
another style; headers of a request, of which the second value of a name does not count; and a
request that is sent. -/
theorem headers_lines_repeated :
    let hs := [("x-a", "2"), ("host", "db"), ("HOST", "other"), ("X-A-B", "1")]
    let hs' := [("host", "db"), ("X-A-B", "1"), ("x-a", "2"), ("HOST", "other")]
    let hs'' := [("Host", "db"), ("x-a-b", " 1"), ("X-A", "2"), ("host", "other\t")]
    let m : Headers := [("x-a", Bytes.ofString "2"), ("host", Bytes.ofString "db"),
      ("host", Bytes.ofString "other")]
    let m' : Headers := [("host", Bytes.ofString "db"), ("x-a", Bytes.ofString "2")]
    headers hs = ⟨"host:db\nx-a-b:1\nx-a:2", "host;x-a;x-a-b"⟩ ∧ Reordered hs hs' ∧
      List.Forall₂ Restyled hs' hs'' ∧ headers hs'' = headers hs ∧
      (ofHeaders m = .ok ⟨"host:db\nx-a:2", "host;x-a"⟩ ∧
        ofHeaders m' = .ok ⟨"host:db\nx-a:2", "host;x-a"⟩) ∧
      ∃ p, Requester.post ⟨"http://db/", "db", "/", "", ⟨"us-east-1", "AKID", "secret", "dynamodb"⟩,
        {}, false⟩ ⟨1369353600, 0⟩ "PutItem" [] = .ok p ∧ PrefixFree p.headers.names := by
  intro hs hs' hs'' m m'
  have hform : headers hs = ⟨"host:db\nx-a-b:1\nx-a:2", "host;x-a;x-a-b"⟩ := by
    have hlines : ascending ((trimmedFirsts hs).map lineOf) = ["host:db", "x-a-b:1", "x-a:2"] :=
      ascending_of_perm (by decide) (by decide)
    have hnames : ascending ((trimmedFirsts hs).map (·.1)) = ["host", "x-a", "x-a-b"] :=
      ascending_of_perm (by decide) (by decide)
    rw [headers_eq, hlines, hnames]
    cbv
  have hreordered : Reordered hs hs' := by
    intro name
    by_cases hhost : name = "host"
    · subst hhost; decide
    by_cases hshort : name = "x-a"
    · subst hshort; decide
    by_cases hlong : name = "x-a-b"
    · subst hlong; decide
    have hnone : ∀ gs : List (String × String),
        (∀ g ∈ gs, lowerAscii g.1 ∈ ["host", "x-a", "x-a-b"]) →
          gs.filter (fun g => lowerAscii g.1 = name) = [] := by
      intro gs hgs
      refine List.filter_eq_nil_iff.mpr fun g hg heq => ?_
      have hmem := hgs g hg
      rw [of_decide_eq_true heq] at hmem
      simp [hhost, hshort, hlong] at hmem
    rw [hnone hs (by decide), hnone hs' (by decide)]
  have hblank := @Text.forall_mem_of_all (fun c => Text.isBlank c = true) _
  have hrestyled : List.Forall₂ Restyled hs' hs'' := by
    refine .cons ⟨by decide, "", "", by decide, hblank (by decide), hblank (by decide)⟩ ?_
    refine .cons ⟨by decide, " ", "", by decide, hblank (by decide), hblank (by decide)⟩ ?_
    refine .cons ⟨by decide, "", "", by decide, hblank (by decide), hblank (by decide)⟩ ?_
    exact .cons ⟨by decide, "", "\t", by decide, hblank (by decide), hblank (by decide)⟩ .nil
  obtain ⟨-, hre, hstyle, hmap, hpost⟩ := headers_lines
  have hfirst : ∀ name, m.first? name = m'.first? name := by
    intro name
    rw [Headers.first?_eq_head?, Headers.first?_eq_head?]
    generalize lowerAscii name = n
    by_cases hhost : n = "host"
    · subst hhost; decide
    · by_cases hshort : n = "x-a"
      · subst hshort; decide
      · simp [Headers.valuesOf, m, m', Ne.symm hhost, Ne.symm hshort]
  have hm : ofHeaders m = .ok ⟨"host:db\nx-a:2", "host;x-a"⟩ := by
    have hlines : ascending (["x-a:2", "host:db"]) = ["host:db", "x-a:2"] :=
      ascending_of_perm (by decide) (by decide)
    have hnames : ascending m.names = ["host", "x-a"] := ascending_of_perm (by decide) (by decide)
    refine (ofHeaders_eq_ok (by decide)).mpr ⟨[("x-a", "2"), ("host", "db")], by cbv, ?_⟩
    rw [hnames, show [("x-a", "2"), ("host", "db")].map line = ["x-a:2", "host:db"] by decide, hlines]
    cbv
  obtain ⟨p, hp⟩ := exists_post
  exact ⟨hform, hreordered, hrestyled, (hstyle hs' hs'' hrestyled).trans (hre hs hs' hreordered),
    ⟨hm, (hmap m m' (by decide) (by decide) hfirst _).mp hm⟩, p, hp, (hpost _ _ _ _ p hp).1⟩

end Dynamo.Canonical
