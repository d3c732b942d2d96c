import Dynamo.Proofs.Except
import Dynamo.Proofs.Signing.Headers
import Dynamo.Proofs.Text.Joined
import Dynamo.Signing.Signature
import Mathlib

/-! # Canonical requests are unambiguous

What goes into a canonical request can be read off it again, although its middle part has as many lines
as there are names of headers, and values may be empty or hold colons.

* `ofHeaders_eq_ok`: the canonical headers, when there are any, have one line for each name, and list
  the names in strictly ascending order.
* `Source.request_unambiguous`: requests with the same canonical form agree in all that is signed; if
  they do not agree, a common text to sign is a collision of the hash. -/

namespace Dynamo.Canonical

/-! ### The headers that are signed -/

theorem mem_of_mem_trim {s : String} {c : Char} (h : c ∈ (Text.trim s).toList) : c ∈ s.toList := by
  rw [Text.trim, String.toList_ofList, Text.trimChars, List.mem_reverse] at h
  have hmem := List.mem_reverse.mp ((List.dropWhile_suffix Text.isBlank).subset h)
  exact (List.dropWhile_suffix Text.isBlank).subset hmem

theorem toList_line (f : String × String) :
    (line f).toList = f.1.toList ++ ':' :: (Text.trim f.2).toList := by
  simp [line]

/-- Of different names in lower case, all are first. -/
theorem foldl_firstValues {fs seen : List (String × String)}
    (hlower : ∀ f ∈ fs, lowerAscii f.1 = f.1) (hnodup : ((seen ++ fs).map (·.1)).Nodup) :
    fs.foldl (fun seen h =>
      let name := lowerAscii h.1
      if (seen.map (·.1)).contains name then seen else seen ++ [(name, h.2)]) seen = seen ++ fs := by
  induction fs generalizing seen with
  | nil => simp
  | cons f fs ih =>
    have hf : f.1 ∉ seen.map (·.1) := by
      rw [List.map_append, List.nodup_append] at hnodup
      exact fun hmem => hnodup.2.2 _ hmem f.1 (by simp) rfl
    have happ : seen ++ f :: fs = (seen ++ [f]) ++ fs := by simp
    rw [List.foldl_cons, hlower f List.mem_cons_self]
    dsimp only
    rw [if_neg (by simpa using hf),
      ih (fun g hg => hlower g (List.mem_cons_of_mem _ hg)) (happ ▸ hnodup), ← happ]

theorem visibleFirsts_eq_ok {hs : Headers} {fs : List (String × String)}
    (h : visibleFirsts hs = .ok fs) :
    fs.map (·.1) = hs.names ∧ ∀ f ∈ fs, (hs.first? f.1).bind Headers.visibleText? = some f.2 := by
  have hrel : List.Forall₂
      (fun name f => name = f.1 ∧ (hs.first? f.1).bind Headers.visibleText? = some f.2)
      hs.names fs := by
    refine (Except.mapM_eq_ok.mp h).imp fun name f hf => ?_
    split at hf
    · next text htext =>
      obtain rfl := Except.ok.inj hf
      exact ⟨rfl, htext⟩
    · exact absurd hf nofun
  refine ⟨?_, fun f hf => ?_⟩
  · have hmap : List.Forall₂ (· = ·) hs.names (fs.map (·.1)) :=
      List.forall₂_map_right_iff.mpr (hrel.imp fun _ _ h => h.1)
    exact (List.forall₂_eq_eq_eq ▸ hmap :).symm
  · obtain ⟨_, _, _, hvalue⟩ := Except.exists_of_forall₂_right hrel hf
    exact hvalue

theorem perm_ascending (ss : List String) : (ascending ss).Perm ss := List.mergeSort_perm ss _

theorem ascending_of_perm {ss ts : List String} (h : ss.Perm ts) (hts : ts.Pairwise (· ≤ ·)) :
    ascending ss = ts := by
  have hsorted : (ascending ss).SortedLE := List.sortedLE_mergeSort
  exact ((perm_ascending ss).trans h).eq_of_pairwise (fun _ _ _ _ => le_antisymm) hsorted.pairwise hts

theorem ascending_pairwise {ss : List String} (h : ss.Nodup) :
    (ascending ss).Pairwise (· < ·) := by
  have hsorted : (ascending ss).SortedLE := List.sortedLE_mergeSort
  exact (hsorted.sortedLT_of_nodup ((perm_ascending ss).nodup_iff.mpr h)).pairwise

/-- **Canonical headers** are the lines of the first values, and the names. -/
theorem headers_of_visibleFirsts {hs : Headers} (hn : hs.Named) {fs : List (String × String)}
    (h : visibleFirsts hs = .ok fs) :
    headers fs = ⟨"\n".intercalate (ascending (fs.map line)),
      ";".intercalate (ascending hs.names)⟩ := by
  obtain ⟨hnames, -⟩ := visibleFirsts_eq_ok h
  have hlower : ∀ f ∈ fs, lowerAscii f.1 = f.1 := by
    intro f hf
    have hmem : f.1 ∈ hs.names := hnames ▸ List.mem_map_of_mem hf
    exact Headers.lowerAscii_of_named (hn.of_mem_names hmem).2
  have hfirst : firstValues fs = fs := by
    refine (foldl_firstValues hlower ?_).trans (List.nil_append fs)
    rw [List.nil_append, hnames]
    exact Headers.nodup_names hs
  rw [headers, hfirst, hnames]

theorem ofHeaders_eq_ok {hs : Headers} (hn : hs.Named) {ch : CanonicalHeaders} :
    ofHeaders hs = .ok ch ↔ ∃ fs, visibleFirsts hs = .ok fs ∧
      ch = ⟨"\n".intercalate (ascending (fs.map line)), ";".intercalate (ascending hs.names)⟩ := by
  rw [ofHeaders, Except.bind_eq_ok]
  refine exists_congr fun fs => and_congr_right fun hfs => ?_
  rw [Except.pure_eq_ok, headers_of_visibleFirsts hn hfs, eq_comm]

/-- The value of the first header with the name, without the blanks around it. -/
def trimmed? (name : String) (hs : Headers) : Option String :=
  ((hs.first? name).bind Headers.visibleText?).map Text.trim

theorem mem_lines_iff {hs : Headers} {fs : List (String × String)}
    (h : visibleFirsts hs = .ok fs) {f : String × String} :
    f ∈ fs ↔ f.1 ∈ hs.names ∧ (hs.first? f.1).bind Headers.visibleText? = some f.2 := by
  obtain ⟨hnames, hvalues⟩ := visibleFirsts_eq_ok h
  constructor
  · intro hf
    exact ⟨hnames ▸ List.mem_map_of_mem hf, hvalues f hf⟩
  · rintro ⟨hname, hvalue⟩
    rw [← hnames] at hname
    obtain ⟨g, hg, hgf⟩ := List.mem_map.mp hname
    have hsnd : g.2 = f.2 := Option.some.inj ((hvalues g hg).symm.trans (hgf ▸ hvalue))
    exact Prod.ext hgf hsnd ▸ hg

/-! ### What a canonical request is made of -/

/-- What is signed of a request. -/
structure Source where
  method : String
  path : String
  query : String
  headers : Headers
  payloadHash : String

namespace Source

/-- The canonical request, if all headers can be signed. -/
def request (s : Source) : Except SignError String :=
  return Canonical.request s.method s.path s.query (← ofHeaders s.headers) s.payloadHash

/-- The path as it is sent. -/
def sentPath (s : Source) : String := if s.path.isEmpty then "/" else s.path

/-- All parts but the headers are one line, and the headers have names of headers. -/
structure OneLine (s : Source) : Prop where
  method : '\n' ∉ s.method.toList
  path : '\n' ∉ s.path.toList
  query : '\n' ∉ s.query.toList
  payloadHash : '\n' ∉ s.payloadHash.toList
  headers : s.headers.Named

/-- Two requests agree in what is signed of them. -/
structure Agrees (s s' : Source) : Prop where
  method : s.method = s'.method
  path : s.sentPath = s'.sentPath
  query : s.query = s'.query
  names : ∀ name, name ∈ s.headers.map (·.1) ↔ name ∈ s'.headers.map (·.1)
  values : ∀ name ∈ s.headers.map (·.1), trimmed? name s.headers = trimmed? name s'.headers
  payloadHash : s.payloadHash = s'.payloadHash

variable {s s' : Source}

theorem newline_notMem_sentPath (h : s.OneLine) : '\n' ∉ s.sentPath.toList := by
  unfold sentPath
  split
  · decide
  · exact h.path

theorem newline_notMem_line (h : s.OneLine) {fs : List (String × String)}
    (hfs : visibleFirsts s.headers = .ok fs) : ∀ l ∈ ascending (fs.map line), '\n' ∉ l.toList := by
  intro l hl
  obtain ⟨f, hf, rfl⟩ := List.mem_map.mp ((perm_ascending _).mem_iff.mp hl)
  obtain ⟨hname, hvalue⟩ := (mem_lines_iff hfs).mp hf
  obtain ⟨value, -, hvisible⟩ := Option.bind_eq_some_iff.mp hvalue
  rw [toList_line, List.mem_append, List.mem_cons, not_or, not_or]
  refine ⟨fun hmem => ?_, by decide, fun hmem => ?_⟩
  · exact Headers.ne_of_isNameChar ((h.headers.of_mem_names hname).2 _ hmem) (by decide) rfl
  · exact Headers.newline_notMem hvisible (mem_of_mem_trim hmem)

/-! ### Reading off the parts -/

/-- The lines that the lines of the headers make: without any, there is an empty one. -/
def block (ls : List String) : List String := if ls = [] then [""] else ls

theorem block_ne_nil (ls : List String) : block ls ≠ [] := by
  unfold block
  split <;> simp_all

theorem mem_block {l : String} {ls : List String} (h : l ∈ block ls) : l = "" ∨ l ∈ ls := by
  unfold block at h
  split at h
  · exact .inl (List.mem_singleton.mp h)
  · exact .inr h

theorem intercalate_block (ls : List String) : "\n".intercalate (block ls) = "\n".intercalate ls := by
  unfold block
  split
  · next h => rw [h]; rfl
  · rfl

/-- No line of a header is empty, so the empty line of no headers is no header's. -/
theorem block_injective {ls ms : List String} (hl : "" ∉ ls) (hm : "" ∉ ms)
    (heq : block ls = block ms) : ls = ms := by
  unfold block at heq
  split at heq <;> split at heq
  · next hls hms => rw [hls, hms]
  · exact absurd (heq ▸ List.mem_singleton_self "") hm
  · exact absurd (heq ▸ List.mem_singleton_self "") hl
  · exact heq

theorem ne_empty_of_mem_lines {fs : List (String × String)} : "" ∉ ascending (fs.map line) := by
  intro hmem
  obtain ⟨f, -, hf⟩ := List.mem_map.mp ((perm_ascending _).mem_iff.mp hmem)
  have hcolon : ':' ∈ (line f).toList := by
    rw [toList_line]
    exact List.mem_append_right _ List.mem_cons_self
  rw [hf] at hcolon
  exact absurd hcolon List.not_mem_nil

/-- **The canonical request, line by line.** -/
theorem request_eq_ok (h : s.OneLine) {R : String} :
    s.request = .ok R ↔ ∃ fs, visibleFirsts s.headers = .ok fs ∧
      R = "\n".intercalate ([s.method, s.sentPath, s.query] ++ (block (ascending (fs.map line)) ++
        ["", ";".intercalate (ascending s.headers.names), s.payloadHash])) := by
  have hparts : ∀ ls names : List String,
      Canonical.request s.method s.path s.query ⟨"\n".intercalate ls, ";".intercalate names⟩
          s.payloadHash =
        "\n".intercalate ([s.method, s.sentPath, s.query] ++
          (block ls ++ ["", ";".intercalate names, s.payloadHash])) := by
    intro ls names
    rw [← Text.intercalate_nested (by simp) (block_ne_nil _) (by simp), intercalate_block]
    rfl
  rw [request, Except.bind_eq_ok]
  constructor
  · rintro ⟨ch, hch, hR⟩
    obtain ⟨fs, hfs, rfl⟩ := (ofHeaders_eq_ok h.headers).mp hch
    exact ⟨fs, hfs, (Except.pure_eq_ok.mp hR).symm.trans (hparts _ _)⟩
  · rintro ⟨fs, hfs, rfl⟩
    exact ⟨_, (ofHeaders_eq_ok h.headers).mpr ⟨fs, hfs, rfl⟩, Except.pure_eq_ok.mpr (hparts _ _)⟩

theorem newline_notMem_parts (h : s.OneLine) {fs : List (String × String)}
    (hfs : visibleFirsts s.headers = .ok fs) :
    ∀ l ∈ [s.method, s.sentPath, s.query] ++ (block (ascending (fs.map line)) ++
      ["", ";".intercalate (ascending s.headers.names), s.payloadHash]), '\n' ∉ l.toList := by
  have hnames : '\n' ∉ (";".intercalate (ascending s.headers.names)).toList := by
    refine Text.notMem_intercalate (by decide) fun n hn hmem => ?_
    have hname := h.headers.of_mem_names ((perm_ascending _).mem_iff.mp hn)
    exact Headers.ne_of_isNameChar (hname.2 _ hmem) (by decide) rfl
  intro l hl
  rcases List.mem_append.mp hl with hl | hl
  · simp only [List.mem_cons, List.not_mem_nil, or_false] at hl
    rcases hl with rfl | rfl | rfl
    exacts [h.method, newline_notMem_sentPath h, h.query]
  rcases List.mem_append.mp hl with hl | hl
  · rcases mem_block hl with rfl | hl
    · decide
    · exact newline_notMem_line h hfs l hl
  · simp only [List.mem_cons, List.not_mem_nil, or_false] at hl
    rcases hl with rfl | rfl | rfl
    exacts [by decide, hnames, h.payloadHash]

/-- Headers with the same lines have the same names and the same trimmed values. -/
theorem trimmed?_of_lines (h : s.OneLine) (h' : s'.OneLine) {fs fs' : List (String × String)}
    (hfs : visibleFirsts s.headers = .ok fs) (hfs' : visibleFirsts s'.headers = .ok fs')
    (hlines : ascending (fs.map line) = ascending (fs'.map line)) {name : String}
    (hname : name ∈ s.headers.names) :
    name ∈ s'.headers.names ∧ trimmed? name s.headers = trimmed? name s'.headers := by
  obtain ⟨hnames, hvalues⟩ := visibleFirsts_eq_ok hfs
  obtain ⟨f, hf, rfl⟩ := List.mem_map.mp (hnames ▸ hname)
  have hmem : line f ∈ fs'.map line := by
    rw [← (perm_ascending _).mem_iff, ← hlines, (perm_ascending _).mem_iff]
    exact List.mem_map_of_mem hf
  obtain ⟨g, hg, hgf⟩ := List.mem_map.mp hmem
  obtain ⟨hgname, hgvalue⟩ := (mem_lines_iff hfs').mp hg
  -- a name holds no colon, so that the first colon of a line ends the name
  have hcut : g.1.toList = f.1.toList ∧ (Text.trim g.2).toList = (Text.trim f.2).toList := by
    refine Text.append_cons_inj (c := ':') (fun hc => ?_) (fun hc => ?_) ?_
    · exact Headers.ne_of_isNameChar ((h'.headers.of_mem_names hgname).2 _ hc) (by decide) rfl
    · exact Headers.ne_of_isNameChar ((h.headers.of_mem_names hname).2 _ hc) (by decide) rfl
    · rw [← toList_line, ← toList_line, hgf]
  have hgf₁ : g.1 = f.1 := String.toList_injective hcut.1
  rw [hgf₁] at hgname hgvalue
  refine ⟨hgname, ?_⟩
  rw [trimmed?, trimmed?, hvalues f hf, hgvalue, Option.map_some, Option.map_some,
    String.toList_injective hcut.2]

theorem mem_names_iff {hs : Headers} {name : String} :
    name ∈ hs.names ↔ name ∈ hs.map (·.1) := by
  rw [Headers.mem_names, List.mem_map]

/-- **Requests with the same canonical form agree.** -/
theorem agrees_of_request_eq (h : s.OneLine) (h' : s'.OneLine) {R : String}
    (hR : s.request = .ok R) (hR' : s'.request = .ok R) : s.Agrees s' := by
  obtain ⟨fs, hfs, hparts⟩ := (request_eq_ok h).mp hR
  obtain ⟨fs', hfs', hparts'⟩ := (request_eq_ok h').mp hR'
  have heq := Text.eq_of_intercalate_eq (c := '\n') (by decide) (by simp) (by simp)
    (newline_notMem_parts h hfs) (newline_notMem_parts h' hfs') (hparts.symm.trans hparts')
  obtain ⟨hhead, htail⟩ := List.append_inj heq rfl
  -- the last three lines are cut off from behind, since the lines of the headers are not counted
  obtain ⟨hblock, hlast⟩ := List.append_inj' htail rfl
  simp only [List.cons.injEq, and_true, true_and] at hhead hlast
  have hlines := block_injective ne_empty_of_mem_lines ne_empty_of_mem_lines hblock
  have hnames : ∀ name, name ∈ s.headers.names ↔ name ∈ s'.headers.names := fun name =>
    ⟨fun hn => (trimmed?_of_lines h h' hfs hfs' hlines hn).1,
      fun hn => (trimmed?_of_lines h' h hfs' hfs hlines.symm hn).1⟩
  refine ⟨hhead.1, hhead.2.1, hhead.2.2, fun name => ?_, fun name hname => ?_, hlast.2⟩
  · rw [← mem_names_iff, ← mem_names_iff, hnames]
  · exact (trimmed?_of_lines h h' hfs hfs' hlines (mem_names_iff.mpr hname)).2

/-! ### Texts to sign -/

theorem hash_of_stringToSign {t t' scope scope' hash hash' : String} (h : '\n' ∉ hash.toList)
    (h' : '\n' ∉ hash'.toList)
    (heq : Signature.stringToSign t scope hash = Signature.stringToSign t' scope' hash') :
    hash = hash' := by
  have hsplit : ∀ t scope hash, (Signature.stringToSign t scope hash).toList =
      ("\n".intercalate [Signature.algorithm, t, scope]).toList ++ '\n' :: hash.toList := by
    intro t scope hash
    show ("\n".intercalate ([Signature.algorithm, t, scope] ++ [hash])).toList = _
    rw [String.intercalate_append_of_ne_nil (by simp) (by simp), String.intercalate_singleton,
      String.append_assoc, String.toList_append, String.toList_append]
    rfl
  have hcut := congrArg (Text.cutLast? '\n') (congrArg String.toList heq)
  rw [hsplit, hsplit, Text.cutLast?_append_cons h, Text.cutLast?_append_cons h'] at hcut
  exact String.toList_injective (Prod.mk.inj (Option.some.inj hcut)).2

/-- **A canonical request is unambiguous.** Requests with the same canonical form have the same
method, path, query and hash of the body, the same names of headers, and the same trimmed first value
for each; requests that differ in any of these are signed over the same text only if two different
texts have the same hash. -/
theorem request_unambiguous (h : s.OneLine) (h' : s'.OneLine) {R R' : String}
    (hR : s.request = .ok R) (hR' : s'.request = .ok R') :
    (R = R' → s.Agrees s') ∧
      ∀ t scope t' scope', ¬ s.Agrees s' →
        Signature.stringToSign t scope (Signature.payloadHash (.ofString R)) =
          Signature.stringToSign t' scope' (Signature.payloadHash (.ofString R')) →
        Bytes.ofString R ≠ Bytes.ofString R' ∧
          Sha256.digest (.ofString R) = Sha256.digest (.ofString R') := by
  have hagrees : R = R' → s.Agrees s' := by
    rintro rfl
    exact agrees_of_request_eq h h' hR hR'
  refine ⟨hagrees, fun t scope t' scope' hne heq => ⟨fun hbytes => ?_, ?_⟩⟩
  · exact hne (hagrees (Bytes.ofString_injective hbytes))
  · have hnewline : ∀ n < 16, hexDigit n ≠ '\n' := by decide
    exact Bytes.hex_injective
      (hash_of_stringToSign (Bytes.notMem_hex hnewline _) (Bytes.notMem_hex hnewline _) heq)

/-- Two requests that agree: a value with a colon, an empty one, and a second value that is not
signed. -/
theorem request_unambiguous_colon :
    let s : Source := ⟨"POST", "", "", [("host", Bytes.ofString "db:8000"), ("x-note", [])], "00"⟩
    let s' : Source := ⟨"POST", "/", "", [("x-note", Bytes.ofString " "),
      ("host", Bytes.ofString " db:8000"), ("host", Bytes.ofString "other")], "00"⟩
    let R := "POST\n/\n\nhost:db:8000\nx-note:\n\nhost;x-note\n00"
    s.OneLine ∧ s'.OneLine ∧ s.request = .ok R ∧ s'.request = .ok R ∧ s.Agrees s' := by
  intro s s' R
  have h : s.OneLine := ⟨by decide, by decide, by decide, by decide, by decide⟩
  have h' : s'.OneLine := ⟨by decide, by decide, by decide, by decide, by decide⟩
  have hlines : ∀ ls : List String, ls.Perm ["host:db:8000", "x-note:"] →
      ascending ls = ["host:db:8000", "x-note:"] :=
    fun ls hls => ascending_of_perm hls (by decide)
  have hnames : ∀ ns : List String, ns.Perm ["host", "x-note"] →
      ascending ns = ["host", "x-note"] :=
    fun ns hns => ascending_of_perm hns (by decide)
  have hR : s.request = .ok R := by
    refine (request_eq_ok h).mpr ⟨[("host", "db:8000"), ("x-note", "")], by cbv, ?_⟩
    rw [hlines _ (by decide), hnames _ (by decide)]
    cbv
  have hR' : s'.request = .ok R := by
    refine (request_eq_ok h').mpr ⟨[("x-note", " "), ("host", " db:8000")], by cbv, ?_⟩
    rw [hlines _ (by decide), hnames _ (by decide)]
    cbv
  exact ⟨h, h', hR, hR', (request_unambiguous h h' hR hR').1 rfl⟩

end Source

end Dynamo.Canonical
