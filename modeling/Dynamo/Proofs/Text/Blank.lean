import Dynamo.Proofs.Text.Joined
import Dynamo.Text.Blank

/-! # Texts without the blanks around them

A text is trimmed if it neither begins nor ends with a blank, and a text has one trimmed part that
only blanks stand around (`trims_iff`), which therefore does not depend on these blanks
(`trim_append`). -/

namespace Dynamo.Text

/-- **`t` is what `s` has between the blanks around it.** -/
structure Trims (s t : String) : Prop where
  around : ∃ before after, s.toList = before ++ t.toList ++ after ∧
    (∀ c ∈ before, isBlank c = true) ∧ ∀ c ∈ after, isBlank c = true
  first : ∀ c ∈ t.toList.head?, isBlank c = false
  last : ∀ c ∈ t.toList.getLast?, isBlank c = false

/-- No blank is among the printable characters of ASCII, the space apart. -/
theorem isBlank_of_toNat {c : Char} (hleast : 33 ≤ c.toNat) (hgreatest : c.toNat ≤ 126) :
    isBlank c = false := by
  refine Bool.eq_false_iff.mpr fun hblank => ?_
  simp only [isBlank, Bool.or_eq_true, Bool.and_eq_true, decide_eq_true_eq] at hblank
  omega

theorem skipBlanks_append {before cs : List Char} (h : ∀ c ∈ before, isBlank c = true) :
    skipBlanks (before ++ cs) = skipBlanks cs :=
  List.dropWhile_append_of_pos h

theorem skipBlanks_eq_self {cs : List Char} (h : ∀ c ∈ cs.head?, isBlank c = false) :
    skipBlanks cs = cs := by
  cases cs with
  | nil => rfl
  | cons c cs => exact List.dropWhile_cons_of_neg (by simpa using h)

theorem exists_skipBlanks (cs : List Char) :
    ∃ before, cs = before ++ skipBlanks cs ∧ (∀ c ∈ before, isBlank c = true) ∧
      ∀ c ∈ (skipBlanks cs).head?, isBlank c = false :=
  ⟨cs.takeWhile isBlank, List.takeWhile_append_dropWhile.symm,
    fun _ hc => List.mem_takeWhile_imp hc, stop_dropWhile isBlank cs⟩

theorem trims_trim (s : String) : Trims s (trim s) := by
  obtain ⟨before, hbefore, hblank, hfirst⟩ := exists_skipBlanks s.toList
  obtain ⟨behind, hbehind, hblank', hlast⟩ := exists_skipBlanks (skipBlanks s.toList).reverse
  have htrim : (trim s).toList = trimChars s.toList := String.toList_ofList
  have hskip : skipBlanks s.toList = trimChars s.toList ++ behind.reverse := by
    rw [trimChars, ← List.reverse_append, ← hbehind, List.reverse_reverse]
  refine ⟨⟨before, behind.reverse, ?_, hblank, fun c hc => hblank' c (List.mem_reverse.mp hc)⟩,
    fun c hc => ?_, fun c hc => ?_⟩
  · rw [htrim, List.append_assoc, ← hskip, ← hbefore]
  · rw [htrim, Option.mem_def] at hc
    refine hfirst c ?_
    rw [hskip, Option.mem_def, List.head?_append, hc, Option.some_or]
  · rw [htrim, trimChars, List.getLast?_reverse] at hc
    exact hlast c hc

/-- **Each text has one trimmed part.** -/
theorem trims_iff {s t : String} : Trims s t ↔ t = trim s := by
  constructor
  · rintro ⟨⟨before, after, hs, hbefore, hafter⟩, hfirst, hlast⟩
    have hlast' : skipBlanks (after.reverse ++ t.toList.reverse) = t.toList.reverse := by
      rw [skipBlanks_append fun c hc => hafter c (List.mem_reverse.mp hc)]
      exact skipBlanks_eq_self fun c hc => hlast c (by rwa [List.head?_reverse] at hc)
    have htrim : trimChars s.toList = t.toList := by
      rw [trimChars, hs, List.append_assoc, skipBlanks_append hbefore]
      cases hchars : t.toList with
      | nil =>
        rw [List.nil_append, ← List.append_nil after, skipBlanks_append hafter]
        rfl
      | cons c cs =>
        have hskip : skipBlanks (c :: cs ++ after) = c :: cs ++ after :=
          skipBlanks_eq_self (by rwa [hchars] at hfirst)
        rw [hskip, ← hchars, List.reverse_append, hlast', List.reverse_reverse]
    rw [trim, htrim, String.ofList_toList]
  · rintro rfl
    exact trims_trim s

theorem trim_eq_self_iff {s : String} :
    trim s = s ↔ (∀ c ∈ s.toList.head?, isBlank c = false) ∧
      ∀ c ∈ s.toList.getLast?, isBlank c = false := by
  constructor
  · intro h
    have htrims := trims_trim s
    rw [h] at htrims
    exact ⟨htrims.first, htrims.last⟩
  · rintro ⟨hfirst, hlast⟩
    have haround : s.toList = [] ++ s.toList ++ [] := by rw [List.nil_append, List.append_nil]
    exact (trims_iff.mp ⟨⟨[], [], haround, nofun, nofun⟩, hfirst, hlast⟩).symm

theorem exists_trimmed_end (cs : List Char) :
    ∃ inner after, cs = inner ++ after ∧ (∀ c ∈ after, isBlank c = true) ∧
      ∀ c ∈ inner.getLast?, isBlank c = false := by
  obtain ⟨before, hcs, hblank, hfirst⟩ := exists_skipBlanks cs.reverse
  refine ⟨(skipBlanks cs.reverse).reverse, before.reverse, ?_,
    fun c hc => hblank c (List.mem_reverse.mp hc), fun c hc => ?_⟩
  · rw [← List.reverse_append, ← hcs, List.reverse_reverse]
  · rw [List.getLast?_reverse] at hc
    exact hfirst c hc

theorem size_trim_le (s : String) : (trim s).utf8ByteSize ≤ s.utf8ByteSize := by
  obtain ⟨before, after, hs, -⟩ := (trims_trim s).around
  have hsize := congrArg (fun cs => (String.ofList cs).utf8ByteSize) hs
  simp only [String.ofList_append, String.utf8ByteSize_append, String.ofList_toList] at hsize
  omega

/-- Blanks around a text do not count. -/
theorem trim_append {before after : String} (hbefore : ∀ c ∈ before.toList, isBlank c = true)
    (hafter : ∀ c ∈ after.toList, isBlank c = true) (s : String) :
    trim (before ++ s ++ after) = trim s := by
  obtain ⟨⟨before', after', hs, hbefore', hafter'⟩, hfirst, hlast⟩ := trims_trim s
  refine (trims_iff.mp ⟨⟨before.toList ++ before', after' ++ after.toList, ?_, ?_, ?_⟩, hfirst,
    hlast⟩).symm
  · simp only [String.toList_append, hs, List.append_assoc]
  · exact List.forall_mem_append.mpr ⟨hbefore, hbefore'⟩
  · exact List.forall_mem_append.mpr ⟨hafter', hafter⟩

end Dynamo.Text
