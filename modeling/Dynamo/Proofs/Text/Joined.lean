import Mathlib.Data.List.Basic
import Mathlib.Data.List.TakeWhile

/-! # Joined texts and their parts

Parts that are joined by a character that none of them holds are read off the whole again: all of them
(`splitOn_toList_intercalate`), the first (`takeWhile_append_cons`), or the last
(`cutLast?_append_cons`). -/

namespace Dynamo.Text

/-! ### All parts -/

section Parts
variable {c : Char} {sep : String} (hsep : sep.toList = [c])
include hsep

theorem splitOn_toList_intercalate {ss : List String} (hss : ss ≠ [])
    (h : ∀ s ∈ ss, c ∉ s.toList) :
    (sep.intercalate ss).toList.splitOn c = ss.map String.toList := by
  rw [String.toList_intercalate, hsep]
  refine List.splitOn_intercalate c ?_ (by simpa using hss)
  rintro _ hl
  obtain ⟨s, hs, rfl⟩ := List.mem_map.mp hl
  exact h s hs

/-- **What is joined is known from the whole.** -/
theorem eq_of_intercalate_eq {ss ts : List String} (hss : ss ≠ []) (hts : ts ≠ [])
    (hs : ∀ s ∈ ss, c ∉ s.toList) (ht : ∀ t ∈ ts, c ∉ t.toList)
    (h : sep.intercalate ss = sep.intercalate ts) : ss = ts := by
  have hmap : ss.map String.toList = ts.map String.toList := by
    rw [← splitOn_toList_intercalate hsep hss hs, ← splitOn_toList_intercalate hsep hts ht, h]
  exact (List.map_inj_right fun _ _ => String.toList_injective).mp hmap

end Parts

/-- Characters that are looked at one by one; to decide the statement itself may mean to go through all
characters there are. -/
theorem forall_mem_of_all {p : Char → Prop} [DecidablePred p] {cs : List Char}
    (h : cs.all (fun c => decide (p c)) = true) : ∀ c ∈ cs, p c := by
  simpa using h

theorem forall_mem_intercalate {p : Char → Prop} {sep : String} {ss : List String}
    (hsep : ∀ c ∈ sep.toList, p c) (h : ∀ s ∈ ss, ∀ c ∈ s.toList, p c) :
    ∀ c ∈ (sep.intercalate ss).toList, p c := by
  induction ss with
  | nil => exact fun c hc => absurd hc List.not_mem_nil
  | cons s ss ih =>
    rw [List.forall_mem_cons] at h
    by_cases hss : ss = []
    · simpa [hss] using h.1
    · rw [String.intercalate_cons_of_ne_nil hss, String.toList_append, String.toList_append,
        List.forall_mem_append, List.forall_mem_append]
      exact ⟨⟨h.1, hsep⟩, ih h.2⟩

theorem notMem_intercalate {c : Char} {sep : String} {ss : List String} (hsep : c ∉ sep.toList)
    (h : ∀ s ∈ ss, c ∉ s.toList) : c ∉ (sep.intercalate ss).toList := by
  have hne : ∀ d ∈ (sep.intercalate ss).toList, d ≠ c :=
    forall_mem_intercalate (fun d hd heq => hsep (heq ▸ hd)) fun s hs d hd heq =>
      h s hs (heq ▸ hd)
  exact fun hc => hne c hc rfl

/-- A part that is joined itself by the same text adds its parts to the others. -/
theorem intercalate_nested {sep : String} {as bs cs : List String} (has : as ≠ []) (hbs : bs ≠ [])
    (hcs : cs ≠ []) :
    sep.intercalate (as ++ sep.intercalate bs :: cs) = sep.intercalate (as ++ (bs ++ cs)) := by
  rw [String.intercalate_append_of_ne_nil has (List.cons_ne_nil _ _),
    String.intercalate_cons_of_ne_nil hcs,
    String.intercalate_append_of_ne_nil has (by simp [hbs]),
    String.intercalate_append_of_ne_nil hbs hcs]

/-! ### The first part, and the last -/

/-- As many characters as there are of one kind are taken, and what follows is of another kind. -/
theorem takeWhile_append_of_stop {p : Char → Bool} {xs ys : List Char} (hxs : ∀ c ∈ xs, p c = true)
    (hys : ∀ c ∈ ys.head?, p c = false) :
    (xs ++ ys).takeWhile p = xs ∧ (xs ++ ys).dropWhile p = ys := by
  rw [List.takeWhile_append_of_pos hxs, List.dropWhile_append_of_pos hxs]
  cases ys with
  | nil => simp
  | cons c ys => simp [hys c rfl]

theorem stop_dropWhile (p : Char → Bool) (cs : List Char) :
    ∀ c ∈ (cs.dropWhile p).head?, p c = false := by
  intro c hc
  have hhead := List.head?_dropWhile_not p cs
  rw [Option.mem_def] at hc
  rw [hc] at hhead
  exact hhead

theorem takeWhile_append_cons {c : Char} {xs ys : List Char} (h : c ∉ xs) :
    (xs ++ c :: ys).takeWhile (· ≠ c) = xs := by
  rw [List.takeWhile_append_of_pos]
  · simp
  · intro d hd
    have hne : d ≠ c := fun heq => h (heq ▸ hd)
    simpa using hne

/-- What stands before the first of a character, and behind it, is known from the whole. -/
theorem append_cons_inj {c : Char} {xs xs' ys ys' : List Char} (h : c ∉ xs) (h' : c ∉ xs')
    (heq : xs ++ c :: ys = xs' ++ c :: ys') : xs = xs' ∧ ys = ys' := by
  obtain rfl : xs = xs' := by
    have hxs : (xs ++ c :: ys).takeWhile (· ≠ c) = xs := takeWhile_append_cons h
    rw [← hxs, heq, takeWhile_append_cons h']
  exact ⟨rfl, List.tail_eq_of_cons_eq (List.append_cancel_left heq)⟩

/-- The characters before the last `c`, and those behind it. -/
def cutLast? (c : Char) : List Char → Option (List Char × List Char)
  | [] => none
  | d :: ds =>
    match cutLast? c ds with
    | some (before, behind) => some (d :: before, behind)
    | none => if d = c then some ([], ds) else none

theorem cutLast?_eq_none {c : Char} {cs : List Char} (h : c ∉ cs) : cutLast? c cs = none := by
  induction cs with
  | nil => rfl
  | cons d ds ih =>
    rw [List.mem_cons, not_or] at h
    rw [cutLast?, ih h.2]
    exact if_neg (Ne.symm h.1)

theorem cutLast?_append_cons {c : Char} {xs ys : List Char} (h : c ∉ ys) :
    cutLast? c (xs ++ c :: ys) = some (xs, ys) := by
  induction xs with
  | nil => rw [List.nil_append, cutLast?, cutLast?_eq_none h]; exact if_pos rfl
  | cons x xs ih => rw [List.cons_append, cutLast?, ih]

end Dynamo.Text
