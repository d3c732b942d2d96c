import Dynamo.Dict
import Mathlib.Data.List.Forall2
import Mathlib.Data.List.Induction

/-! # The last entry of a name counts

Where entries are inserted one after the other, the dictionary holds of each name what the last entry
with the name says (`Entries.get?_insertAll`). In ordered entries no name occurs twice, so they are
the dictionary they make (`Entries.ofList_of_sorted`). -/

namespace Dynamo

namespace Entries

variable {α β : Type}

/-- The value of the last entry with the name `k`. -/
def last? (k : String) (xs : Entries α) : Option α :=
  (xs.filter fun e => e.1 = k).getLast?.map (·.2)

@[simp] theorem last?_nil (k : String) : last? k ([] : Entries α) = none := rfl

theorem last?_cons (k : String) (e : String × α) (xs : Entries α) :
    last? k (e :: xs) = (last? k xs).or (if k = e.1 then some e.2 else none) := by
  unfold last?
  by_cases h : k = e.1
  · rw [List.filter_cons_of_pos (by simp [h]), List.getLast?_cons, if_pos h]
    cases (xs.filter fun e => e.1 = k).getLast? <;> rfl
  · rw [List.filter_cons_of_neg (by simpa using Ne.symm h), if_neg h, Option.or_none]

theorem last?_append (k : String) (xs ys : Entries α) :
    last? k (xs ++ ys) = (last? k ys).or (last? k xs) := by
  unfold last?
  rw [List.filter_append, List.getLast?_append]
  cases (ys.filter fun e => e.1 = k).getLast? <;> rfl

theorem get?_insertAll (k : String) (xs m : Entries α) :
    get? k (insertAll xs m) = (last? k xs).or (get? k m) := by
  induction xs generalizing m with
  | nil => rfl
  | cons e xs ih =>
    show get? k (insertAll xs (insert e.1 e.2 m)) = _
    rw [ih, get?_insert, last?_cons, Option.or_assoc]
    by_cases h : k = e.1
    · rw [if_pos h, if_pos h, Option.some_or]
    · rw [if_neg h, if_neg h, Option.none_or]

theorem insertAll_append (xs ys m : Entries α) :
    insertAll (xs ++ ys) m = insertAll ys (insertAll xs m) := List.foldl_append

theorem get?_ofList (k : String) (xs : Entries α) : get? k (ofList xs) = last? k xs := by
  rw [ofList, get?_insertAll, get?_nil, Option.or_none]

theorem last?_of_sorted (k : String) {m : Entries α} (h : Sorted m) : last? k m = get? k m := by
  induction m with
  | nil => rfl
  | cons e m ih =>
    rw [last?_cons, ih (List.pairwise_cons.mp h).2]
    by_cases hk : k = e.1
    · subst hk
      rw [get?_cons_of_sorted h, Option.none_or, if_pos rfl]
      simp [get?]
    · rw [if_neg hk, Option.or_none]
      simp [get?, hk]

/-- **Ordered entries are the dictionary they make.** -/
theorem ofList_of_sorted {m : Entries α} (h : Sorted m) : ofList m = m :=
  ext_get? (sorted_ofList m) h fun k => by rw [get?_ofList, last?_of_sorted k h]

theorem mem_of_last? {k : String} {a : α} {xs : Entries α} (h : last? k xs = some a) :
    (k, a) ∈ xs := by
  obtain ⟨e, he, rfl⟩ := Option.map_eq_some_iff.mp h
  have hmem := List.mem_filter.mp (List.mem_of_getLast? he)
  obtain rfl : e.1 = k := by simpa using hmem.2
  exact hmem.1

theorem get?_of_mem_of_sorted {e : String × α} {m : Entries α} (hm : Sorted m) (h : e ∈ m) :
    get? e.1 m = some e.2 := by
  induction m with
  | nil => exact absurd h List.not_mem_nil
  | cons e' m ih =>
    obtain ⟨hlt, hm'⟩ := List.pairwise_cons.mp hm
    obtain ⟨k', v'⟩ := e'
    rcases List.mem_cons.mp h with rfl | h
    · simp [get?]
    · have hne : e.1 ≠ k' := fun heq => String.lt_irrefl k' (heq ▸ hlt e h)
      rw [get?, if_neg hne, ih hm' h]

theorem mem_of_mem_ofList {e : String × α} {xs : Entries α} (h : e ∈ ofList xs) : e ∈ xs := by
  have hget := get?_of_mem_of_sorted (sorted_ofList xs) h
  rw [get?_ofList] at hget
  exact mem_of_last? hget

theorem sorted_iff_keys {m : Entries α} : Sorted m ↔ (keys m).Pairwise (· < ·) :=
  List.pairwise_map.symm

theorem sorted_filter (p : String × α → Bool) {m : Entries α} (h : Sorted m) :
    Sorted (m.filter p) := List.Pairwise.filter p h

/-- Entries with the same names in the same order are ordered alike. -/
theorem sorted_of_keys_eq {m : Entries α} {m' : Entries β} (h : keys m = keys m')
    (hm : Sorted m) : Sorted m' := by
  rw [sorted_iff_keys] at hm ⊢
  rwa [← h]

theorem keys_eq_of_forall₂ {m : Entries α} {m' : Entries β}
    (h : List.Forall₂ (fun e f => e.1 = f.1) m m') : keys m = keys m' := by
  induction h with
  | nil => rfl
  | cons hef _ ih => exact congrArg₂ List.cons hef ih

theorem last?_eq_none_of_forall_ne {k : String} {xs : Entries α} (h : ∀ e ∈ xs, e.1 ≠ k) :
    last? k xs = none := by
  unfold last?
  rw [List.filter_eq_nil_iff.mpr fun e he => by simpa using h e he]
  rfl

theorem ofList_eq_nil {xs : Entries α} : ofList xs = [] ↔ xs = [] := by
  refine ⟨fun h => ?_, by rintro rfl; rfl⟩
  cases xs with
  | nil => rfl
  | cons e xs =>
    have hget := get?_ofList e.1 (e :: xs)
    rw [h, get?_nil, last?_cons, if_pos rfl] at hget
    cases hlast : last? e.1 xs with
    | none =>
      rw [hlast] at hget
      exact absurd hget nofun
    | some a =>
      rw [hlast] at hget
      exact absurd hget nofun

theorem get?_eq_head? (k : String) (m : Entries α) :
    get? k m = ((m.filter fun e => e.1 = k).head?).map (·.2) := by
  induction m with
  | nil => rfl
  | cons e m ih =>
    rw [get?]
    by_cases h : k = e.1
    · rw [if_pos h, List.filter_cons_of_pos (by simp [h])]
      rfl
    · rw [if_neg h, List.filter_cons_of_neg (by simpa using Ne.symm h), ih]

/-! ### Names that occur once -/

/-- Where no name occurs twice, the last entry of a name is the only one. -/
theorem filter_of_nodup {xs : Entries α} (h : (keys xs).Nodup) (k : String) :
    xs.filter (fun e => e.1 = k) = (last? k xs).toList.map fun a => (k, a) := by
  induction xs with
  | nil => rfl
  | cons e xs ih =>
    obtain ⟨hnot, hxs⟩ := List.nodup_cons.mp h
    rw [last?_cons]
    by_cases hk : k = e.1
    · have hnone : last? k xs = none := by
        refine last?_eq_none_of_forall_ne fun f hf heq => hnot ?_
        exact List.mem_map.mpr ⟨f, hf, heq.trans hk⟩
      rw [List.filter_cons_of_pos (by simp [hk]), ih hxs, hnone, if_pos hk, hk]
      rfl
    · rw [List.filter_cons_of_neg (by simpa using Ne.symm hk), ih hxs, if_neg hk, Option.or_none]

theorem last?_of_mem {xs : Entries α} (h : (keys xs).Nodup) {e : String × α} (he : e ∈ xs) :
    last? e.1 xs = some e.2 := by
  have hmem : e ∈ xs.filter fun f => f.1 = e.1 := List.mem_filter.mpr ⟨he, by simp⟩
  rw [filter_of_nodup h] at hmem
  obtain ⟨a, ha, hae⟩ := List.mem_map.mp hmem
  rw [← (Prod.mk.inj hae).2]
  exact Option.mem_toList.mp ha

theorem get?_append (k : String) (xs ys : Entries α) :
    get? k (xs ++ ys) = (get? k xs).or (get? k ys) := by
  induction xs with
  | nil => rfl
  | cons e xs ih =>
    rw [List.cons_append, get?, get?]
    by_cases h : k = e.1
    · rw [if_pos h, if_pos h, Option.some_or]
    · rw [if_neg h, if_neg h, ih]

theorem last?_eq_get? {xs : Entries α} (h : (keys xs).Nodup) (k : String) :
    last? k xs = get? k xs := by
  rw [get?_eq_head?, filter_of_nodup h]
  cases last? k xs <;> rfl

theorem get?_filter {xs : Entries α} (h : (keys xs).Nodup) (p : String × α → Bool) (k : String) :
    get? k (xs.filter p) = (get? k xs).filter fun a => p (k, a) := by
  rw [get?_eq_head?, List.filter_comm, filter_of_nodup h, last?_eq_get? h]
  cases get? k xs with
  | none => rfl
  | some a => cases hp : p (k, a) <;> simp [hp, Option.filter]

theorem nodup_keys_of_sorted {m : Entries α} (h : Sorted m) : (keys m).Nodup := by
  rw [sorted_iff_keys] at h
  exact h.imp fun hlt => String.ne_of_lt hlt

theorem last?_forall₂ {R : α → β → Prop} {xs : Entries α} {ys : Entries β}
    (h : List.Forall₂ (fun e f => e.1 = f.1 ∧ R e.2 f.2) xs ys) (k : String) :
    Option.Rel R (last? k xs) (last? k ys) := by
  induction h with
  | nil => exact .none
  | @cons e f xs ys hef _ ih =>
    rw [last?_cons, last?_cons, hef.1]
    cases hxs : last? k xs with
    | some a =>
      rw [hxs] at ih
      cases hys : last? k ys with
      | none =>
        rw [hys] at ih
        exact absurd ih nofun
      | some b =>
        rw [hys] at ih
        exact ih
    | none =>
      rw [hxs] at ih
      cases hys : last? k ys with
      | some b =>
        rw [hys] at ih
        exact absurd ih nofun
      | none =>
        by_cases hk : k = f.1
        · rw [if_pos hk, if_pos hk]
          exact .some hef.2
        · rw [if_neg hk, if_neg hk]
          exact .none

/-! ### Values put through a function -/

theorem get?_map (k : String) (f : α → β) (m : Entries α) :
    get? k (m.map fun e => (e.1, f e.2)) = (get? k m).map f := by
  induction m with
  | nil => rfl
  | cons e m ih =>
    rw [List.map_cons, get?, get?]
    by_cases h : k = e.1
    · rw [if_pos h, if_pos h]
      rfl
    · rw [if_neg h, if_neg h, ih]

theorem last?_map (k : String) (f : α → β) (xs : Entries α) :
    last? k (xs.map fun e => (e.1, f e.2)) = (last? k xs).map f := by
  unfold last?
  rw [List.filter_map, List.getLast?_map, Option.map_map, Option.map_map]
  rfl

/-- It does not matter whether values are changed before they are gathered or afterwards. -/
theorem ofList_map (f : α → β) (xs : Entries α) :
    ofList (xs.map fun e => (e.1, f e.2)) = (ofList xs).map fun e => (e.1, f e.2) := by
  refine ext_get? (sorted_ofList _) ?_ fun k => ?_
  · refine sorted_of_keys_eq ?_ (sorted_ofList xs)
    unfold keys
    rw [List.map_map]
    rfl
  · rw [get?_map, get?_ofList, get?_ofList, last?_map]

end Entries

/-! ### Lists with one thing more at the end -/

theorem filterMap_concat {α β : Type} (f : α → Option β) (xs : List α) (x : α) :
    (xs ++ [x]).filterMap f = xs.filterMap f ++ (f x).toList := by
  rw [List.filterMap_append, List.filterMap_cons, List.filterMap_nil]
  cases f x with
  | none => rfl
  | some y => rfl

/-- What the last of some things says, and else the ones before it. -/
theorem getLast?_filterMap_concat {α β : Type} (f : α → Option β) (xs : List α) (x : α) :
    ((xs ++ [x]).filterMap f).getLast? = (f x).or (xs.filterMap f).getLast? := by
  rw [filterMap_concat, List.getLast?_append]
  cases f x with
  | none => rfl
  | some y => rfl

/-- Of things that occur more than once, the first occurrences stand in their order. -/
theorem eraseDups_concat {α : Type} [BEq α] [LawfulBEq α] (xs : List α) (x : α) :
    (xs ++ [x]).eraseDups = if x ∈ xs then xs.eraseDups else xs.eraseDups ++ [x] := by
  rw [List.eraseDups_append]
  by_cases h : x ∈ xs
  · have hgone : [x].removeAll xs = [] := by simp [List.removeAll, h]
    rw [if_pos h, hgone, List.eraseDups_nil, List.append_nil]
  · have hstays : [x].removeAll xs = [x] := by simp [List.removeAll, h]
    rw [if_neg h, hstays]
    rfl

theorem nodup_eraseDups {α : Type} [BEq α] [LawfulBEq α] (xs : List α) : xs.eraseDups.Nodup := by
  induction xs using List.reverseRecOn with
  | nil => exact List.nodup_nil
  | append_singleton xs x ih =>
    rw [eraseDups_concat]
    split_ifs with h
    · exact ih
    · refine List.pairwise_append.mpr ⟨ih, List.pairwise_singleton _ x, fun y hy z hz heq => h ?_⟩
      rw [← List.mem_singleton.mp hz, ← heq]
      exact List.mem_eraseDups.mp hy

namespace Dict

variable {α β : Type}

theorem insertAll_append (xs ys : Entries α) (m : Dict α) :
    m.insertAll (xs ++ ys) = (m.insertAll xs).insertAll ys :=
  Dict.ext_get? fun k => congrArg (Entries.get? k) (Entries.insertAll_append xs ys m.entries)

/-- The values under all names. -/
def values (m : Dict α) : List α := m.entries.map (·.2)

theorem mem_values {m : Dict α} {e : String × α} (h : e ∈ m.entries) : e.2 ∈ m.values :=
  List.mem_map.mpr ⟨e, h, rfl⟩

/-- The dictionary with its values put through a function. -/
def mapValues (f : α → β) (m : Dict α) : Dict β where
  entries := m.entries.map fun e => (e.1, f e.2)
  sorted := Entries.sorted_of_keys_eq (by simp [Entries.keys]) m.sorted

theorem forall₂_mapValues {R : α → β → Prop} {f : α → β} {m : Dict α}
    (h : ∀ a ∈ m.values, R a (f a)) :
    List.Forall₂ (fun e e' => e.1 = e'.1 ∧ R e.2 e'.2) m.entries (m.mapValues f).entries :=
  List.forall₂_map_right_iff.mpr (List.forall₂_same.mpr fun _ he => ⟨rfl, h _ (mem_values he)⟩)

theorem forall₂_same {R : α → α → Prop} {m : Dict α} (h : ∀ a ∈ m.values, R a a) :
    List.Forall₂ (fun e e' => e.1 = e'.1 ∧ R e.2 e'.2) m.entries m.entries :=
  List.forall₂_same.mpr fun _ he => ⟨rfl, h _ (mem_values he)⟩

theorem mapValues_eq_self {f : α → α} {m : Dict α} (h : ∀ a ∈ m.values, f a = a) :
    m.mapValues f = m := by
  have hentries : m.entries.map (fun e => (e.1, f e.2)) = m.entries.map id :=
    List.map_congr_left fun e he => Prod.ext rfl (h e.2 (mem_values he))
  refine Dict.ext_get? fun k => ?_
  show Entries.get? k (m.entries.map fun e => (e.1, f e.2)) = _
  rw [hentries, List.map_id]
  rfl

end Dict

end Dynamo
