/-! # Dictionaries

A dictionary is a list of named entries in strictly ascending order of their names, compared by code
points. `Entries` are the bare lists, for data that nest dictionaries inside themselves; `Dict` adds
the order as a field.

* `Entries.get?_insert`: an insertion changes the entry of its own name only.
* `Entries.sorted_insert`, `Entries.sorted_erase`: both keep the order.
* `Entries.ext_get?`: two ordered lists with the same look-ups are equal, so a dictionary is the
  finite map it stands for. -/

namespace Dynamo

/-- Named entries, in no promised order. -/
abbrev Entries (α : Type) := List (String × α)

namespace Entries

variable {α : Type}

/-- The entries ascend strictly by name, so no name occurs twice. -/
def Sorted (m : Entries α) : Prop := m.Pairwise fun a b => a.1 < b.1

instance (m : Entries α) : Decidable (Sorted m) := by unfold Sorted; infer_instance

/-- The value of the first entry with the name `k`. -/
def get? (k : String) : Entries α → Option α
  | [] => none
  | (k', v) :: m => if k = k' then some v else get? k m

/-- Puts an entry at its place in the order, instead of one with the same name. -/
def insert (k : String) (v : α) : Entries α → Entries α
  | [] => [(k, v)]
  | (k', v') :: m =>
    if k < k' then (k, v) :: (k', v') :: m
    else if k = k' then (k, v) :: m
    else (k', v') :: insert k v m

/-- Takes out every entry with the name `k`. -/
def erase (k : String) (m : Entries α) : Entries α := m.filter fun e => e.1 ≠ k

/-- Inserts the entries of `xs` one after the other: the last of one name stays. -/
def insertAll (xs : Entries α) (m : Entries α) : Entries α :=
  xs.foldl (fun m e => insert e.1 e.2 m) m

/-- The dictionary of a list of entries, in which the last of one name counts. -/
def ofList (xs : Entries α) : Entries α := insertAll xs []

/-- Is there an entry with the name `k`? -/
def contains (k : String) (m : Entries α) : Bool := (get? k m).isSome

/-- The names, in the order of the entries. -/
def keys (m : Entries α) : List String := m.map (·.1)

/-! ### Look-ups -/

@[simp] theorem get?_nil (k : String) : get? k ([] : Entries α) = none := rfl

theorem get?_insert (k k' : String) (v : α) (m : Entries α) :
    get? k (insert k' v m) = if k = k' then some v else get? k m := by
  induction m with
  | nil => simp [insert, get?]
  | cons e m ih =>
    obtain ⟨k₂, v₂⟩ := e
    by_cases h₁ : k' < k₂
    · simp [insert, h₁, get?]
    · by_cases h₂ : k' = k₂
      · subst h₂
        by_cases h : k = k' <;> simp [insert, get?, h]
      · by_cases h : k = k₂
        · subst h
          simp [insert, h₁, h₂, get?, Ne.symm h₂]
        · simp [insert, h₁, h₂, get?, h, ih]

theorem get?_eq_none_of_forall_ne {k : String} {m : Entries α} (h : ∀ e ∈ m, k ≠ e.1) :
    get? k m = none := by
  induction m with
  | nil => rfl
  | cons e m ih =>
    rw [get?, if_neg (h e List.mem_cons_self), ih fun e he => h e (List.mem_cons_of_mem _ he)]

theorem mem_of_get? {k : String} {v : α} {m : Entries α} (h : get? k m = some v) : (k, v) ∈ m := by
  induction m with
  | nil => simp at h
  | cons e m ih =>
    obtain ⟨k₂, v₂⟩ := e
    rw [get?] at h
    split at h
    · next hk => subst hk; simp_all
    · exact List.mem_cons_of_mem _ (ih h)

/-! ### Order -/

theorem sorted_nil : Sorted ([] : Entries α) := List.Pairwise.nil

theorem mem_insert {k : String} {v : α} {m : Entries α} {e : String × α}
    (h : e ∈ insert k v m) : e = (k, v) ∨ e ∈ m := by
  induction m with
  | nil => simpa [insert] using h
  | cons e' m ih =>
    obtain ⟨k', v'⟩ := e'
    rw [insert] at h
    split at h
    · simpa using h
    · split at h
      · rcases List.mem_cons.1 h with h | h
        · exact .inl h
        · exact .inr (List.mem_cons_of_mem _ h)
      · rcases List.mem_cons.1 h with h | h
        · exact .inr (h ▸ List.mem_cons_self)
        · exact (ih h).imp id (List.mem_cons_of_mem _)

theorem lt_of_not_lt_of_ne {a b : String} (h : ¬ a < b) (hne : a ≠ b) : b < a :=
  Decidable.byContradiction fun h' =>
    hne (String.le_antisymm (String.not_lt.1 h') (String.not_lt.1 h))

theorem sorted_insert (k : String) (v : α) {m : Entries α} (h : Sorted m) :
    Sorted (insert k v m) := by
  induction m with
  | nil => simp [insert, Sorted]
  | cons e m ih =>
    obtain ⟨k', v'⟩ := e
    obtain ⟨hlt, hm⟩ := List.pairwise_cons.1 h
    rw [insert]
    split
    · next hk =>
      refine List.pairwise_cons.2 ⟨fun e he => ?_, h⟩
      rcases List.mem_cons.1 he with rfl | he
      · exact hk
      · exact String.lt_trans hk (hlt e he)
    · split
      · next hk => subst hk; exact List.pairwise_cons.2 ⟨hlt, hm⟩
      · next hk hne =>
        refine List.pairwise_cons.2 ⟨fun e he => ?_, ih hm⟩
        rcases mem_insert he with rfl | he
        · exact lt_of_not_lt_of_ne hk hne
        · exact hlt e he

theorem sorted_erase (k : String) {m : Entries α} (h : Sorted m) : Sorted (erase k m) :=
  List.Pairwise.filter _ h

theorem sorted_insertAll (xs : Entries α) {m : Entries α} (h : Sorted m) :
    Sorted (insertAll xs m) := by
  induction xs generalizing m with
  | nil => exact h
  | cons e xs ih => exact ih (sorted_insert e.1 e.2 h)

theorem sorted_ofList (xs : Entries α) : Sorted (ofList xs) := sorted_insertAll xs sorted_nil

theorem get?_cons_of_sorted {e : String × α} {m : Entries α} (h : Sorted (e :: m)) :
    get? e.1 m = none :=
  get?_eq_none_of_forall_ne fun e' he' heq =>
    String.lt_irrefl e.1 (heq ▸ (List.pairwise_cons.1 h).1 e' he')

/-- **Two ordered lists of entries with the same look-ups are equal.** -/
theorem ext_get? {m m' : Entries α} (h : Sorted m) (h' : Sorted m')
    (heq : ∀ k, get? k m = get? k m') : m = m' := by
  induction m generalizing m' with
  | nil =>
    cases m' with
    | nil => rfl
    | cons e m' => simpa [get?] using heq e.1
  | cons e m ih =>
    cases m' with
    | nil => simpa [get?] using heq e.1
    | cons e' m' =>
      obtain ⟨k, v⟩ := e
      obtain ⟨k', v'⟩ := e'
      obtain ⟨hlt, hm⟩ := List.pairwise_cons.1 h
      obtain ⟨hlt', hm'⟩ := List.pairwise_cons.1 h'
      have hk : k = k' := by
        by_cases hk : k = k'
        · exact hk
        · have h₁ : get? k ((k', v') :: m') = some v := by rw [← heq k]; simp [get?]
          have h₂ : get? k' ((k, v) :: m) = some v' := by rw [heq k']; simp [get?]
          rw [get?, if_neg hk] at h₁
          rw [get?, if_neg (Ne.symm hk)] at h₂
          exact absurd (String.lt_trans (hlt' _ (mem_of_get? h₁)) (hlt _ (mem_of_get? h₂)))
            (String.lt_irrefl k')
      subst hk
      have hv : v = v' := by simpa [get?] using heq k
      subst hv
      rw [ih hm hm' fun j => ?_]
      by_cases hj : j = k
      · subst hj
        exact (get?_cons_of_sorted h).trans (get?_cons_of_sorted h').symm
      · simpa [get?, hj] using heq j

end Entries

/-- **A dictionary**: entries that ascend strictly by name. -/
structure Dict (α : Type) where
  entries : Entries α
  sorted : entries.Pairwise fun a b => a.1 < b.1
  deriving DecidableEq

namespace Dict

variable {α : Type}

instance : Inhabited (Dict α) := ⟨⟨[], .nil⟩⟩

/-- The dictionary without entries. -/
def empty : Dict α := ⟨[], .nil⟩

/-- Puts an entry into the dictionary, instead of one with the same name. -/
def insert (k : String) (v : α) (m : Dict α) : Dict α :=
  ⟨Entries.insert k v m.entries, Entries.sorted_insert k v m.sorted⟩

/-- The value of the name `k`. -/
def get? (m : Dict α) (k : String) : Option α := Entries.get? k m.entries

/-- Inserts the entries of `xs` one after the other: the last of one name stays. -/
def insertAll (xs : Entries α) (m : Dict α) : Dict α :=
  ⟨Entries.insertAll xs m.entries, Entries.sorted_insertAll xs m.sorted⟩

/-- The dictionary of a list of entries, in which the last of one name counts. -/
def ofList (xs : Entries α) : Dict α := ⟨Entries.ofList xs, Entries.sorted_ofList xs⟩

/-- Is the dictionary without entries? -/
def isEmpty (m : Dict α) : Bool := m.entries.isEmpty

/-- The names, in ascending order. -/
def keys (m : Dict α) : List String := Entries.keys m.entries

theorem get?_insert (k k' : String) (v : α) (m : Dict α) :
    (m.insert k' v).get? k = if k = k' then some v else m.get? k :=
  Entries.get?_insert k k' v m.entries

/-- Dictionaries with the same look-ups are equal. -/
theorem ext_get? {m m' : Dict α} (h : ∀ k, m.get? k = m'.get? k) : m = m' := by
  cases m
  cases m'
  congr
  exact Entries.ext_get? ‹_› ‹_› h

end Dict

end Dynamo
