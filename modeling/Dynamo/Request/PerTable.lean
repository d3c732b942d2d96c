import Dynamo.Dict

/-! # What is asked of each table

A batch asks something of several tables. They stand in the order in which they were first
mentioned, each once.

* `PerTable.get?_modify`: what is asked of one table does not change with another.
* `PerTable.tables_modify`: a table that was not mentioned yet comes last.
* `PerTable.nodup_tables_modify`: no table stands there twice. -/

namespace Dynamo

/-- **What is asked of each table.** -/
abbrev PerTable (α : Type) := List (String × α)

namespace PerTable

variable {α : Type}

/-- The tables. -/
def tables (b : PerTable α) : List String := b.map (·.1)

/-- What is asked of a table, if it is mentioned. -/
def get? (table : String) (b : PerTable α) : Option α := Entries.get? table b

/-- Changes what is asked of a table. If it was not mentioned yet, it is now, with what `start` is
changed to. -/
def modify (start : α) (table : String) (f : α → α) : PerTable α → PerTable α
  | [] => [(table, f start)]
  | e :: b => if e.1 = table then (e.1, f e.2) :: b else e :: modify start table f b

/-- The entries of a dictionary as parts of a batch: first tables that are not in `order`, in
ascending order of their names, and then the others as `order` has them. -/
def arrange (order : List String) (m : Dict α) : PerTable α :=
  (m.entries.filter fun e => !order.contains e.1) ++
    order.filterMap fun table => (m.get? table).map fun a => (table, a)

/-! ### Changes -/

theorem get?_modify (start : α) (table table' : String) (f : α → α) (b : PerTable α) :
    get? table (modify start table' f b) =
      if table = table' then some (f ((get? table b).getD start)) else get? table b := by
  induction b with
  | nil => by_cases h : table = table' <;> simp [modify, get?, Entries.get?, h]
  | cons e b ih =>
    obtain ⟨t, a⟩ := e
    unfold get? at ih ⊢
    by_cases ht : t = table'
    · subst ht
      by_cases h : table = t <;> simp [modify, Entries.get?, h]
    · by_cases h : table = t
      · subst h
        simp [modify, Entries.get?, ht]
      · simp [modify, Entries.get?, ht, h, ih]

theorem tables_modify (start : α) (table : String) (f : α → α) (b : PerTable α) :
    tables (modify start table f b) =
      if table ∈ tables b then tables b else tables b ++ [table] := by
  induction b with
  | nil => simp [modify, tables]
  | cons e b ih =>
    obtain ⟨t, a⟩ := e
    by_cases ht : t = table
    · simp [modify, tables, ht]
    · have ht' : table ≠ t := Ne.symm ht
      unfold tables at ih ⊢
      rw [modify, if_neg ht, List.map_cons, ih]
      by_cases h : table ∈ b.map (·.1) <;> simp [ht', h]

theorem nodup_tables_modify (start : α) (table : String) (f : α → α) {b : PerTable α}
    (h : (tables b).Nodup) : (tables (modify start table f b)).Nodup := by
  rw [tables_modify]
  split
  · exact h
  · next ht =>
    refine List.nodup_append.2 ⟨h, by simp, fun a ha b hb heq => ht ?_⟩
    rw [List.mem_singleton] at hb
    exact hb ▸ heq ▸ ha

end PerTable

end Dynamo
