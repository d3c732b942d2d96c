import Dynamo.Value

/-! # Parts of values

What is said of all values is proved along their parts: `Value.ind`. A value occurs `Within` another
one if it is that value, an item of a list within it, or an attribute of a document within it.

* `Value.prune`: the value without the attributes that hold empty lists and sets.
* `Value.Filled`: no list or set within the value is empty, so `prune` keeps it (`prune_of_filled`). -/

namespace Dynamo.Value

/-- **Induction over the parts of a value.** -/
@[elab_as_elim]
theorem ind {P : Value → Prop} (string : ∀ s, P (.string s)) (number : ∀ n, P (.number n))
    (binary : ∀ bytes, P (.binary bytes)) (bool : ∀ b, P (.bool b)) (null : P .null)
    (stringSet : ∀ items, P (.stringSet items)) (numberSet : ∀ items, P (.numberSet items))
    (binarySet : ∀ items, P (.binarySet items))
    (list : ∀ items, (∀ v ∈ items, P v) → P (.list items))
    (document : ∀ m, (∀ e ∈ m, P e.2) → P (.document m)) : ∀ v, P v
  | .list items => list items fun v _ =>
    ind string number binary bool null stringSet numberSet binarySet list document v
  | .document m => document m fun e _ =>
    ind string number binary bool null stringSet numberSet binarySet list document e.2
  | .string s => string s
  | .number n => number n
  | .binary bytes => binary bytes
  | .bool b => bool b
  | .null => null
  | .stringSet items => stringSet items
  | .numberSet items => numberSet items
  | .binarySet items => binarySet items
termination_by v => sizeOf v
decreasing_by
  · have := List.sizeOf_lt_of_mem ‹v ∈ items›
    simp only [Value.list.sizeOf_spec]
    omega
  · have := List.sizeOf_lt_of_mem ‹e ∈ m›
    have : sizeOf e.2 < sizeOf e := by
      cases e
      simp only [Prod.mk.sizeOf_spec]
      omega
    simp only [Value.document.sizeOf_spec]
    omega

/-- **The value `u` occurs within a value.** -/
inductive Within (u : Value) : Value → Prop
  | self : Within u u
  | item {v : Value} {items : List Value} : v ∈ items → Within u v → Within u (.list items)
  | entry {k : String} {v : Value} {m : Entries Value} :
    (k, v) ∈ m → Within u v → Within u (.document m)

theorem Within.trans {u v w : Value} (huv : Within u v) (hvw : Within v w) : Within u w := by
  induction hvw with
  | self => exact huv
  | item hmem _ ih => exact .item hmem ih
  | entry hmem _ ih => exact .entry hmem ih

/-- No list or set within the value is empty. -/
def Filled (v : Value) : Prop := ∀ u, Within u v → u.isEmptyCollection = false

theorem Filled.isEmptyCollection {v : Value} (h : v.Filled) : v.isEmptyCollection = false :=
  h v .self

theorem Filled.item {v : Value} {items : List Value} (h : (Value.list items).Filled)
    (hv : v ∈ items) : v.Filled := fun u hu => h u (.item hv hu)

theorem Filled.entry {e : String × Value} {m : Entries Value} (h : (Value.document m).Filled)
    (he : e ∈ m) : e.2.Filled := fun u hu => h u (.entry he hu)

/-! ### Without empty attributes -/

mutual

/-- **The value without the attributes that hold empty lists and sets**, at every level. -/
def prune : Value → Value
  | .list items => .list (pruneItems items)
  | .document m => .document (pruneEntries m)
  | v => v

/-- The items of a list without such attributes. -/
def pruneItems : List Value → List Value
  | [] => []
  | v :: vs => v.prune :: pruneItems vs

/-- The attributes that do not hold empty lists and sets, and these without such attributes. -/
def pruneEntries : Entries Value → Entries Value
  | [] => []
  | (k, v) :: m => if v.isEmptyCollection then pruneEntries m else (k, v.prune) :: pruneEntries m

end

theorem pruneItems_eq_map (items : List Value) : pruneItems items = items.map prune := by
  induction items with
  | nil => rfl
  | cons v vs ih => rw [pruneItems, ih, List.map_cons]

theorem pruneEntries_eq_map (m : Entries Value) :
    pruneEntries m = (m.filter fun e => !e.2.isEmptyCollection).map fun e => (e.1, e.2.prune) := by
  induction m with
  | nil => rfl
  | cons e m ih =>
    obtain ⟨k, v⟩ := e
    cases hv : v.isEmptyCollection <;> simp [pruneEntries, hv, ih]

/-- What is without empty lists and sets is kept as it is. -/
theorem prune_of_filled {v : Value} (h : v.Filled) : v.prune = v := by
  induction v using ind with
  | list items ih =>
    have hitems : items.map prune = items.map id :=
      List.map_congr_left fun v hv => ih v hv (h.item hv)
    rw [prune, pruneItems_eq_map, hitems, List.map_id]
  | document m ih =>
    have hkept : m.filter (fun e => !e.2.isEmptyCollection) = m := by
      refine List.filter_eq_self.mpr fun e he => ?_
      rw [(h.entry he).isEmptyCollection]
      rfl
    have hentries : m.map (fun e => (e.1, e.2.prune)) = m.map id :=
      List.map_congr_left fun e he => Prod.ext rfl (ih e he (h.entry he))
    rw [prune, pruneEntries_eq_map, hkept, hentries, List.map_id]
  | _ => rfl

/-! ### Well-formed values -/

theorem wellFormedItems_iff {items : List Value} :
    WellFormedItems items ↔ ∀ v ∈ items, v.WellFormed := by
  induction items with
  | nil => simp [WellFormedItems]
  | cons v vs ih => simp [WellFormedItems, ih]

theorem wellFormedEntries_iff {m : Entries Value} :
    WellFormedEntries m ↔ ∀ e ∈ m, e.2.WellFormed := by
  induction m with
  | nil => simp [WellFormedEntries]
  | cons e m ih => simp [WellFormedEntries, ih]

end Dynamo.Value
