import Dynamo.Wire

/-! # Parts of typed values

As for values: induction over the parts (`WireValue.ind`), what occurs `Within` a typed value, and
two properties of all parts.

* `WireValue.Filled`: no list or set within the typed value is empty.
* `WireValue.WellFormed`: all maps within it are in strict order, so that each stands for the finite
  map it is. -/

namespace Dynamo.WireValue

/-- **Induction over the parts of a typed value.** -/
@[elab_as_elim]
theorem ind {P : WireValue → Prop} (string : ∀ s, P (.string s)) (number : ∀ text, P (.number text))
    (binary : ∀ bytes, P (.binary bytes)) (stringSet : ∀ items, P (.stringSet items))
    (numberSet : ∀ texts, P (.numberSet texts)) (binarySet : ∀ items, P (.binarySet items))
    (bool : ∀ b, P (.bool b)) (null : P .null)
    (list : ∀ items, (∀ w ∈ items, P w) → P (.list items))
    (map : ∀ m, (∀ e ∈ m, P e.2) → P (.map m)) : ∀ w, P w
  | .string s => string s
  | .number text => number text
  | .binary bytes => binary bytes
  | .stringSet items => stringSet items
  | .numberSet texts => numberSet texts
  | .binarySet items => binarySet items
  | .bool b => bool b
  | .null => null
  | .list items => list items fun w _ =>
    ind string number binary stringSet numberSet binarySet bool null list map w
  | .map m => map m fun e _ =>
    ind string number binary stringSet numberSet binarySet bool null list map e.2
termination_by w => sizeOf w
decreasing_by
  · have := List.sizeOf_lt_of_mem ‹w ∈ items›
    simp only [WireValue.list.sizeOf_spec]
    omega
  · have := List.sizeOf_lt_of_mem ‹e ∈ m›
    have : sizeOf e.2 < sizeOf e := by
      cases e
      simp only [Prod.mk.sizeOf_spec]
      omega
    simp only [WireValue.map.sizeOf_spec]
    omega

/-- **The typed value `u` occurs within a typed value.** -/
inductive Within (u : WireValue) : WireValue → Prop
  | self : Within u u
  | item {w : WireValue} {items : List WireValue} : w ∈ items → Within u w → Within u (.list items)
  | entry {k : String} {w : WireValue} {m : Entries WireValue} :
    (k, w) ∈ m → Within u w → Within u (.map m)

/-! ### Their JSON, part by part -/

theorem itemsToJson_eq_map (ws : List WireValue) : itemsToJson ws = ws.map toJson := by
  induction ws with
  | nil => rfl
  | cons w ws ih => rw [itemsToJson, ih, List.map_cons]

theorem entriesToJson_eq_map (m : Entries WireValue) :
    entriesToJson m = m.map fun e => (e.1, e.2.toJson) := by
  induction m with
  | nil => rfl
  | cons e m ih => rw [entriesToJson, ih, List.map_cons]

/-! ### Empty lists and sets -/

/-- Is the typed value a list or a set without items? -/
def isEmptyCollection : WireValue → Bool
  | .stringSet items => items.isEmpty
  | .numberSet texts => texts.isEmpty
  | .binarySet items => items.isEmpty
  | .list items => items.isEmpty
  | _ => false

/-- No list or set within the typed value is empty. -/
def Filled (w : WireValue) : Prop := ∀ u, Within u w → u.isEmptyCollection = false

theorem Filled.isEmptyCollection {w : WireValue} (h : w.Filled) : w.isEmptyCollection = false :=
  h w .self

theorem Filled.item {w : WireValue} {items : List WireValue} (h : (WireValue.list items).Filled)
    (hw : w ∈ items) : w.Filled := fun u hu => h u (.item hw hu)

theorem Filled.entry {e : String × WireValue} {m : Entries WireValue}
    (h : (WireValue.map m).Filled) (he : e ∈ m) : e.2.Filled := fun u hu => h u (.entry he hu)

theorem filled_list {items : List WireValue} (hne : items ≠ []) (h : ∀ w ∈ items, w.Filled) :
    (WireValue.list items).Filled := by
  rintro u (_ | ⟨hw, hu⟩)
  · simpa [WireValue.isEmptyCollection] using hne
  · exact h _ hw u hu

theorem filled_map {m : Entries WireValue} (h : ∀ e ∈ m, e.2.Filled) :
    (WireValue.map m).Filled := by
  rintro u (_ | _ | ⟨he, hu⟩)
  · rfl
  · exact h _ he u hu

/-! ### Well-formed typed values -/

/-- The entries of all maps within the typed value ascend strictly. -/
def WellFormed (w : WireValue) : Prop := ∀ m, Within (.map m) w → Entries.Sorted m

theorem WellFormed.sorted {m : Entries WireValue} (h : (WireValue.map m).WellFormed) :
    Entries.Sorted m := h m .self

theorem WellFormed.item {w : WireValue} {items : List WireValue}
    (h : (WireValue.list items).WellFormed) (hw : w ∈ items) : w.WellFormed :=
  fun m hm => h m (.item hw hm)

theorem WellFormed.entry {e : String × WireValue} {m : Entries WireValue}
    (h : (WireValue.map m).WellFormed) (he : e ∈ m) : e.2.WellFormed :=
  fun m' hm => h m' (.entry he hm)

theorem wellFormed_list {items : List WireValue} (h : ∀ w ∈ items, w.WellFormed) :
    (WireValue.list items).WellFormed := by
  rintro m (_ | ⟨hw, hm⟩)
  exact h _ hw m hm

theorem wellFormed_map {m : Entries WireValue} (hm : Entries.Sorted m)
    (h : ∀ e ∈ m, e.2.WellFormed) : (WireValue.map m).WellFormed := by
  rintro m' (_ | _ | ⟨he, hm'⟩)
  · exact hm
  · exact h _ he m' hm'

end Dynamo.WireValue
