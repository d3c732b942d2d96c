import Dynamo.Proofs.Decimal.Grammar
import Dynamo.Proofs.Wire.Codec

/-! # What has travelled travels again

A typed value says what value it is, empty lists and sets included: each value is read from one typed
value only, `Value.written`. So what becomes of a typed value that is read and sent again can be told
from the value: it is left as it is, but for the members of maps that hold an empty list or set.

* `Value.ofWire_eq_ok_iff`: the typed value that a value is read from.
* `Value.within_written`: its parts are those of the value.
* `WireValue.exists_ofWire_iff`: a typed value is read if all its numbers are decimal texts.
* `WireValue.reencoding`: all of this together. -/

namespace Dynamo

open Dynamo.Except

theorem Number.exists_ofString?_iff {s : String} :
    (∃ n, ofString? s = .ok n) ↔ Decimal.IsText s.toList := by
  rw [← Decimal.Literal.isSome_ofChars?_iff]
  simp only [ofString?_eq_ok]
  constructor
  · rintro ⟨n, rfl⟩
    exact n.isDecimal
  · intro h
    exact ⟨⟨s, h⟩, rfl⟩

/-! ### Without empty members -/

namespace WireValue

mutual

/-- **The typed value without the members of maps that hold empty lists and sets**, at every level. -/
def prune : WireValue → WireValue
  | .list items => .list (pruneItems items)
  | .map m => .map (pruneEntries m)
  | w => w

/-- The items of a list without such members. -/
def pruneItems : List WireValue → List WireValue
  | [] => []
  | w :: ws => w.prune :: pruneItems ws

/-- The members of a map that do not hold empty lists and sets, and these without such members. -/
def pruneEntries : Entries WireValue → Entries WireValue
  | [] => []
  | (k, w) :: m => if w.isEmptyCollection then pruneEntries m else (k, w.prune) :: pruneEntries m

end

theorem pruneItems_eq_map (items : List WireValue) : pruneItems items = items.map prune := by
  induction items with
  | nil => rfl
  | cons w ws ih => rw [pruneItems, ih, List.map_cons]

theorem pruneEntries_eq_map (m : Entries WireValue) :
    pruneEntries m = (m.filter fun e => !e.2.isEmptyCollection).map fun e => (e.1, e.2.prune) := by
  induction m with
  | nil => rfl
  | cons e m ih =>
    obtain ⟨k, w⟩ := e
    cases hw : w.isEmptyCollection <;> simp [pruneEntries, hw, ih]

/-- The texts that the typed value itself gives as numbers. -/
def numerals : WireValue → List String
  | .number text => [text]
  | .numberSet texts => texts
  | _ => []

/-- No list within the typed value has an empty list or set as an item. -/
def NoEmptyItem (w : WireValue) : Prop :=
  ∀ items, Within (.list items) w → ∀ x ∈ items, x.isEmptyCollection = false

end WireValue

/-! ### What a value is read from -/

namespace Value

mutual

/-- **The typed value that a value is read from.** -/
def written : Value → WireValue
  | .string s => .string s
  | .number n => .number n.text
  | .binary bytes => .binary bytes
  | .bool b => .bool b
  | .null => .null
  | .stringSet items => .stringSet items
  | .numberSet items => .numberSet (items.map (·.text))
  | .binarySet items => .binarySet items
  | .list items => .list (writtenItems items)
  | .document m => .map (writtenEntries m)

/-- The same for the items of a list. -/
def writtenItems : List Value → List WireValue
  | [] => []
  | v :: vs => v.written :: writtenItems vs

/-- The same for the attributes of a document. -/
def writtenEntries : Entries Value → Entries WireValue
  | [] => []
  | (k, v) :: m => (k, v.written) :: writtenEntries m

end

theorem writtenItems_eq_map (items : List Value) : writtenItems items = items.map written := by
  induction items with
  | nil => rfl
  | cons v vs ih => rw [writtenItems, ih, List.map_cons]

theorem writtenEntries_eq_map (m : Entries Value) :
    writtenEntries m = m.map fun e => (e.1, e.2.written) := by
  induction m with
  | nil => rfl
  | cons e m ih => rw [writtenEntries, ih, List.map_cons]

theorem ofWire_written (v : Value) : ofWire v.written = .ok v := by
  induction v using ind with
  | list items ih =>
    have hitems : itemsOfWire (items.map written) = .ok items := by
      rw [itemsOfWire_eq_ok, List.forall₂_map_left_iff, List.forall₂_same]
      exact ih
    rw [written, writtenItems_eq_map, ofWire, hitems]
    rfl
  | document m ih =>
    have hentries : entriesOfWire (m.map fun e => (e.1, e.2.written)) = .ok m := by
      rw [entriesOfWire_eq_ok, List.forall₂_map_left_iff, List.forall₂_same]
      exact fun e he => ⟨rfl, ih e he⟩
    rw [written, writtenEntries_eq_map, ofWire, hentries]
    rfl
  | number n =>
    rw [written, ofWire, Number.ofString?_eq_ok.mpr rfl]
    rfl
  | numberSet items =>
    rw [written, ofWire, (mapM_eq_ok_iff_map fun s n => Number.ofString?_eq_ok).mpr rfl]
    rfl
  | string _ | binary _ | bool _ | null | stringSet _ | binarySet _ => rfl

theorem eq_written_of_ofWire {w : WireValue} {v : Value} (h : ofWire w = .ok v) :
    w = v.written := by
  induction w using WireValue.ind generalizing v with
  | list items ih =>
    obtain ⟨vs, hvs, rfl⟩ := map_eq_ok.mp h
    have hitems : List.Forall₂ (fun w v => w = written v) items vs :=
      forall₂_imp_of_mem (fun w hw v hv => ih w hw hv) (itemsOfWire_eq_ok.mp hvs)
    rw [← List.forall₂_map_right_iff, List.forall₂_eq_eq_eq] at hitems
    rw [written, writtenItems_eq_map, hitems]
  | map m ih =>
    obtain ⟨es, hes, rfl⟩ := map_eq_ok.mp h
    have hentries : List.Forall₂ (fun f e => f = (e.1, written e.2)) m es :=
      forall₂_imp_of_mem (fun f hf e he => Prod.ext he.1 (ih f hf he.2))
        (entriesOfWire_eq_ok.mp hes)
    rw [← List.forall₂_map_right_iff (R := Eq), List.forall₂_eq_eq_eq] at hentries
    rw [written, writtenEntries_eq_map, hentries]
  | number text =>
    obtain ⟨n, hn, rfl⟩ := map_eq_ok.mp h
    rw [Number.ofString?_eq_ok.mp hn, written]
  | numberSet texts =>
    obtain ⟨ns, hns, rfl⟩ := map_eq_ok.mp h
    rw [(mapM_eq_ok_iff_map fun s n => Number.ofString?_eq_ok).mp hns, written]
  | string _ | binary _ | bool _ | null | stringSet _ | binarySet _ =>
    obtain rfl := Except.ok.inj h
    rfl

/-- **Each value is read from one typed value.** -/
theorem ofWire_eq_ok_iff {w : WireValue} {v : Value} : ofWire w = .ok v ↔ w = v.written := by
  constructor
  · exact eq_written_of_ofWire
  · rintro rfl
    exact ofWire_written v

/-! ### Its parts -/

theorem within_written_of_within {x v : Value} (h : Within x v) :
    WireValue.Within x.written v.written := by
  induction h with
  | self => exact .self
  | item hmem _ ih =>
    rw [written, writtenItems_eq_map]
    exact .item (List.mem_map_of_mem hmem) ih
  | @entry k v m hmem _ ih =>
    rw [written, writtenEntries_eq_map]
    have hentry : (k, v.written) ∈ m.map fun e => (e.1, e.2.written) :=
      List.mem_map.mpr ⟨(k, v), hmem, rfl⟩
    exact .entry hentry ih

/-- **What occurs within it is what the parts of the value are read from.** -/
theorem within_written {u : WireValue} {v : Value} :
    WireValue.Within u v.written ↔ ∃ x, Within x v ∧ x.written = u := by
  constructor
  · intro h
    induction v using ind with
    | list items ih =>
      rw [written, writtenItems_eq_map] at h
      rcases h with _ | ⟨hw, hu⟩
      · exact ⟨.list items, .self, by rw [written, writtenItems_eq_map]⟩
      · obtain ⟨v, hv, rfl⟩ := List.mem_map.mp hw
        obtain ⟨x, hx, hxu⟩ := ih v hv hu
        exact ⟨x, .item hv hx, hxu⟩
    | document m ih =>
      rw [written, writtenEntries_eq_map] at h
      rcases h with _ | _ | ⟨he, hu⟩
      · exact ⟨.document m, .self, by rw [written, writtenEntries_eq_map]⟩
      · obtain ⟨e, hmem, heq⟩ := List.mem_map.mp he
        obtain ⟨rfl, rfl⟩ := Prod.mk.inj heq
        obtain ⟨x, hx, hxu⟩ := ih e hmem hu
        exact ⟨x, .entry hmem hx, hxu⟩
    | string _ | number _ | binary _ | bool _ | null | stringSet _ | numberSet _ | binarySet _ =>
      rw [written] at h
      cases h
      exact ⟨_, .self, by rw [written]⟩
  · rintro ⟨x, hx, rfl⟩
    exact within_written_of_within hx

theorem isEmptyCollection_written (v : Value) :
    v.written.isEmptyCollection = v.isEmptyCollection := by
  cases v with
  | list items =>
    rw [written, writtenItems_eq_map, WireValue.isEmptyCollection, List.isEmpty_map]
    rfl
  | numberSet items =>
    rw [written, WireValue.isEmptyCollection, List.isEmpty_map]
    rfl
  | _ => rfl

theorem filled_written (v : Value) : v.written.Filled ↔ v.Filled := by
  constructor
  · intro h x hx
    rw [← isEmptyCollection_written]
    exact h x.written (within_written_of_within hx)
  · intro h u hu
    obtain ⟨x, hx, rfl⟩ := within_written.mp hu
    rw [isEmptyCollection_written]
    exact h x hx

theorem noEmptyItem_written (v : Value) : v.written.NoEmptyItem ↔ v.NoEmptyItem := by
  constructor
  · intro h items hitems x hx
    have hlist : WireValue.Within (.list (items.map written)) v.written := by
      rw [← writtenItems_eq_map, ← written]
      exact within_written_of_within hitems
    rw [← isEmptyCollection_written]
    exact h _ hlist x.written (List.mem_map_of_mem hx)
  · intro h ws hws w hw
    obtain ⟨x, hx, hxu⟩ := within_written.mp hws
    cases x with
    | list items =>
      rw [written, writtenItems_eq_map] at hxu
      obtain rfl := WireValue.list.inj hxu
      obtain ⟨v, hv, rfl⟩ := List.mem_map.mp hw
      rw [isEmptyCollection_written]
      exact h items hx v hv
    | _ => exact absurd hxu nofun

/-- The numbers of a value are decimal texts. -/
theorem isText_of_mem_numerals (v : Value) {text : String} (h : text ∈ v.written.numerals) :
    Decimal.IsText text.toList := by
  have hnumber : ∀ n : Number, Decimal.IsText n.text.toList :=
    fun n => Decimal.Literal.isSome_ofChars?_iff.mp n.isDecimal
  cases v with
  | number n =>
    obtain rfl := List.mem_singleton.mp h
    exact hnumber n
  | numberSet items =>
    obtain ⟨n, -, rfl⟩ := List.mem_map.mp h
    exact hnumber n
  | _ => exact absurd h List.not_mem_nil

theorem prune_written (v : Value) : v.written.prune = v.prune.written := by
  induction v using ind with
  | list items ih =>
    rw [written, writtenItems_eq_map, WireValue.prune, WireValue.pruneItems_eq_map, prune,
      pruneItems_eq_map, written, writtenItems_eq_map, List.map_map, List.map_map]
    congr 1
    exact List.map_congr_left ih
  | document m ih =>
    have hfilter : (m.map fun e => (e.1, e.2.written)).filter (fun e => !e.2.isEmptyCollection) =
        (m.filter fun e => !e.2.isEmptyCollection).map fun e => (e.1, e.2.written) := by
      rw [List.filter_map]
      simp only [Function.comp_def, isEmptyCollection_written]
    rw [written, writtenEntries_eq_map, WireValue.prune, WireValue.pruneEntries_eq_map, hfilter,
      prune, pruneEntries_eq_map, written, writtenEntries_eq_map, List.map_map, List.map_map]
    congr 1
    refine List.map_congr_left fun e he => ?_
    exact Prod.ext rfl (ih e (List.mem_filter.mp he).1)
  | _ => rfl

end Value

/-! ### What is read -/

namespace WireValue

theorem exists_itemsOfWire {items : List WireValue} (h : ∀ w ∈ items, ∃ v, Value.ofWire w = .ok v) :
    ∃ vs, Value.itemsOfWire items = .ok vs := by
  simp only [Value.itemsOfWire_eq_ok, ← mapM_eq_ok, exists_mapM_eq_ok]
  exact h

theorem exists_entriesOfWire {m : Entries WireValue}
    (h : ∀ e ∈ m, ∃ v, Value.ofWire e.2 = .ok v) : ∃ es, Value.entriesOfWire m = .ok es := by
  simp only [Value.entriesOfWire_eq_ok, ← mapM_entries_eq_ok, exists_mapM_eq_ok]
  intro e he
  exact exists_bind_pure_eq_ok.mpr (h e he)

/-- **A typed value is read if and only if all its numbers are decimal texts.** -/
theorem exists_ofWire_iff {w : WireValue} :
    (∃ v, Value.ofWire w = .ok v) ↔
      ∀ u, Within u w → ∀ text ∈ u.numerals, Decimal.IsText text.toList := by
  constructor
  · rintro ⟨v, hv⟩ u hu text htext
    obtain rfl := Value.ofWire_eq_ok_iff.mp hv
    obtain ⟨x, -, rfl⟩ := Value.within_written.mp hu
    exact x.isText_of_mem_numerals htext
  · intro h
    induction w using ind with
    | list items ih =>
      obtain ⟨vs, hvs⟩ := exists_itemsOfWire fun w hw => ih w hw fun u hu => h u (.item hw hu)
      exact ⟨_, map_eq_ok.mpr ⟨vs, hvs, rfl⟩⟩
    | map m ih =>
      obtain ⟨es, hes⟩ := exists_entriesOfWire fun e he => ih e he fun u hu => h u (.entry he hu)
      exact ⟨_, map_eq_ok.mpr ⟨es, hes, rfl⟩⟩
    | number text =>
      obtain ⟨n, hn⟩ := Number.exists_ofString?_iff.mpr (h _ .self text List.mem_cons_self)
      exact ⟨_, map_eq_ok.mpr ⟨n, hn, rfl⟩⟩
    | numberSet texts =>
      obtain ⟨ns, hns⟩ := exists_mapM_eq_ok.mpr fun text htext =>
        Number.exists_ofString?_iff.mpr (h _ .self text htext)
      exact ⟨_, map_eq_ok.mpr ⟨ns, hns, rfl⟩⟩
    | string _ | binary _ | bool _ | null | stringSet _ | binarySet _ => exact ⟨_, rfl⟩

end WireValue

/-! ### What is sent again -/

namespace Value

theorem toWire_of_filled {v : Value} (h : v.Filled) : v.toWire = .ok v.written := by
  obtain ⟨w, hw⟩ := exists_toWire_iff.mpr ⟨h.isEmptyCollection, h.noEmptyItem⟩
  have hback : w = v.prune.written := ofWire_eq_ok_iff.mp (ofWire_of_toWire hw)
  rw [hw, hback, prune_of_filled h]

/-- **What has travelled without empty lists and sets travels again as it was.** -/
theorem toWire_of_ofWire {w : WireValue} {v : Value} (hw : w.Filled) (h : ofWire w = .ok v) :
    v.toWire = .ok w := by
  obtain rfl := ofWire_eq_ok_iff.mp h
  exact toWire_of_filled ((filled_written v).mp hw)

/-- What is sent of a value that was read is the typed value without its empty members. -/
theorem eq_prune_of_toWire {w w' : WireValue} {v : Value} (h : ofWire w = .ok v)
    (hv : v.toWire = .ok w') : w' = w.prune := by
  have hback : w' = v.prune.written := ofWire_eq_ok_iff.mp (ofWire_of_toWire hv)
  rw [hback, ofWire_eq_ok_iff.mp h, prune_written]

theorem exists_toWire_of_ofWire {w : WireValue} {v : Value} (h : ofWire w = .ok v) :
    (∃ w', v.toWire = .ok w') ↔ w.isEmptyCollection = false ∧ w.NoEmptyItem := by
  obtain rfl := ofWire_eq_ok_iff.mp h
  rw [exists_toWire_iff, isEmptyCollection_written, noEmptyItem_written]

end Value

namespace WireValue

/-- **Reading, and sending again what was read.** A typed value is read if and only if all its numbers
are decimal texts. The value is sent again unless the typed value is an empty list or set or has one as
an item of a list, and then the members of maps that hold one are left out, and nothing else is changed.
No other typed value is read as the same value; and where nothing is empty, reading and sending are
inverse to each other. -/
theorem reencoding :
    (∀ w : WireValue, ((∃ v, Value.ofWire w = .ok v) ↔
        ∀ u, Within u w → ∀ text ∈ u.numerals, Decimal.IsText text.toList) ∧
      ∀ v, Value.ofWire w = .ok v →
        ((∃ w', v.toWire = .ok w') ↔ w.isEmptyCollection = false ∧
          ∀ items, Within (.list items) w → ∀ x ∈ items, x.isEmptyCollection = false) ∧
        (∀ w', v.toWire = .ok w' → w' = w.prune) ∧
        (w.Filled → v.toWire = .ok w) ∧
        ∀ w', Value.ofWire w' = .ok v → w' = w) ∧
    (∀ v : Value, v.Filled → ∃ w : WireValue, w.Filled ∧ v.toWire = .ok w ∧ Value.ofWire w = .ok v) ∧
    ∀ w : WireValue, w.Filled → (∀ u, Within u w → ∀ text ∈ u.numerals, Decimal.IsText text.toList) →
      ∃ v : Value, v.Filled ∧ Value.ofWire w = .ok v ∧ v.toWire = .ok w := by
  refine ⟨fun w => ⟨exists_ofWire_iff, fun v hv => ⟨Value.exists_toWire_of_ofWire hv,
    fun w' hw' => Value.eq_prune_of_toWire hv hw', fun hw => Value.toWire_of_ofWire hw hv,
    fun w' hw' => ?_⟩⟩, fun v hv => ?_, fun w hw hnumerals => ?_⟩
  · rw [Value.ofWire_eq_ok_iff.mp hw', Value.ofWire_eq_ok_iff.mp hv]
  · exact ⟨v.written, (Value.filled_written v).mpr hv, Value.toWire_of_filled hv,
      Value.ofWire_written v⟩
  · obtain ⟨v, hv⟩ := exists_ofWire_iff.mpr hnumerals
    have hfilled : v.Filled := by
      rw [← Value.filled_written, ← Value.ofWire_eq_ok_iff.mp hv]
      exact hw
    exact ⟨v, hfilled, hv, Value.toWire_of_ofWire hw hv⟩

/-- Of three members, the one with an empty list is left out; a number that is no decimal text is not
read. -/
theorem reencoding_map :
    (∃ v, Value.ofWire (.map [("a", .list []), ("b", .list [.number "-.5E+1"]), ("c", .map [])]) =
        .ok v ∧
      v.toWire = .ok (.map [("b", .list [.number "-.5E+1"]), ("c", .map [])])) ∧
    ¬ ∀ u, Within u (.list [.number "1e"]) → ∀ text ∈ u.numerals, Decimal.IsText text.toList := by
  constructor
  · have hv : Value.ofWire (.map [("a", .list []), ("b", .list [.number "-.5E+1"]), ("c", .map [])]) =
        .ok (.document [("a", .list []), ("b", .list [.number ⟨"-.5E+1", by decide⟩]),
          ("c", .document [])]) := rfl
    obtain ⟨hsent, hprune, -⟩ := (reencoding.1 _).2 _ hv
    obtain ⟨w', hw'⟩ := hsent.mpr ⟨rfl, by
      rintro items (_ | _ | ⟨he, hitems⟩)
      simp only [List.mem_cons, Prod.mk.injEq, List.not_mem_nil, or_false] at he
      rcases he with ⟨-, rfl⟩ | ⟨-, rfl⟩ | ⟨-, rfl⟩
      · rcases hitems with _ | ⟨hmem, -⟩
        · exact nofun
        · exact absurd hmem List.not_mem_nil
      · rcases hitems with _ | ⟨hmem, hin⟩
        · decide
        · obtain rfl := List.mem_singleton.mp hmem
          exact absurd hin nofun
      · rcases hitems with _ | _ | ⟨hmem, -⟩
        exact absurd hmem List.not_mem_nil⟩
    exact ⟨_, hv, by rw [hw', hprune w' hw']; rfl⟩
  · rw [← (reencoding.1 _).1]
    rintro ⟨v, hv⟩
    exact absurd hv nofun

end WireValue

end Dynamo
