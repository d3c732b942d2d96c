import Dynamo.Proofs.Value.Parts
import Dynamo.Proofs.Wire.Grammar
import Dynamo.Wire.Codec

/-! # What travels, and what comes back

A value travels if it is no empty list or set and no list within it has one as an item
(`Value.exists_toWire_iff`). What travels holds no empty list or set (`Value.filled_of_toWire`), is
read back from its JSON as it is, and becomes the value without the attributes that were left out
(`Value.ofWire_of_toWire`).

* `Value.toWire_roundTrip`: all of this together. -/

namespace Dynamo

open Dynamo.Except

theorem Number.ofString?_eq_ok {s : String} {n : Number} : ofString? s = .ok n ↔ s = n.text := by
  unfold ofString?
  constructor
  · intro h
    split at h
    · rw [← Except.ok.inj h]
    · exact absurd h (by simp)
  · rintro rfl
    rw [dif_pos n.isDecimal]

namespace Value

/-! ### To the wire, part by part -/

theorem itemsToWire_eq_mapM (items : List Value) : itemsToWire items = items.mapM toWire := by
  induction items with
  | nil => rfl
  | cons v vs ih => rw [itemsToWire, ih, List.mapM_cons]

theorem entriesToWire_eq_mapM (m : Entries Value) :
    entriesToWire m = (m.filter fun e => !e.2.isEmptyCollection).mapM fun e =>
      e.2.toWire.map fun w => (e.1, w) := by
  induction m with
  | nil => rfl
  | cons e m ih =>
    obtain ⟨k, v⟩ := e
    cases hv : v.isEmptyCollection with
    | true => rw [entriesToWire, if_pos hv, ih, List.filter_cons_of_neg (by simp [hv])]
    | false =>
      rw [entriesToWire, if_neg (by simp [hv]), ih, List.filter_cons_of_pos (by simp [hv]),
        List.mapM_cons]
      cases v.toWire <;> rfl

theorem entriesToWire_eq_ok {m : Entries Value} {ws : Entries WireValue} :
    entriesToWire m = .ok ws ↔
      List.Forall₂ (fun e f => e.1 = f.1 ∧ e.2.toWire = .ok f.2)
        (m.filter fun e => !e.2.isEmptyCollection) ws := by
  rw [entriesToWire_eq_mapM, mapM_eq_ok]
  have hstep : ∀ (e : String × Value) (f : String × WireValue),
      e.2.toWire.map (fun w => (e.1, w)) = .ok f ↔ e.1 = f.1 ∧ e.2.toWire = .ok f.2 := by
    intro e f
    rw [map_eq_ok]
    constructor
    · rintro ⟨w, hw, rfl⟩
      exact ⟨rfl, hw⟩
    · rintro ⟨hk, hw⟩
      exact ⟨f.2, hw, Prod.ext hk rfl⟩
  simp only [hstep]

theorem toWire_list {items : List Value} {w : WireValue} :
    (Value.list items).toWire = .ok w ↔
      items ≠ [] ∧ ∃ ws, List.Forall₂ (fun v w => v.toWire = .ok w) items ws ∧ .list ws = w := by
  simp only [← mapM_eq_ok]
  rw [← itemsToWire_eq_mapM, ← map_eq_ok, toWire]
  cases items with
  | nil => simp [isEmptyCollection]
  | cons v vs => simp [isEmptyCollection]

theorem toWire_document {m : Entries Value} {w : WireValue} :
    (Value.document m).toWire = .ok w ↔ ∃ ws, entriesToWire m = .ok ws ∧ .map ws = w := by
  rw [← map_eq_ok, toWire]
  simp [isEmptyCollection]

theorem isEmptyCollection_of_toWire {v : Value} {w : WireValue} (h : v.toWire = .ok w) :
    v.isEmptyCollection = false := by
  cases hv : v.isEmptyCollection with
  | false => rfl
  | true =>
    rw [toWire.eq_def, if_pos hv] at h
    exact absurd h (by simp)

/-! ### Back from the wire, part by part -/

theorem itemsOfWire_eq_ok {ws : List WireValue} {vs : List Value} :
    itemsOfWire ws = .ok vs ↔ List.Forall₂ (fun w v => ofWire w = .ok v) ws vs := by
  rw [← mapM_eq_ok]
  suffices itemsOfWire ws = ws.mapM ofWire by rw [this]
  induction ws with
  | nil => rfl
  | cons w ws ih => rw [itemsOfWire, ih, List.mapM_cons]

theorem entriesOfWire_eq_ok {ws : Entries WireValue} {m : Entries Value} :
    entriesOfWire ws = .ok m ↔
      List.Forall₂ (fun f e => f.1 = e.1 ∧ ofWire f.2 = .ok e.2) ws m := by
  induction ws generalizing m with
  | nil => rw [entriesOfWire, Except.ok.injEq, List.forall₂_nil_left_iff, eq_comm]
  | cons f ws ih =>
    obtain ⟨k, w⟩ := f
    rw [entriesOfWire, bind_eq_ok, List.forall₂_cons_left_iff]
    constructor
    · rintro ⟨v, hv, h⟩
      obtain ⟨m', hm, h⟩ := bind_eq_ok.mp h
      exact ⟨(k, v), m', ⟨rfl, hv⟩, ih.mp hm, (pure_eq_ok.mp h).symm⟩
    · rintro ⟨⟨k', v⟩, m', ⟨rfl, hv⟩, hm, rfl⟩
      exact ⟨v, hv, bind_eq_ok.mpr ⟨m', ih.mpr hm, rfl⟩⟩

/-! ### The round trip -/

/-- **What travels comes back without the attributes that hold empty lists and sets.** -/
theorem ofWire_of_toWire {v : Value} {w : WireValue} (h : v.toWire = .ok w) :
    ofWire w = .ok v.prune := by
  induction v using ind generalizing w with
  | list items ih =>
    obtain ⟨-, ws, hws, rfl⟩ := toWire_list.mp h
    have hback : itemsOfWire ws = .ok (items.map prune) := by
      rw [itemsOfWire_eq_ok, List.forall₂_map_right_iff]
      exact (forall₂_imp_of_mem (fun v hv w hw => ih v hv hw) hws).flip
    rw [ofWire, hback, prune, pruneItems_eq_map]
    rfl
  | document m ih =>
    obtain ⟨ws, hws, rfl⟩ := toWire_document.mp h
    have hback : entriesOfWire ws = .ok (pruneEntries m) := by
      rw [entriesOfWire_eq_ok, pruneEntries_eq_map, List.forall₂_map_right_iff]
      refine (forall₂_imp_of_mem ?_ (entriesToWire_eq_ok.mp hws)).flip
      intro e he f hef
      exact ⟨hef.1.symm, ih e (List.mem_filter.mp he).1 hef.2⟩
    rw [ofWire, hback, prune]
    rfl
  | number n =>
    obtain rfl : WireValue.number n.text = w := Except.ok.inj h
    rw [ofWire, Number.ofString?_eq_ok.mpr rfl]
    rfl
  | numberSet items =>
    have hne := isEmptyCollection_of_toWire h
    rw [toWire.eq_def, if_neg (by simp [hne])] at h
    obtain rfl : WireValue.numberSet (items.map (·.text)) = w := Except.ok.inj h
    rw [ofWire, (mapM_eq_ok_iff_map fun s n => Number.ofString?_eq_ok).mpr rfl]
    rfl
  | stringSet items | binarySet items =>
    have hne := isEmptyCollection_of_toWire h
    rw [toWire.eq_def, if_neg (by simp [hne])] at h
    obtain rfl := Except.ok.inj h
    rfl
  | string _ | binary _ | bool _ | null =>
    obtain rfl := Except.ok.inj h
    rfl

/-- What travels holds no empty list or set. -/
theorem filled_of_toWire {v : Value} {w : WireValue} (h : v.toWire = .ok w) : w.Filled := by
  induction v using ind generalizing w with
  | list items ih =>
    obtain ⟨hne, ws, hws, rfl⟩ := toWire_list.mp h
    refine WireValue.filled_list (fun hnil => hne ?_) fun w hw => ?_
    · subst hnil
      exact List.forall₂_nil_right_iff.mp hws
    · obtain ⟨v, hv, hvw⟩ := exists_of_forall₂_right hws hw
      exact ih v hv hvw
  | document m ih =>
    obtain ⟨ws, hws, rfl⟩ := toWire_document.mp h
    refine WireValue.filled_map fun f hf => ?_
    obtain ⟨e, he, -, hef⟩ := exists_of_forall₂_right (entriesToWire_eq_ok.mp hws) hf
    exact ih e (List.mem_filter.mp he).1 hef
  | numberSet items =>
    have hne := isEmptyCollection_of_toWire h
    rw [toWire.eq_def, if_neg (by simp [hne])] at h
    obtain rfl : WireValue.numberSet (items.map (·.text)) = w := Except.ok.inj h
    rintro u ⟨⟩
    rw [WireValue.isEmptyCollection, List.isEmpty_map]
    exact hne
  | stringSet items | binarySet items =>
    have hne := isEmptyCollection_of_toWire h
    rw [toWire.eq_def, if_neg (by simp [hne])] at h
    obtain rfl := Except.ok.inj h
    rintro u ⟨⟩
    exact hne
  | string _ | number _ | binary _ | bool _ | null =>
    obtain rfl := Except.ok.inj h
    rintro u ⟨⟩
    rfl

/-- Maps are in strict order on the wire if the documents are. -/
theorem wellFormed_of_toWire {v : Value} {w : WireValue} (hv : v.WellFormed)
    (h : v.toWire = .ok w) : w.WellFormed := by
  induction v using ind generalizing w with
  | list items ih =>
    obtain ⟨-, ws, hws, rfl⟩ := toWire_list.mp h
    refine WireValue.wellFormed_list fun w hw => ?_
    obtain ⟨v, hmem, hvw⟩ := exists_of_forall₂_right hws hw
    rw [WellFormed, wellFormedItems_iff] at hv
    exact ih v hmem (hv v hmem) hvw
  | document m ih =>
    obtain ⟨ws, hws, rfl⟩ := toWire_document.mp h
    have hws := entriesToWire_eq_ok.mp hws
    rw [WellFormed, wellFormedEntries_iff] at hv
    refine WireValue.wellFormed_map ?_ fun f hf => ?_
    · exact Entries.sorted_of_keys_eq (Entries.keys_eq_of_forall₂ (hws.imp fun e f h => h.1))
        (Entries.sorted_filter _ hv.1)
    · obtain ⟨e, he, -, hef⟩ := exists_of_forall₂_right hws hf
      have hmem := (List.mem_filter.mp he).1
      exact ih e hmem (hv.2 e hmem) hef
  | stringSet items | numberSet items | binarySet items =>
    have hne := isEmptyCollection_of_toWire h
    rw [toWire.eq_def, if_neg (by simp [hne])] at h
    obtain rfl := Except.ok.inj h
    rintro m ⟨⟩
  | string _ | number _ | binary _ | bool _ | null =>
    obtain rfl := Except.ok.inj h
    rintro m ⟨⟩

/-! ### What travels -/

/-- No list within the value has an empty list or set as an item. -/
def NoEmptyItem (v : Value) : Prop :=
  ∀ items, Within (.list items) v → ∀ x ∈ items, x.isEmptyCollection = false

theorem Filled.noEmptyItem {v : Value} (h : v.Filled) : v.NoEmptyItem :=
  fun _ hitems x hx => h x (Within.trans (.item hx .self) hitems)

theorem noEmptyItem_list {items : List Value} :
    (Value.list items).NoEmptyItem ↔
      ∀ v ∈ items, v.isEmptyCollection = false ∧ v.NoEmptyItem := by
  constructor
  · intro h v hv
    exact ⟨h items .self v hv, fun vs hvs => h vs (.item hv hvs)⟩
  · rintro h vs (_ | ⟨hv, hvs⟩)
    · exact fun x hx => (h x hx).1
    · exact (h _ hv).2 vs hvs

theorem noEmptyItem_document {m : Entries Value} :
    (Value.document m).NoEmptyItem ↔ ∀ e ∈ m, e.2.NoEmptyItem := by
  constructor
  · intro h e he vs hvs
    exact h vs (.entry he hvs)
  · rintro h vs (_ | _ | ⟨he, hvs⟩)
    exact h _ he vs hvs

theorem noEmptyItem_of_isEmptyCollection {v : Value} (h : v.isEmptyCollection = true) :
    v.NoEmptyItem := by
  cases v with
  | list items =>
    rw [noEmptyItem_list, List.isEmpty_iff.mp h]
    exact fun v hv => absurd hv List.not_mem_nil
  | stringSet items | numberSet items | binarySet items => rintro vs ⟨⟩
  | string _ | number _ | binary _ | bool _ | null | document _ =>
    exact absurd h (by simp [isEmptyCollection])

theorem exists_toWire_list {items : List Value} :
    (∃ w, (Value.list items).toWire = .ok w) ↔ items ≠ [] ∧ ∀ v ∈ items, ∃ w, v.toWire = .ok w := by
  simp only [toWire_list, ← exists_mapM_eq_ok, mapM_eq_ok]
  constructor
  · rintro ⟨w, hne, ws, hws, -⟩
    exact ⟨hne, ws, hws⟩
  · rintro ⟨hne, ws, hws⟩
    exact ⟨.list ws, hne, ws, hws, rfl⟩

theorem exists_entriesToWire {m : Entries Value} :
    (∃ ws, entriesToWire m = .ok ws) ↔
      ∀ e ∈ m, e.2.isEmptyCollection = false → ∃ w, e.2.toWire = .ok w := by
  rw [entriesToWire_eq_mapM, exists_mapM_eq_ok]
  simp only [map_eq_ok, List.mem_filter, Bool.not_eq_true', and_imp]
  refine forall₃_congr fun e he hne => ?_
  constructor
  · rintro ⟨f, w, hw, -⟩
    exact ⟨w, hw⟩
  · rintro ⟨w, hw⟩
    exact ⟨(e.1, w), w, hw, rfl⟩

theorem exists_toWire_document {m : Entries Value} :
    (∃ w, (Value.document m).toWire = .ok w) ↔ ∃ ws, entriesToWire m = .ok ws := by
  simp only [toWire_document]
  exact ⟨fun ⟨_, ws, hws, _⟩ => ⟨ws, hws⟩, fun ⟨ws, hws⟩ => ⟨_, ws, hws, rfl⟩⟩

/-- **A value travels if and only if it is no empty list or set and no list within it has one as an
item.** -/
theorem exists_toWire_iff {v : Value} :
    (∃ w, v.toWire = .ok w) ↔ v.isEmptyCollection = false ∧ v.NoEmptyItem := by
  induction v using ind with
  | list items ih =>
    rw [exists_toWire_list, noEmptyItem_list]
    refine and_congr (by simp [isEmptyCollection]) (forall₂_congr ih)
  | document m ih =>
    rw [exists_toWire_document, exists_entriesToWire, noEmptyItem_document]
    -- an attribute that is left out need not travel, but holds nothing that could not
    constructor
    · refine fun h => ⟨rfl, fun e he => ?_⟩
      cases hv : e.2.isEmptyCollection with
      | true => exact noEmptyItem_of_isEmptyCollection hv
      | false => exact ((ih e he).mp (h e he hv)).2
    · exact fun h e he hv => (ih e he).mpr ⟨hv, h.2 e he⟩
  | stringSet items | numberSet items | binarySet items =>
    rw [toWire.eq_def]
    cases items with
    | nil => simp [isEmptyCollection]
    | cons x xs =>
      exact ⟨fun _ => ⟨rfl, by rintro vs ⟨⟩⟩, fun _ => ⟨_, rfl⟩⟩
  | string _ | number _ | binary _ | bool _ | null =>
    exact ⟨fun _ => ⟨rfl, by rintro vs ⟨⟩⟩, fun _ => ⟨_, rfl⟩⟩

/-- **The round trip.** A value travels unless it is an empty list or set, or a list within it has
one as an item. What travels holds none, is read back from its JSON as it is (the names of its
documents in order, as they are in every dictionary), and comes back as the value without the
attributes that hold one; so whatever holds none comes back as it was. -/
theorem toWire_roundTrip (v : Value) :
    ((∃ w, v.toWire = .ok w) ↔
      v.isEmptyCollection = false ∧
        ∀ items, Within (.list items) v → ∀ x ∈ items, x.isEmptyCollection = false) ∧
    (∀ w, v.toWire = .ok w →
      (∀ u, WireValue.Within u w → u.isEmptyCollection = false) ∧
      (v.WellFormed → WireValue.ofJson w.toJson = .ok w) ∧
      ofWire w = .ok v.prune) ∧
    ((∀ u, Within u v → u.isEmptyCollection = false) →
      ∃ w, v.toWire = .ok w ∧ ofWire w = .ok v) := by
  refine ⟨exists_toWire_iff, fun w hw => ⟨filled_of_toWire hw, fun hv => ?_, ofWire_of_toWire hw⟩,
    fun hfilled => ?_⟩
  · exact WireValue.ofJson_toJson (wellFormed_of_toWire hv hw)
  · obtain ⟨w, hw⟩ := exists_toWire_iff.mpr ⟨Filled.isEmptyCollection hfilled,
      Filled.noEmptyItem hfilled⟩
    refine ⟨w, hw, ?_⟩
    rw [ofWire_of_toWire hw, prune_of_filled hfilled]

/-- Of three attributes, the one that holds an empty set is left out. -/
theorem toWire_roundTrip_document :
    (Value.document [("a", .list [.null]), ("b", .stringSet []), ("c", .document [])]).toWire =
        .ok (.map [("a", .list [.null]), ("c", .map [])]) ∧
      (Value.document
        [("a", .list [.null]), ("b", .stringSet []), ("c", .document [])]).WellFormed ∧
      WireValue.ofJson (WireValue.map [("a", .list [.null]), ("c", .map [])]).toJson =
        .ok (.map [("a", .list [.null]), ("c", .map [])]) ∧
      ofWire (.map [("a", .list [.null]), ("c", .map [])]) =
        .ok (.document [("a", .list [.null]), ("c", .document [])]) := by
  have hw : (Value.document
      [("a", .list [.null]), ("b", .stringSet []), ("c", .document [])]).toWire =
        .ok (.map [("a", .list [.null]), ("c", .map [])]) := rfl
  have hv : (Value.document
      [("a", .list [.null]), ("b", .stringSet []), ("c", .document [])]).WellFormed :=
    ⟨by decide, ⟨trivial, trivial⟩, trivial, ⟨.nil, trivial⟩, trivial⟩
  obtain ⟨-, hback, -⟩ := toWire_roundTrip _
  exact ⟨hw, hv, (hback _ hw).2.1 hv, (hback _ hw).2.2⟩

end Value

end Dynamo
