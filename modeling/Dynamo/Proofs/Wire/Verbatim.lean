import Dynamo.Proofs.Json.Normal
import Dynamo.Proofs.Wire.Reencoding

/-! # Documents that are sent back

A document that was read and is sent again says what it said, if nothing in it is lost: an empty list
or set is not sent, and null is always sent as true. `Json.Lasting` says of a typed JSON value that it
has neither an empty payload nor a null that is false.

* `WireValue.normal_toJson_of_typed`: what is written for a typed value is what it was read from.
* `Document.toJson_of_ofTypedJson`: the JSON of the document is the one that was read, up to the
  order of members. -/

namespace Dynamo

open Dynamo.Except

/-! ### Payloads that last -/

/-- **No object within the value has a member that is an empty array, or a null that is false.** -/
def Json.Lasting (j : Json) : Prop :=
  ∀ ms, Within (.obj ms) j → ∀ e ∈ ms, e.2 ≠ .arr [] ∧ e ≠ ("NULL", .bool false)

namespace Json

theorem Lasting.item {j : Json} {items : List Json} (h : (arr items).Lasting) (hj : j ∈ items) :
    j.Lasting := fun ms hms => h ms (.item hj hms)

theorem Lasting.member {name : String} {j : Json} {members : List (String × Json)}
    (h : (obj members).Lasting) (hj : (name, j) ∈ members) : j.Lasting :=
  fun ms hms => h ms (.member hj hms)

/-- The payload of a typed value is no empty array. -/
theorem Lasting.payload_ne {name : String} {payload : Json} (h : (obj [(name, payload)]).Lasting) :
    payload ≠ .arr [] := (h _ .self _ (List.mem_singleton.mpr rfl)).1

theorem Lasting.payload {name : String} {payload : Json} (h : (obj [(name, payload)]).Lasting) :
    payload.Lasting := h.member (List.mem_singleton.mpr rfl)

end Json

namespace WireValue

theorem filled_of_payload {α : Type} {name : String} {items : List α} {f : α → Json}
    {w : WireValue} (h : (Json.obj [(name, .arr (items.map f))]).Lasting)
    (hw : ∀ u, Within u w → u = w) (hempty : w.isEmptyCollection = items.isEmpty) : w.Filled := by
  intro u hu
  rw [hw u hu, hempty]
  cases items with
  | nil => exact absurd rfl h.payload_ne
  | cons a items => rfl

mutual

theorem filled_of_typed : ∀ {j : Json} {w : WireValue}, Typed j w → j.Lasting → w.Filled
  | _, _, .stringSet items, h => filled_of_payload h (by rintro u ⟨⟩; rfl) rfl
  | _, _, .numberSet texts, h => filled_of_payload h (by rintro u ⟨⟩; rfl) rfl
  | _, _, .binarySet items, h => filled_of_payload h (by rintro u ⟨⟩; rfl) rfl
  | _, _, .list hs, h => by
    refine filled_list ?_ (filled_of_typedItems hs fun j hj => h.payload.item hj)
    rintro rfl
    cases hs
    exact h.payload_ne rfl
  | _, _, .map hs, h => by
    refine filled_map fun e he => ?_
    exact filled_of_typedMembers hs (fun e he => h.payload.member he) e
      (Entries.mem_of_mem_ofList he)
  | _, _, .string _, _ => by rintro u ⟨⟩; rfl
  | _, _, .number _, _ => by rintro u ⟨⟩; rfl
  | _, _, .binary _, _ => by rintro u ⟨⟩; rfl
  | _, _, .bool _, _ => by rintro u ⟨⟩; rfl
  | _, _, .null _, _ => by rintro u ⟨⟩; rfl

theorem filled_of_typedItems : ∀ {js : List Json} {ws : List WireValue}, TypedItems js ws →
    (∀ j ∈ js, j.Lasting) → ∀ w ∈ ws, w.Filled
  | _, _, .nil, _ => nofun
  | _, _, .cons h hs, hjs => by
    intro w hw
    rcases List.mem_cons.mp hw with rfl | hw
    · exact filled_of_typed h (hjs _ List.mem_cons_self)
    · exact filled_of_typedItems hs (fun j hj => hjs j (List.mem_cons_of_mem _ hj)) w hw

theorem filled_of_typedMembers : ∀ {ms : List (String × Json)} {m : Entries WireValue},
    TypedMembers ms m → (∀ e ∈ ms, e.2.Lasting) → ∀ e ∈ m, e.2.Filled
  | _, _, .nil, _ => nofun
  | _, _, .cons k h hs, hms => by
    intro e he
    rcases List.mem_cons.mp he with rfl | he
    · exact filled_of_typed h (hms _ List.mem_cons_self)
    · exact filled_of_typedMembers hs (fun e he => hms e (List.mem_cons_of_mem _ he)) e he

end

/-- Of the entries of a map, only the last of each name counts. -/
theorem normal_entriesToJson_ofList {ms : List (String × Json)} {m : Entries WireValue}
    (h : m.map (fun e => (e.1, e.2.toJson.normal)) = ms.map fun e => (e.1, e.2.normal)) :
    (Json.obj (entriesToJson (Entries.ofList m))).normal = (Json.obj ms).normal := by
  have hlist : Entries.ofList ((Entries.ofList m).map fun e => (e.1, e.2.toJson.normal)) =
      Entries.ofList (ms.map fun e => (e.1, e.2.normal)) := by
    rw [← Entries.ofList_map fun w : WireValue => w.toJson.normal,
      Entries.ofList_of_sorted (Entries.sorted_ofList _), h]
  rw [entriesToJson_eq_map, Json.normal_obj, Json.normal_obj, List.map_map, ← hlist]
  rfl

mutual

/-- **What is written for a typed value is the JSON it was read from**, up to the order of members. -/
theorem normal_toJson_of_typed : ∀ {j : Json} {w : WireValue}, Typed j w → j.Lasting →
    w.toJson.normal = j.normal
  | _, _, .list hs, h => by
    rw [toJson, itemsToJson_eq_map]
    refine Json.normal_single ?_
    rw [Json.normal_arr, Json.normal_arr,
      normal_itemsToJson_of_typed hs fun j hj => h.payload.item hj]
  | _, _, .map hs, h => by
    rw [toJson]
    exact Json.normal_single (normal_entriesToJson_ofList
      (normal_entriesToJson_of_typed hs fun e he => h.payload.member he))
  | _, _, .null b, h => by
    cases b with
    | true => rfl
    | false => exact absurd rfl (h _ .self _ (List.mem_singleton.mpr rfl)).2
  | _, _, .string _, _ => rfl
  | _, _, .number _, _ => rfl
  | _, _, .binary _, _ => rfl
  | _, _, .stringSet _, _ => rfl
  | _, _, .numberSet _, _ => rfl
  | _, _, .binarySet _, _ => rfl
  | _, _, .bool _, _ => rfl

theorem normal_itemsToJson_of_typed : ∀ {js : List Json} {ws : List WireValue}, TypedItems js ws →
    (∀ j ∈ js, j.Lasting) → (ws.map toJson).map Json.normal = js.map Json.normal
  | _, _, .nil, _ => rfl
  | _, _, .cons h hs, hjs => by
    rw [List.map_cons, List.map_cons, List.map_cons,
      normal_toJson_of_typed h (hjs _ List.mem_cons_self),
      normal_itemsToJson_of_typed hs fun j hj => hjs j (List.mem_cons_of_mem _ hj)]

theorem normal_entriesToJson_of_typed : ∀ {ms : List (String × Json)} {m : Entries WireValue},
    TypedMembers ms m → (∀ e ∈ ms, e.2.Lasting) →
      m.map (fun e => (e.1, e.2.toJson.normal)) = ms.map fun e => (e.1, e.2.normal)
  | _, _, .nil, _ => rfl
  | _, _, .cons k h hs, hms => by
    rw [List.map_cons, List.map_cons, normal_toJson_of_typed h (hms _ List.mem_cons_self),
      normal_entriesToJson_of_typed hs fun e he => hms e (List.mem_cons_of_mem _ he)]

end

end WireValue

/-! ### Sent back -/

namespace Value

theorem entriesToWire_of_entriesOfWire {ws : Entries WireValue} {m : Entries Value}
    (h : entriesOfWire ws = .ok m)
    (hback : ∀ f ∈ ws, ∀ v, ofWire f.2 = .ok v → v.toWire = .ok f.2) :
    entriesToWire m = .ok ws := by
  have hm : List.Forall₂ (fun f e => f.1 = e.1 ∧ e.2.toWire = .ok f.2) ws m :=
    forall₂_imp_of_mem (fun f hf e h => ⟨h.1, hback f hf e.2 h.2⟩) (entriesOfWire_eq_ok.mp h)
  have hfilter : m.filter (fun e => !e.2.isEmptyCollection) = m := by
    refine List.filter_eq_self.mpr fun e he => ?_
    obtain ⟨f, -, -, hf⟩ := exists_of_forall₂_right hm he
    rw [isEmptyCollection_of_toWire hf]
    rfl
  rw [entriesToWire_eq_ok, hfilter]
  exact hm.flip.imp fun e f h => ⟨h.1.symm, h.2⟩

end Value

namespace Document

theorem ofTypedJson_eq_ok {j : Json} {m : Document} :
    ofTypedJson j = .ok m ↔ ∃ members ws, j = .obj members ∧ WireValue.TypedMembers members ws ∧
      ofWire (Entries.ofList ws) = .ok m := by
  unfold ofTypedJson
  rw [bind_eq_ok]
  simp only [mapError_eq_ok]
  cases j with
  | obj members =>
    constructor
    · rintro ⟨ws, hws, hm⟩
      obtain ⟨ws', hws', hlast⟩ := bind_eq_ok.mp hws
      obtain rfl := pure_eq_ok.mp hlast
      exact ⟨members, ws', rfl, WireValue.entriesOfJson_eq_ok_iff.mp hws', hm⟩
    · rintro ⟨members', ws, hmembers, hws, hm⟩
      obtain rfl := Json.obj.inj hmembers
      refine ⟨_, bind_eq_ok.mpr ⟨ws, WireValue.entriesOfJson_eq_ok_iff.mpr hws, rfl⟩, hm⟩
  | _ => simp [WireValue.mapOfJson]

/-- A document without attributes is read from an empty object only. -/
theorem ofTypedJson_nil {j : Json} {m : Document} (h : ofTypedJson j = .ok m) :
    m = [] ↔ j = .obj [] := by
  obtain ⟨members, ws, rfl, hws, hm⟩ := ofTypedJson_eq_ok.mp h
  have hentries := Value.entriesOfWire_eq_ok.mp hm
  constructor
  · rintro rfl
    obtain rfl := Entries.ofList_eq_nil.mp (List.forall₂_nil_right_iff.mp hentries)
    cases hws
    rfl
  · intro hmembers
    obtain rfl := Json.obj.inj hmembers
    cases hws
    exact List.forall₂_nil_left_iff.mp hentries

/-- **The JSON of a document is the one that was read**, up to the order of members. -/
theorem toJson_of_ofTypedJson {j : Json} {m : Document} (h : ofTypedJson j = .ok m)
    (hj : j.Lasting) : ∃ j', m.toJson = .ok j' ∧ j'.normal = j.normal := by
  obtain ⟨members, ws, rfl, hws, hm⟩ := ofTypedJson_eq_ok.mp h
  have hlast : ∀ e ∈ members, e.2.Lasting := fun e he => hj.member he
  have hfilled := WireValue.filled_of_typedMembers hws hlast
  have hwire : m.toWire = .ok (Entries.ofList ws) :=
    Value.entriesToWire_of_entriesOfWire hm fun f hf v hv =>
      Value.toWire_of_ofWire (hfilled f (Entries.mem_of_mem_ofList hf)) hv
  refine ⟨.obj (WireValue.entriesToJson (Entries.ofList ws)), ?_,
    WireValue.normal_entriesToJson_ofList (WireValue.normal_entriesToJson_of_typed hws hlast)⟩
  rw [toJson, hwire]
  rfl

end Document

end Dynamo
