import Dynamo.Proofs.Dict
import Dynamo.Proofs.Except
import Dynamo.Proofs.Text.Base64
import Dynamo.Proofs.Wire.Parts

/-! # The grammar of typed JSON

`Typed j w` says that `j` is written for the typed value `w`: an object with one member, whose name
says what its payload is. Reading follows this grammar exactly (`ofJson_eq_ok_iff`), and writing
stays within it (`typed_toJson`), so what is written is read back (`ofJson_toJson`). -/

namespace Dynamo.WireValue

open Dynamo.Except

mutual

/-- **The JSON value is written for the typed value.** Null may carry any truth value, and of several
members of a map with one name the last counts. -/
inductive Typed : Json → WireValue → Prop
  | string (s : String) : Typed (.obj [("S", .str s)]) (.string s)
  | number (text : String) : Typed (.obj [("N", .str text)]) (.number text)
  | binary (bytes : Bytes) : Typed (.obj [("B", .str (Base64.encode bytes))]) (.binary bytes)
  | stringSet (items : List String) :
    Typed (.obj [("SS", .arr (items.map .str))]) (.stringSet items)
  | numberSet (texts : List String) :
    Typed (.obj [("NS", .arr (texts.map .str))]) (.numberSet texts)
  | binarySet (items : List Bytes) :
    Typed (.obj [("BS", .arr (items.map fun b => .str (Base64.encode b)))]) (.binarySet items)
  | bool (b : Bool) : Typed (.obj [("BOOL", .bool b)]) (.bool b)
  | null (b : Bool) : Typed (.obj [("NULL", .bool b)]) .null
  | list {js : List Json} {ws : List WireValue} (h : TypedItems js ws) :
    Typed (.obj [("L", .arr js)]) (.list ws)
  | map {ms : List (String × Json)} {m : Entries WireValue} (h : TypedMembers ms m) :
    Typed (.obj [("M", .obj ms)]) (.map (Entries.ofList m))

/-- The JSON values are written for the typed values, one for each. -/
inductive TypedItems : List Json → List WireValue → Prop
  | nil : TypedItems [] []
  | cons {j : Json} {w : WireValue} {js : List Json} {ws : List WireValue} (h : Typed j w)
    (hs : TypedItems js ws) : TypedItems (j :: js) (w :: ws)

/-- The values of the members are written for the entries with the same names. -/
inductive TypedMembers : List (String × Json) → Entries WireValue → Prop
  | nil : TypedMembers [] []
  | cons (k : String) {j : Json} {w : WireValue} {ms : List (String × Json)}
    {m : Entries WireValue} (h : Typed j w) (hs : TypedMembers ms m) :
    TypedMembers ((k, j) :: ms) ((k, w) :: m)

end

/-! ### Payloads -/

theorem stringOf_eq_ok {j : Json} {s : String} : stringOf j = .ok s ↔ j = .str s := by
  cases j <;> simp [stringOf]

theorem boolOf_eq_ok {j : Json} {b : Bool} : boolOf j = .ok b ↔ j = .bool b := by
  cases j <;> simp [boolOf]

theorem stringsOf_eq_ok {j : Json} {items : List String} :
    stringsOf j = .ok items ↔ j = .arr (items.map .str) := by
  cases j with
  | arr js => simp [stringsOf, mapM_eq_ok_iff_map fun j s => stringOf_eq_ok (j := j) (s := s)]
  | _ => simp [stringsOf]

theorem bytesOf_eq_ok {s : String} {bytes : Bytes} :
    bytesOf s = .ok bytes ↔ s = Base64.encode bytes := by
  rw [← Base64.decode?_eq_some_iff]
  unfold bytesOf
  cases Base64.decode? s <;> simp

theorem ofJson_single (tag : WireTag) (payload : Json) :
    ofJson (.obj [(tag.name, payload)]) = ofPayload tag payload := by
  rw [ofJson, WireTag.ofName?_name]
  show ofPayload tag payload >>= _ = _
  cases ofPayload tag payload <;> rfl

theorem ofJson_cons {name : String} {payload : Json} {more : List (String × Json)} {w : WireValue}
    (h : ofJson (.obj ((name, payload) :: more)) = .ok w) :
    more = [] ∧ ∃ tag : WireTag, tag.name = name ∧ ofPayload tag payload = .ok w := by
  rw [ofJson] at h
  cases htag : WireTag.ofName? name with
  | none =>
    rw [htag] at h
    exact absurd h (by simp)
  | some tag =>
    rw [htag] at h
    obtain ⟨w', hw', h⟩ := bind_eq_ok.mp h
    cases more with
    | nil =>
      obtain rfl : w' = w := Except.ok.inj h
      exact ⟨rfl, tag, WireTag.name_of_ofName? htag, hw'⟩
    | cons e more => exact absurd h (by simp)

/-! ### Reading -/

mutual

theorem typed_of_ofJson : ∀ {j : Json} {w : WireValue}, ofJson j = .ok w → Typed j w
  | .obj ((name, payload) :: more), w, h => by
    obtain ⟨rfl, tag, rfl, hpayload⟩ := ofJson_cons h
    exact typed_of_ofPayload hpayload
  | .obj [], w, h => by simp [ofJson] at h
  | .null, w, h | .bool _, w, h | .num _, w, h | .str _, w, h | .arr _, w, h
  | .illegible, w, h => by simp [ofJson] at h

theorem typed_of_ofPayload : ∀ {tag : WireTag} {payload : Json} {w : WireValue},
    ofPayload tag payload = .ok w → Typed (.obj [(tag.name, payload)]) w
  | .string, payload, w, h => by
    obtain ⟨s, hs, hw⟩ := bind_eq_ok.mp (by simpa only [ofPayload] using h)
    obtain rfl := stringOf_eq_ok.mp hs
    obtain rfl := pure_eq_ok.mp hw
    exact .string s
  | .number, payload, w, h => by
    obtain ⟨s, hs, hw⟩ := bind_eq_ok.mp (by simpa only [ofPayload] using h)
    obtain rfl := stringOf_eq_ok.mp hs
    obtain rfl := pure_eq_ok.mp hw
    exact .number s
  | .binary, payload, w, h => by
    obtain ⟨s, hs, hw⟩ := bind_eq_ok.mp (by simpa only [ofPayload] using h)
    obtain ⟨bytes, hbytes, hbinary⟩ := bind_eq_ok.mp hw
    obtain rfl := stringOf_eq_ok.mp hs
    obtain rfl := bytesOf_eq_ok.mp hbytes
    obtain rfl := pure_eq_ok.mp hbinary
    exact .binary bytes
  | .stringSet, payload, w, h => by
    obtain ⟨items, hitems, hw⟩ := bind_eq_ok.mp (by simpa only [ofPayload] using h)
    obtain rfl := stringsOf_eq_ok.mp hitems
    obtain rfl := pure_eq_ok.mp hw
    exact .stringSet items
  | .numberSet, payload, w, h => by
    obtain ⟨texts, htexts, hw⟩ := bind_eq_ok.mp (by simpa only [ofPayload] using h)
    obtain rfl := stringsOf_eq_ok.mp htexts
    obtain rfl := pure_eq_ok.mp hw
    exact .numberSet texts
  | .binarySet, payload, w, h => by
    obtain ⟨texts, htexts, hw⟩ := bind_eq_ok.mp (by simpa only [ofPayload] using h)
    obtain ⟨items, hitems, hset⟩ := bind_eq_ok.mp hw
    obtain rfl := stringsOf_eq_ok.mp htexts
    obtain rfl := (mapM_eq_ok_iff_map fun s bytes => bytesOf_eq_ok).mp hitems
    obtain rfl := pure_eq_ok.mp hset
    rw [List.map_map]
    exact .binarySet items
  | .bool, payload, w, h => by
    obtain ⟨b, hb, hw⟩ := bind_eq_ok.mp (by simpa only [ofPayload] using h)
    obtain rfl := boolOf_eq_ok.mp hb
    obtain rfl := pure_eq_ok.mp hw
    exact .bool b
  | .null, payload, w, h => by
    obtain ⟨b, hb, hw⟩ := bind_eq_ok.mp (by simpa only [ofPayload] using h)
    obtain rfl := boolOf_eq_ok.mp hb
    obtain rfl := pure_eq_ok.mp hw
    exact .null b
  | .list, .arr items, w, h => by
    obtain ⟨ws, hws, hw⟩ := bind_eq_ok.mp (by simpa only [ofPayload] using h)
    obtain rfl := pure_eq_ok.mp hw
    exact .list (typed_of_itemsOfJson hws)
  | .map, .obj members, w, h => by
    obtain ⟨m, hm, hw⟩ := bind_eq_ok.mp (by simpa only [ofPayload] using h)
    obtain rfl := pure_eq_ok.mp hw
    exact .map (typed_of_entriesOfJson hm)
  | .list, .null, w, h | .list, .bool _, w, h | .list, .num _, w, h | .list, .str _, w, h
  | .list, .obj _, w, h | .list, .illegible, w, h => by simp [ofPayload] at h
  | .map, .null, w, h | .map, .bool _, w, h | .map, .num _, w, h | .map, .str _, w, h
  | .map, .arr _, w, h | .map, .illegible, w, h => by simp [ofPayload] at h

theorem typed_of_itemsOfJson : ∀ {js : List Json} {ws : List WireValue},
    itemsOfJson js = .ok ws → TypedItems js ws
  | [], ws, h => by
    obtain rfl : [] = ws := Except.ok.inj h
    exact .nil
  | j :: js, ws, h => by
    obtain ⟨w, hw, h⟩ := bind_eq_ok.mp h
    obtain ⟨ws', hws, h⟩ := bind_eq_ok.mp h
    obtain rfl := pure_eq_ok.mp h
    exact .cons (typed_of_ofJson hw) (typed_of_itemsOfJson hws)

theorem typed_of_entriesOfJson : ∀ {ms : List (String × Json)} {m : Entries WireValue},
    entriesOfJson ms = .ok m → TypedMembers ms m
  | [], m, h => by
    obtain rfl : [] = m := Except.ok.inj h
    exact .nil
  | (k, j) :: ms, m, h => by
    obtain ⟨w, hw, h⟩ := bind_eq_ok.mp h
    obtain ⟨m', hm, h⟩ := bind_eq_ok.mp h
    obtain rfl := pure_eq_ok.mp h
    exact .cons k (typed_of_ofJson hw) (typed_of_entriesOfJson hm)

end

mutual

theorem ofJson_of_typed : ∀ {j : Json} {w : WireValue}, Typed j w → ofJson j = .ok w
  | _, _, .string s => ofJson_single .string (.str s)
  | _, _, .number text => ofJson_single .number (.str text)
  | _, _, .binary bytes => by
    refine (ofJson_single .binary _).trans ?_
    rw [ofPayload, stringOf_eq_ok.mpr rfl]
    show bytesOf (Base64.encode bytes) >>= _ = _
    rw [bytesOf_eq_ok.mpr rfl]
    rfl
  | _, _, .stringSet items => by
    refine (ofJson_single .stringSet _).trans ?_
    rw [ofPayload, stringsOf_eq_ok.mpr rfl]
    rfl
  | _, _, .numberSet texts => by
    refine (ofJson_single .numberSet _).trans ?_
    rw [ofPayload, stringsOf_eq_ok.mpr rfl]
    rfl
  | _, _, .binarySet items => by
    refine (ofJson_single .binarySet _).trans ?_
    have htexts : stringsOf (.arr (items.map fun b => .str (Base64.encode b))) =
        .ok (items.map Base64.encode) := stringsOf_eq_ok.mpr (by rw [List.map_map]; rfl)
    rw [ofPayload, htexts]
    show (items.map Base64.encode).mapM bytesOf >>= _ = _
    rw [(mapM_eq_ok_iff_map fun s bytes => bytesOf_eq_ok).mpr rfl]
    rfl
  | _, _, .bool b => ofJson_single .bool (.bool b)
  | _, _, .null b => ofJson_single .null (.bool b)
  | _, _, .list hs => by
    refine (ofJson_single .list _).trans ?_
    rw [ofPayload, itemsOfJson_of_typed hs]
    rfl
  | _, _, .map hs => by
    refine (ofJson_single .map _).trans ?_
    rw [ofPayload, entriesOfJson_of_typed hs]
    rfl

theorem itemsOfJson_of_typed : ∀ {js : List Json} {ws : List WireValue},
    TypedItems js ws → itemsOfJson js = .ok ws
  | _, _, .nil => rfl
  | _, _, .cons h hs => by
    rw [itemsOfJson, ofJson_of_typed h, itemsOfJson_of_typed hs]
    rfl

theorem entriesOfJson_of_typed : ∀ {ms : List (String × Json)} {m : Entries WireValue},
    TypedMembers ms m → entriesOfJson ms = .ok m
  | _, _, .nil => rfl
  | _, _, .cons k h hs => by
    rw [entriesOfJson, ofJson_of_typed h, entriesOfJson_of_typed hs]
    rfl

end

/-- **Reading accepts the typed JSON values, and no others.** -/
theorem ofJson_eq_ok_iff {j : Json} {w : WireValue} : ofJson j = .ok w ↔ Typed j w :=
  ⟨typed_of_ofJson, ofJson_of_typed⟩

theorem entriesOfJson_eq_ok_iff {ms : List (String × Json)} {m : Entries WireValue} :
    entriesOfJson ms = .ok m ↔ TypedMembers ms m :=
  ⟨typed_of_entriesOfJson, entriesOfJson_of_typed⟩

/-! ### Writing -/

theorem typed_itemsToJson {ws : List WireValue} (h : ∀ w ∈ ws, Typed w.toJson w) :
    TypedItems (itemsToJson ws) ws := by
  induction ws with
  | nil => exact .nil
  | cons w ws ih =>
    rw [itemsToJson]
    exact .cons (h w List.mem_cons_self) (ih fun w hw => h w (List.mem_cons_of_mem _ hw))

theorem typed_entriesToJson {m : Entries WireValue} (h : ∀ e ∈ m, Typed e.2.toJson e.2) :
    TypedMembers (entriesToJson m) m := by
  induction m with
  | nil => exact .nil
  | cons e m ih =>
    rw [entriesToJson]
    exact .cons e.1 (h e List.mem_cons_self) (ih fun e he => h e (List.mem_cons_of_mem _ he))

/-- What is written for a well-formed typed value is typed JSON for it. -/
theorem typed_toJson {w : WireValue} (hw : w.WellFormed) : Typed w.toJson w := by
  induction w using ind with
  | list items ih =>
    rw [toJson]
    exact .list (typed_itemsToJson fun w hmem => ih w hmem (hw.item hmem))
  | map m ih =>
    have hm : Typed (.obj [("M", .obj (entriesToJson m))]) (.map (Entries.ofList m)) :=
      .map (typed_entriesToJson fun e hmem => ih e hmem (hw.entry hmem))
    rw [Entries.ofList_of_sorted hw.sorted] at hm
    exact hm
  | string s => exact .string s
  | number text => exact .number text
  | binary bytes => exact .binary bytes
  | stringSet items => exact .stringSet items
  | numberSet texts => exact .numberSet texts
  | binarySet items => exact .binarySet items
  | bool b => exact .bool b
  | null => exact .null true

/-- **What is written for a well-formed typed value is read back as it.** -/
theorem ofJson_toJson {w : WireValue} (hw : w.WellFormed) : ofJson w.toJson = .ok w :=
  ofJson_of_typed (typed_toJson hw)

end Dynamo.WireValue
