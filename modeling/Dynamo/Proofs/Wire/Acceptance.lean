import Dynamo.Proofs.Json.Normal
import Dynamo.Proofs.Wire.Grammar
import Mathlib.Data.Set.List

/-! # Which JSON values are typed

`WireValue.Typed` relates a JSON value to the typed value that it is written for. Here the JSON value
stands alone: `Json.IsTyped` says of which objects reading makes a typed value, and `Json.nullsTrue`
what is different when they are written again.

* `WireValue.exists_typed_iff`: the JSON values that are written for some typed value.
* `WireValue.toJson_of_typed`: what is written for it, namely the same JSON value in normal form, with
  every null true.
* `WireValue.ofJson_accepts`: what reading accepts, and what becomes of it. -/

namespace Dynamo

namespace Json

/-- **The grammar of typed values**: objects with one member, whose name says what its payload is. -/
inductive IsTyped : Json → Prop
  | string (s : String) : IsTyped (.obj [("S", .str s)])
  | number (text : String) : IsTyped (.obj [("N", .str text)])
  | binary {s : String} (h : ∃ bytes, Base64.encode bytes = s) : IsTyped (.obj [("B", .str s)])
  | stringSet (items : List String) : IsTyped (.obj [("SS", .arr (items.map .str))])
  | numberSet (texts : List String) : IsTyped (.obj [("NS", .arr (texts.map .str))])
  | binarySet {items : List String} (h : ∀ s ∈ items, ∃ bytes, Base64.encode bytes = s) :
    IsTyped (.obj [("BS", .arr (items.map .str))])
  | bool (b : Bool) : IsTyped (.obj [("BOOL", .bool b)])
  | null (b : Bool) : IsTyped (.obj [("NULL", .bool b)])
  | list {js : List Json} (h : ∀ j ∈ js, IsTyped j) : IsTyped (.obj [("L", .arr js)])
  | map {ms : List (String × Json)} (h : ∀ e ∈ ms, IsTyped e.2) : IsTyped (.obj [("M", .obj ms)])

/-! ### Nulls that are true -/

/-- The value as the payload of a member: a truth value called `NULL` is true. -/
def payload (name : String) : Json → Json
  | .bool b => .bool (b || name = "NULL")
  | j => j

mutual

/-- **The value with every null true**: the truth values of all members called `NULL`. -/
def nullsTrue : Json → Json
  | .arr items => .arr (nullsTrueItems items)
  | .obj members => .obj (nullsTrueMembers members)
  | j => j

/-- The same for all items of an array. -/
def nullsTrueItems : List Json → List Json
  | [] => []
  | j :: js => j.nullsTrue :: nullsTrueItems js

/-- The same for all members of an object. -/
def nullsTrueMembers : List (String × Json) → List (String × Json)
  | [] => []
  | (name, j) :: ms => (name, payload name j.nullsTrue) :: nullsTrueMembers ms

end

theorem nullsTrueItems_eq_map (js : List Json) : nullsTrueItems js = js.map nullsTrue := by
  induction js with
  | nil => rfl
  | cons j js ih => rw [nullsTrueItems, ih, List.map_cons]

theorem nullsTrueMembers_eq_map (ms : List (String × Json)) :
    nullsTrueMembers ms = ms.map fun e => (e.1, payload e.1 e.2.nullsTrue) := by
  induction ms with
  | nil => rfl
  | cons e ms ih => rw [nullsTrueMembers, ih, List.map_cons]

theorem normal_nullsTrue_arr (js : List Json) :
    (arr js).nullsTrue.normal = .arr (js.map fun j => j.nullsTrue.normal) := by
  rw [nullsTrue, nullsTrueItems_eq_map, normal_arr, List.map_map]
  rfl

theorem normal_nullsTrue_obj (ms : List (String × Json)) :
    (obj ms).nullsTrue.normal =
      .obj (Entries.ofList (ms.map fun e => (e.1, (payload e.1 e.2.nullsTrue).normal))) := by
  rw [nullsTrue, nullsTrueMembers_eq_map, normal_obj, List.map_map]
  rfl

theorem normal_nullsTrue_strings {α : Type} (f : α → String) (items : List α) :
    (arr (items.map fun a => .str (f a))).nullsTrue.normal = .arr (items.map fun a => .str (f a)) := by
  rw [normal_nullsTrue_arr, List.map_map]
  rfl

theorem normal_nullsTrue_single (name : String) (j : Json) :
    (obj [(name, j)]).nullsTrue.normal = .obj [(name, (payload name j.nullsTrue).normal)] := by
  rw [normal_nullsTrue_obj]
  rfl

end Json

namespace WireValue

/-! ### What reading accepts -/

theorem exists_typedItems {js : List Json} (h : ∀ j ∈ js, ∃ w, Typed j w) :
    ∃ ws, TypedItems js ws := by
  induction js with
  | nil => exact ⟨[], .nil⟩
  | cons j js ih =>
    obtain ⟨w, hw⟩ := h j List.mem_cons_self
    obtain ⟨ws, hws⟩ := ih fun j hj => h j (List.mem_cons_of_mem _ hj)
    exact ⟨w :: ws, .cons hw hws⟩

theorem exists_typedMembers {ms : List (String × Json)} (h : ∀ e ∈ ms, ∃ w, Typed e.2 w) :
    ∃ m, TypedMembers ms m := by
  induction ms with
  | nil => exact ⟨[], .nil⟩
  | cons e ms ih =>
    obtain ⟨w, hw⟩ := h e List.mem_cons_self
    obtain ⟨m, hm⟩ := ih fun e he => h e (List.mem_cons_of_mem _ he)
    exact ⟨(e.1, w) :: m, .cons e.1 hw hm⟩

theorem exists_typed {j : Json} (h : j.IsTyped) : ∃ w, Typed j w := by
  induction h with
  | string s => exact ⟨_, .string s⟩
  | number text => exact ⟨_, .number text⟩
  | binary h =>
    obtain ⟨bytes, rfl⟩ := h
    exact ⟨_, .binary bytes⟩
  | stringSet items => exact ⟨_, .stringSet items⟩
  | numberSet texts => exact ⟨_, .numberSet texts⟩
  | @binarySet items h =>
    have hrange : items ∈ Set.range (List.map Base64.encode) := by
      rw [Set.range_list_map]
      exact h
    obtain ⟨bs, rfl⟩ := hrange
    rw [List.map_map]
    exact ⟨_, .binarySet bs⟩
  | bool b => exact ⟨_, .bool b⟩
  | null b => exact ⟨_, .null b⟩
  | list _ ih =>
    obtain ⟨ws, hws⟩ := exists_typedItems ih
    exact ⟨_, .list hws⟩
  | map _ ih =>
    obtain ⟨m, hm⟩ := exists_typedMembers ih
    exact ⟨_, .map hm⟩

mutual

theorem isTyped_of_typed : ∀ {j : Json} {w : WireValue}, Typed j w → j.IsTyped
  | _, _, .string s => .string s
  | _, _, .number text => .number text
  | _, _, .binary bytes => .binary ⟨bytes, rfl⟩
  | _, _, .stringSet items => .stringSet items
  | _, _, .numberSet texts => .numberSet texts
  | _, _, .binarySet items => by
    have htexts : ∀ s ∈ items.map Base64.encode, ∃ bytes, Base64.encode bytes = s := by
      intro s hs
      obtain ⟨bytes, -, rfl⟩ := List.mem_map.mp hs
      exact ⟨bytes, rfl⟩
    have h := Json.IsTyped.binarySet htexts
    rw [List.map_map] at h
    exact h
  | _, _, .bool b => .bool b
  | _, _, .null b => .null b
  | _, _, .list hs => .list (isTyped_of_typedItems hs)
  | _, _, .map hs => .map (isTyped_of_typedMembers hs)

theorem isTyped_of_typedItems : ∀ {js : List Json} {ws : List WireValue}, TypedItems js ws →
    ∀ j ∈ js, j.IsTyped
  | _, _, .nil => nofun
  | _, _, .cons h hs =>
    List.forall_mem_cons.mpr ⟨isTyped_of_typed h, isTyped_of_typedItems hs⟩

theorem isTyped_of_typedMembers : ∀ {ms : List (String × Json)} {m : Entries WireValue},
    TypedMembers ms m → ∀ e ∈ ms, e.2.IsTyped
  | _, _, .nil => nofun
  | _, _, .cons k h hs =>
    List.forall_mem_cons.mpr ⟨isTyped_of_typed h, isTyped_of_typedMembers hs⟩

end

/-- **The JSON values that are written for some typed value are those of the grammar.** -/
theorem exists_typed_iff {j : Json} : (∃ w, Typed j w) ↔ j.IsTyped :=
  ⟨fun ⟨_, hw⟩ => isTyped_of_typed hw, exists_typed⟩

/-! ### What is written again -/

/-- A typed value is an object, so that as a payload it stays what it is. -/
theorem payload_of_typed {j : Json} {w : WireValue} (h : Typed j w) (name : String) :
    Json.payload name j.nullsTrue = j.nullsTrue := by
  cases h <;> rfl

mutual

/-- **What is written for a typed value is the JSON value it was read from**, in normal form and with
every null true. -/
theorem toJson_of_typed : ∀ {j : Json} {w : WireValue}, Typed j w → w.toJson = j.nullsTrue.normal
  | _, _, .list hs => by
    rw [toJson, itemsToJson_eq_map, toJson_of_typedItems hs, Json.normal_nullsTrue_single,
      ← Json.normal_nullsTrue_arr]
    rfl
  | _, _, .map hs => by
    rw [toJson, entriesToJson_eq_map, ← Entries.ofList_map, toJson_of_typedMembers hs,
      Json.normal_nullsTrue_single, ← Json.normal_nullsTrue_obj]
    rfl
  | _, _, .stringSet items => by
    rw [toJson, Json.normal_nullsTrue_single]
    exact congrArg (fun j => Json.obj [("SS", j)]) (Json.normal_nullsTrue_strings id items).symm
  | _, _, .numberSet texts => by
    rw [toJson, Json.normal_nullsTrue_single]
    exact congrArg (fun j => Json.obj [("NS", j)]) (Json.normal_nullsTrue_strings id texts).symm
  | _, _, .binarySet items => by
    rw [toJson, Json.normal_nullsTrue_single]
    exact congrArg (fun j => Json.obj [("BS", j)])
      (Json.normal_nullsTrue_strings Base64.encode items).symm
  | _, _, .string _ => rfl
  | _, _, .number _ => rfl
  | _, _, .binary _ => rfl
  | _, _, .bool b => by
    cases b <;> rfl
  | _, _, .null b => by
    cases b <;> rfl

theorem toJson_of_typedItems : ∀ {js : List Json} {ws : List WireValue}, TypedItems js ws →
    ws.map toJson = js.map fun j => j.nullsTrue.normal
  | _, _, .nil => rfl
  | _, _, .cons h hs => by
    rw [List.map_cons, List.map_cons, toJson_of_typed h, toJson_of_typedItems hs]

theorem toJson_of_typedMembers : ∀ {ms : List (String × Json)} {m : Entries WireValue},
    TypedMembers ms m → m.map (fun e => (e.1, e.2.toJson)) =
      ms.map fun e => (e.1, (Json.payload e.1 e.2.nullsTrue).normal)
  | _, _, .nil => rfl
  | _, _, .cons k h hs => by
    rw [List.map_cons, List.map_cons, toJson_of_typed h, payload_of_typed h,
      toJson_of_typedMembers hs]

end

/-- **What reading accepts.** A JSON value is read as a typed value if and only if it is in the
grammar. What is then written is the value itself: a null is true, of several members of a map with one
name the last is kept, and members stand in the order of their names. -/
theorem ofJson_accepts (j : Json) :
    ((∃ w, ofJson j = .ok w) ↔ j.IsTyped) ∧
      ∀ w, ofJson j = .ok w → w.toJson = j.nullsTrue.normal := by
  refine ⟨?_, fun w hw => toJson_of_typed (ofJson_eq_ok_iff.mp hw)⟩
  rw [← exists_typed_iff]
  exact exists_congr fun w => ofJson_eq_ok_iff

/-- A map with a null that is false and with two members of one name; with a second tag it is refused. -/
theorem ofJson_accepts_map :
    (∃ w, ofJson (.obj [("M", .obj [("b", .obj [("BOOL", .bool false)]),
        ("a", .obj [("NULL", .bool false)]), ("b", .obj [("L", .arr [])])])]) = .ok w ∧
      w.toJson = .obj [("M", .obj [("a", .obj [("NULL", .bool true)]),
        ("b", .obj [("L", .arr [])])])]) ∧
    ¬ (Json.obj [("S", .str "x"), ("N", .str "1")]).IsTyped := by
  constructor
  · obtain ⟨w, hw⟩ := (ofJson_accepts (.obj [("M", .obj [("b", .obj [("BOOL", .bool false)]),
      ("a", .obj [("NULL", .bool false)]), ("b", .obj [("L", .arr [])])])])).1.mpr
        (.map (List.forall_mem_cons.mpr ⟨.bool false, List.forall_mem_cons.mpr
          ⟨.null false, List.forall_mem_cons.mpr ⟨.list nofun, nofun⟩⟩⟩))
    exact ⟨w, hw, (ofJson_accepts _).2 w hw⟩
  · intro htyped
    obtain ⟨w, hw⟩ := (ofJson_accepts _).1.mpr htyped
    exact absurd hw nofun

end WireValue

end Dynamo
