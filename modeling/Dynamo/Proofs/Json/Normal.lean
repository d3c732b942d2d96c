import Dynamo.Json
import Dynamo.Proofs.Dict

/-! # JSON values up to the order of members

The members of an object have names and no places, and of several with one name the last counts. Two
JSON values say the same if they have one normal form.

* `Json.normal`: the normal form.
* `Json.normal_setMember`: a member may be set at any place. -/

namespace Dynamo.Json

mutual

/-- **The value with the members of all objects in ascending order**, of each name only the last. -/
def normal : Json → Json
  | .null => .null
  | .bool b => .bool b
  | .num n => .num n
  | .str s => .str s
  | .arr items => .arr (normalItems items)
  | .obj members => .obj (Entries.ofList (normalMembers members))
  | .illegible => .illegible

/-- The same for all items of an array. -/
def normalItems : List Json → List Json
  | [] => []
  | j :: js => j.normal :: normalItems js

/-- The same for the values of all members of an object. -/
def normalMembers : List (String × Json) → List (String × Json)
  | [] => []
  | (name, j) :: ms => (name, j.normal) :: normalMembers ms

end

theorem normalItems_eq_map (js : List Json) : normalItems js = js.map normal := by
  induction js with
  | nil => rfl
  | cons j js ih => rw [normalItems, ih, List.map_cons]

theorem normalMembers_eq_map (ms : List (String × Json)) :
    normalMembers ms = ms.map fun e => (e.1, e.2.normal) := by
  induction ms with
  | nil => rfl
  | cons e ms ih => rw [normalMembers, ih, List.map_cons]

theorem normal_arr (js : List Json) : (arr js).normal = .arr (js.map normal) := by
  rw [normal, normalItems_eq_map]

theorem normal_obj (ms : List (String × Json)) :
    (obj ms).normal = .obj (Entries.ofList (ms.map fun e => (e.1, e.2.normal))) := by
  rw [normal, normalMembers_eq_map]

theorem normal_single {name : String} {j j' : Json} (h : j.normal = j'.normal) :
    (obj [(name, j)]).normal = (obj [(name, j')]).normal := by
  rw [normal_obj, normal_obj, List.map_singleton, List.map_singleton, h]

/-- Objects whose members have the same last values say the same. -/
theorem normal_obj_congr {ms ms' : List (String × Json)}
    (h : ∀ k, (Entries.last? k ms).map normal = (Entries.last? k ms').map normal) :
    (obj ms).normal = (obj ms').normal := by
  rw [normal_obj, normal_obj]
  congr 1
  refine Entries.ext_get? (Entries.sorted_ofList _) (Entries.sorted_ofList _) fun k => ?_
  rw [Entries.get?_ofList, Entries.get?_ofList, Entries.last?_map, Entries.last?_map, h k]

/-- **The object with a member set**, instead of those with the same name. -/
def setMember : Json → String → Json → Json
  | .obj members, name, j => .obj (members.filter (fun e => e.1 ≠ name) ++ [(name, j)])
  | other, _, _ => other

/-- A member says the same wherever it stands. -/
theorem normal_setMember {name : String} {j j' : Json} {before old after : List (String × Json)}
    (hbefore : ∀ e ∈ before, e.1 ≠ name) (hold : ∀ e ∈ old, e.1 = name)
    (hafter : ∀ e ∈ after, e.1 ≠ name) (hj : j.normal = j'.normal) :
    (obj (before ++ [(name, j)] ++ after)).normal =
      ((obj (before ++ old ++ after)).setMember name j').normal := by
  have hfilter : (before ++ old ++ after).filter (fun e => e.1 ≠ name) = before ++ after := by
    have hold' : old.filter (fun e => e.1 ≠ name) = [] :=
      List.filter_eq_nil_iff.mpr fun e he => by simpa using hold e he
    rw [List.filter_append, List.filter_append, hold', List.append_nil,
      List.filter_eq_self.mpr fun e he => by simpa using hbefore e he,
      List.filter_eq_self.mpr fun e he => by simpa using hafter e he]
  rw [setMember, hfilter]
  refine normal_obj_congr fun k => ?_
  rw [Entries.last?_append, Entries.last?_append, Entries.last?_append, Entries.last?_append,
    Entries.last?_cons, Entries.last?_cons, Entries.last?_nil, Option.none_or, Option.none_or]
  by_cases hk : k = name
  · subst hk
    rw [if_pos rfl, if_pos rfl, Entries.last?_eq_none_of_forall_ne hafter, Option.none_or,
      Option.some_or, Option.some_or]
    exact congrArg some hj
  · rw [if_neg hk, if_neg hk, Option.none_or, Option.none_or]

/-! ### Parts -/

/-- **Induction over the parts of a JSON value.** -/
@[elab_as_elim]
theorem ind {P : Json → Prop} (null : P .null) (bool : ∀ b, P (.bool b)) (num : ∀ k, P (.num k))
    (str : ∀ s, P (.str s)) (arr : ∀ items, (∀ j ∈ items, P j) → P (.arr items))
    (obj : ∀ members, (∀ e ∈ members, P e.2) → P (.obj members)) (illegible : P .illegible) :
    ∀ j, P j
  | .arr items => arr items fun j _ => ind null bool num str arr obj illegible j
  | .obj members => obj members fun e _ => ind null bool num str arr obj illegible e.2
  | .null => null
  | .bool b => bool b
  | .num k => num k
  | .str s => str s
  | .illegible => illegible
termination_by j => sizeOf j
decreasing_by
  · have := List.sizeOf_lt_of_mem ‹j ∈ items›
    simp only [Json.arr.sizeOf_spec]
    omega
  · have := List.sizeOf_lt_of_mem ‹e ∈ members›
    have : sizeOf e.2 < sizeOf e := by
      cases e
      simp only [Prod.mk.sizeOf_spec]
      omega
    simp only [Json.obj.sizeOf_spec]
    omega

/-- **The JSON value `u` occurs within a JSON value.** -/
inductive Within (u : Json) : Json → Prop
  | self : Within u u
  | item {j : Json} {items : List Json} : j ∈ items → Within u j → Within u (.arr items)
  | member {name : String} {j : Json} {members : List (String × Json)} :
    (name, j) ∈ members → Within u j → Within u (.obj members)

end Dynamo.Json
