import Dynamo.Proofs.Except
import Dynamo.Proofs.Json.Normal

/-! # JSON values said again

Somebody who was sent a JSON value and sends it back may list the members of its objects in another
order. `Json.Restates j j'` says that `j` is such a value for `j'`: the two say the same, and no
object within `j` names a member twice. What `j` looks like is then known from `j'`
(`Json.restates_arr`, `Json.restates_obj`). -/

namespace Dynamo

namespace Json

/-- No object within the value names a member twice. -/
def Unrepeated (j : Json) : Prop := ∀ ms, Within (.obj ms) j → (Entries.keys ms).Nodup

/-- Is the value neither an array nor an object? -/
def isScalar : Json → Bool
  | .null | .bool _ | .num _ | .str _ => true
  | _ => false

theorem unrepeated_scalar {j : Json} (h : j.isScalar = true) : j.Unrepeated := by
  rintro ms (_ | _ | _)
  all_goals exact absurd h nofun

theorem legible_of_isScalar {j : Json} (h : j.isScalar = true) : j.legible = true := by
  cases j with
  | arr _ | obj _ | illegible => exact absurd h nofun
  | _ => rfl

theorem unrepeated_bool (b : Bool) : (bool b).Unrepeated := unrepeated_scalar rfl

theorem unrepeated_arr {items : List Json} :
    (arr items).Unrepeated ↔ ∀ j ∈ items, j.Unrepeated := by
  constructor
  · exact fun h j hj ms hms => h ms (.item hj hms)
  · rintro h ms (_ | ⟨hj, hms⟩)
    exact h _ hj ms hms

theorem unrepeated_obj {members : List (String × Json)} :
    (obj members).Unrepeated ↔
      (Entries.keys members).Nodup ∧ ∀ e ∈ members, e.2.Unrepeated := by
  constructor
  · exact fun h => ⟨h members .self, fun e he ms hms => h ms (.member he hms)⟩
  · rintro ⟨hnodup, h⟩ ms (_ | _ | ⟨he, hms⟩)
    · exact hnodup
    · exact h _ he ms hms

/-- **The first value says what the second says**, each name once. -/
def Restates (j j' : Json) : Prop := j.Unrepeated ∧ j.normal = j'.normal

theorem Unrepeated.restates {j : Json} (h : j.Unrepeated) : j.Restates j := ⟨h, rfl⟩

/-- A scalar can be said in one way only. -/
theorem restates_scalar {j s : Json} (hs : s.isScalar = true) (h : j.Restates s) : j = s := by
  have hnormal : s.normal = s := by
    cases s with
    | arr _ | obj _ | illegible => exact absurd hs nofun
    | _ => rfl
  rw [← hnormal, ← h.2]
  have heq := h.2.trans hnormal
  cases j with
  | arr items =>
    rw [normal_arr] at heq
    exact absurd (heq ▸ hs :) nofun
  | obj members =>
    rw [normal_obj] at heq
    exact absurd (heq ▸ hs :) nofun
  | _ => rfl

theorem restates_arr {j : Json} {items : List Json} (h : j.Restates (.arr items)) :
    ∃ items', j = .arr items' ∧ List.Forall₂ Restates items' items := by
  cases j with
  | arr items' =>
    have hnormal : items'.map normal = items.map normal := by
      have h₂ := h.2
      rw [normal_arr, normal_arr] at h₂
      exact Json.arr.inj h₂
    have hrel : List.Forall₂ (fun j j' => j.normal = j'.normal) items' items := by
      rw [← List.forall₂_eq_eq_eq, List.forall₂_map_left_iff, List.forall₂_map_right_iff] at hnormal
      exact hnormal
    exact ⟨items', rfl, ((List.forall₂_and_left items' items).mpr
      ⟨unrepeated_arr.mp h.1, hrel⟩).imp fun _ _ h => h⟩
  | _ => exact absurd h.2 nofun

theorem restates_strings {j : Json} {items : List String}
    (h : j.Restates (.arr (items.map .str))) : j = .arr (items.map .str) := by
  obtain ⟨js, rfl, hrel⟩ := restates_arr h
  have heq : List.Forall₂ (· = ·) js (items.map .str) := by
    rw [List.forall₂_map_right_iff] at hrel ⊢
    exact hrel.imp fun _ _ hj => restates_scalar rfl hj
  exact congrArg Json.arr (List.forall₂_eq_eq_eq ▸ heq :)

/-- **The members of an object said again**: the same names, each once, with the same values. -/
theorem restates_obj {j : Json} {ms : List (String × Json)} (h : j.Restates (.obj ms)) :
    ∃ ms', j = .obj ms' ∧ (Entries.keys ms').Nodup ∧
      ∀ k, Option.Rel Restates (Entries.last? k ms') (Entries.last? k ms) := by
  cases j with
  | obj ms' =>
    obtain ⟨hnodup, hmembers⟩ := unrepeated_obj.mp h.1
    refine ⟨ms', rfl, hnodup, fun k => ?_⟩
    have hlast : (Entries.last? k ms').map normal = (Entries.last? k ms).map normal := by
      have h₂ := h.2
      rw [normal_obj, normal_obj] at h₂
      have hget := congrArg (Entries.get? k) (Json.obj.inj h₂)
      rwa [Entries.get?_ofList, Entries.get?_ofList, Entries.last?_map, Entries.last?_map] at hget
    cases hms' : Entries.last? k ms' with
    | none =>
      rw [hms'] at hlast
      rw [Option.map_eq_none_iff.mp hlast.symm]
      exact .none
    | some j' =>
      rw [hms'] at hlast
      obtain ⟨j, hj, hnormal⟩ := Option.map_eq_some_iff.mp hlast.symm
      rw [hj]
      exact .some ⟨hmembers _ (Entries.mem_of_last? hms'), hnormal.symm⟩
  | _ => exact absurd h.2 nofun

theorem restates_single {j p : Json} {name : String} (h : j.Restates (.obj [(name, p)])) :
    ∃ p', j = .obj [(name, p')] ∧ p'.Restates p := by
  obtain ⟨ms, rfl, hnodup, hlast⟩ := restates_obj h
  have hnames : ∀ e ∈ ms, e.1 = name := by
    intro e he
    have hrel := hlast e.1
    rw [Entries.last?_of_mem hnodup he, Entries.last?_cons, Entries.last?_nil] at hrel
    by_contra hne
    rw [if_neg hne] at hrel
    exact absurd hrel nofun
  have hrel := hlast name
  rw [Entries.last?_cons, if_pos rfl, Entries.last?_nil, Option.none_or] at hrel
  obtain ⟨p', hp', hback⟩ := Except.exists_of_rel_right hrel
  refine ⟨p', ?_, hback⟩
  have hall : ms.filter (fun e => e.1 = name) = ms :=
    List.filter_eq_self.mpr fun e he => by simpa using hnames e he
  rw [← hall, Entries.filter_of_nodup hnodup, hp']
  rfl

end Json

end Dynamo
