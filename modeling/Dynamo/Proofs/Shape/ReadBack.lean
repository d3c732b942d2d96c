import Dynamo.Proofs.Json.Restating
import Dynamo.Proofs.Shape
import Dynamo.Proofs.Wire.Verbatim
import Mathlib.Data.List.Nodup

/-! # Values that are read back

What a shape writes may come back from somebody who lists the members of objects in another order.
`Shape.Carries` says of a value that the shape writes it, and as what it is read off whatever
restates its JSON, and as for writing there is one law for each way of making shapes.

* `Document.CanTravel.carries`: a document is read back without the attributes that hold empty lists and sets.
* `KeysAndAttributes.carries`, `WriteRequest.carries`: so are the entries of batches, with all that
  is asked besides. -/

namespace Dynamo

open Dynamo.Except

/-- **The shape carries `a` over as `b`**: it writes `a`, with no name twice in an object, and reads
`b` off all that restates what it wrote. -/
def Shape.Carries {α : Type} (s : Shape α) (a b : α) : Prop :=
  ∃ j, s.write a = .ok j ∧ j.Unrepeated ∧ ∀ ⦃j' : Json⦄, j'.Restates j → s.read j' = .ok b

namespace Shape

variable {α β : Type} {s : Shape α} {a b : α}

theorem Carries.read (h : s.Carries a b) {j j' : Json} (hwrite : s.write a = .ok j)
    (hj : j'.Restates j) : s.read j' = .ok b := by
  obtain ⟨j, hj', -, hread⟩ := h
  obtain rfl := Except.ok.inj (hj'.symm.trans hwrite)
  exact hread hj

theorem carries_scalar {j : Json} (hwrite : s.write a = .ok j) (hj : j.isScalar = true)
    (hread : s.read j = .ok b) : s.Carries a b := by
  refine ⟨j, hwrite, Json.unrepeated_scalar hj, fun j' hj' => ?_⟩
  rw [Json.restates_scalar hj hj']
  exact hread

theorem carries_string (text : String) : string.Carries text text := carries_scalar rfl rfl rfl

theorem carries_bool (b : Bool) : bool.Carries b b := carries_scalar rfl rfl rfl

theorem carries_nat64 (n : UInt64) : nat64.Carries n n := by
  refine carries_scalar rfl rfl ?_
  have hrange : IntegerRange.nat64.contains (n.toNat : Int) = true := by
    have hlt := n.toNat_lt
    refine Bool.and_eq_true_iff.mpr ⟨decide_eq_true ?_, decide_eq_true ?_⟩
    · exact Int.natCast_nonneg _
    · show (n.toNat : Int) ≤ 0xFFFFFFFFFFFFFFFF
      omega
  show (if IntegerRange.nat64.contains (n.toNat : Int) then _ else _) = _
  rw [if_pos hrange, Int.toNat_natCast, UInt64.ofNat_toNat]

theorem write_string_ne_null (text : String) : string.write text ≠ .ok .null := nofun

theorem write_double {x : Decimal.Double} (h : x.isFinite = true) :
    double.write x = .ok (.num (.float x)) := by
  show Except.ok (if x.isFinite then _ else _) = _
  rw [if_pos h]

theorem carries_double {x : Decimal.Double} (h : x.isFinite = true) : double.Carries x x :=
  carries_scalar (write_double h) rfl rfl

/-- A choice is read back if it is the first with its name. -/
theorem carries_choice {all : List α} {name : α → String}
    (h : all.find? (fun c => name c = name a) = some a) : (choice all name).Carries a a := by
  refine carries_scalar rfl rfl ?_
  unfold choice total
  dsimp only
  rw [h]

/-- What is written as null cannot be told from what is missing. -/
theorem carries_some (h : s.Carries a b) (hnull : s.write a ≠ .ok .null) :
    s.option.Carries (some a) (some b) := by
  obtain ⟨j, hwrite, hunrepeated, hread⟩ := h
  refine ⟨j, hwrite, hunrepeated, fun j' hj => ?_⟩
  have hread := hread hj
  cases j' with
  | null =>
    obtain rfl : j = .null := Json.restates_scalar rfl ⟨hunrepeated, hj.2.symm⟩
    exact absurd hwrite hnull
  | _ => exact map_eq_ok.mpr ⟨b, hread, rfl⟩

theorem carries_option {o o' : Option α} (h : Option.Rel s.Carries o o')
    (hnull : ∀ a ∈ o, s.write a ≠ .ok .null) : s.option.Carries o o' := by
  cases h with
  | none => exact carries_scalar rfl rfl rfl
  | some h => exact carries_some h (hnull _ rfl)

theorem carries_list {items items' : List α} (h : List.Forall₂ s.Carries items items') :
    s.list.Carries items items' := by
  suffices hitems : ∃ js, items.mapM s.write = .ok js ∧ (∀ j ∈ js, j.Unrepeated) ∧
      ∀ ⦃js' : List Json⦄, List.Forall₂ Json.Restates js' js → js'.mapM s.read = .ok items' by
    obtain ⟨js, hwrite, hunrepeated, hread⟩ := hitems
    refine ⟨.arr js, bind_eq_ok.mpr ⟨js, hwrite, rfl⟩, Json.unrepeated_arr.mpr hunrepeated,
      fun j' hj => ?_⟩
    obtain ⟨js', rfl, hrel⟩ := Json.restates_arr hj
    exact hread hrel
  -- item by item: what is written for it, and what restates that
  induction h with
  | nil =>
    refine ⟨[], rfl, nofun, fun js' hrel => ?_⟩
    rw [List.forall₂_nil_right_iff.mp hrel]
    rfl
  | cons hab _ ih =>
    obtain ⟨j, hwrite, hunrepeated, hread⟩ := hab
    obtain ⟨js, hwrites, hunrepeateds, hreads⟩ := ih
    refine ⟨j :: js, mapM_eq_ok.mpr (.cons hwrite (mapM_eq_ok.mp hwrites)),
      List.forall_mem_cons.mpr ⟨hunrepeated, hunrepeateds⟩, fun js' hrel => ?_⟩
    obtain ⟨j', js', hj, hjs, rfl⟩ := List.forall₂_cons_right_iff.mp hrel
    exact mapM_eq_ok.mpr (.cons (hread hj) (mapM_eq_ok.mp (hreads hjs)))

theorem carries_list_map {f : α → α} {items : List α} (h : ∀ a ∈ items, s.Carries a (f a)) :
    s.list.Carries items (items.map f) :=
  carries_list (List.forall₂_map_right_iff.mpr (List.forall₂_same.mpr h))

theorem carries_list_self {items : List α} (h : ∀ a ∈ items, s.Carries a a) :
    s.list.Carries items items := carries_list (List.forall₂_same.mpr h)

theorem write_dict_eq_ok {m : Dict α} {j : Json} :
    s.dict.write m = .ok j ↔
      ∃ ms, List.Forall₂ (fun e f => e.1 = f.1 ∧ s.write e.2 = .ok f.2) m.entries ms ∧
        j = .obj ms := by
  simp only [← mapM_entries_eq_ok]
  refine bind_eq_ok.trans (exists_congr fun ms => and_congr_right fun _ => ?_)
  rw [pure_eq_ok, eq_comm]

/-- What is written under a name is what was there. -/
theorem get?_of_write_dict {m : Dict α} {ms : List (String × Json)}
    (h : s.dict.write m = .ok (.obj ms)) (name : String) :
    Option.Rel (fun a j => s.write a = .ok j) (m.get? name) (Entries.last? name ms) := by
  obtain ⟨ms', hms, hobj⟩ := write_dict_eq_ok.mp h
  obtain rfl := Json.obj.inj hobj
  have hlast := Entries.last?_forall₂ (R := fun a j => s.write a = .ok j) hms name
  rwa [Entries.last?_of_sorted name m.sorted] at hlast

theorem read_dict_eq_ok {ms : List (String × Json)} {m : Dict α} :
    s.dict.read (.obj ms) = .ok m ↔
      ∃ xs, List.Forall₂ (fun e x => e.1 = x.1 ∧ s.read e.2 = .ok x.2) ms xs ∧
        m = Dict.ofList xs := by
  simp only [← mapM_entries_eq_ok]
  refine bind_eq_ok.trans (exists_congr fun xs => and_congr_right fun _ => ?_)
  rw [pure_eq_ok, eq_comm]

/-- Members with names of their own are read as a dictionary, name by name. -/
theorem read_dict_of_last? {ms : List (String × Json)} {m : Dict α}
    (hnodup : (Entries.keys ms).Nodup)
    (h : ∀ k, Option.Rel (fun j a => s.read j = .ok a) (Entries.last? k ms) (m.get? k)) :
    s.dict.read (.obj ms) = .ok m := by
  obtain ⟨xs, hxs⟩ := exists_mapM_eq_ok.mpr fun e (he : e ∈ ms) => by
    obtain ⟨a, -, ha⟩ := exists_of_rel_left (Entries.last?_of_mem hnodup he ▸ h e.1)
    exact ⟨(e.1, a), bind_eq_ok.mpr ⟨a, ha, rfl⟩⟩
  refine read_dict_eq_ok.mpr ⟨xs, mapM_entries_eq_ok.mp hxs, Dict.ext_get? fun k => ?_⟩
  show m.get? k = Entries.get? k (Entries.ofList xs)
  rw [Entries.get?_ofList]
  have hread := Entries.last?_forall₂ (R := fun j a => s.read j = .ok a)
    (mapM_entries_eq_ok.mp hxs) k
  have hm := h k
  cases hk : Entries.last? k ms with
  | none =>
    rw [hk] at hread hm
    rw [eq_none_of_rel_left hm, eq_none_of_rel_left hread]
  | some j =>
    rw [hk] at hread hm
    obtain ⟨x, hx, hjx⟩ := exists_of_rel_left hread
    obtain ⟨a, ha, hja⟩ := exists_of_rel_left hm
    rw [ha, hx, Except.ok.inj (hja.symm.trans hjx)]

theorem exists_entries {xs ys : Entries α}
    (h : List.Forall₂ (fun e f => e.1 = f.1 ∧ s.Carries e.2 f.2) xs ys) :
    ∃ ms : Entries Json, List.Forall₂ (fun e f => e.1 = f.1 ∧ s.write e.2 = .ok f.2) xs ms ∧
      (∀ e ∈ ms, e.2.Unrepeated) ∧
      List.Forall₂ (fun e f => e.1 = f.1 ∧
        ∀ ⦃j' : Json⦄, j'.Restates e.2 → s.read j' = .ok f.2) ms ys := by
  induction h with
  | nil => exact ⟨[], .nil, nofun, .nil⟩
  | @cons e f _ _ hef _ ih =>
    obtain ⟨hname, j, hwrite, hunrepeated, hread⟩ := hef
    obtain ⟨ms, hwrites, hunrepeateds, hreads⟩ := ih
    exact ⟨(e.1, j) :: ms, .cons ⟨rfl, hwrite⟩ hwrites,
      List.forall_mem_cons.mpr ⟨hunrepeated, hunrepeateds⟩, .cons ⟨hname, hread⟩ hreads⟩

theorem carries_dict {m m' : Dict α}
    (h : List.Forall₂ (fun e f => e.1 = f.1 ∧ s.Carries e.2 f.2) m.entries m'.entries) :
    s.dict.Carries m m' := by
  obtain ⟨ms, hwrite, hunrepeated, hread⟩ := exists_entries h
  have hkeys : Entries.keys m.entries = Entries.keys ms :=
    Entries.keys_eq_of_forall₂ (hwrite.imp fun _ _ h => h.1)
  refine ⟨.obj ms, write_dict_eq_ok.mpr ⟨ms, hwrite, rfl⟩,
    Json.unrepeated_obj.mpr ⟨hkeys ▸ Entries.nodup_keys_of_sorted m.sorted, hunrepeated⟩,
    fun j' hj => ?_⟩
  obtain ⟨ms', rfl, hnodup, hlast⟩ := Json.restates_obj hj
  -- name by name: what was written for the entry, and what restates that
  refine read_dict_of_last? hnodup fun k => ?_
  have hback := Entries.last?_forall₂ (R := fun j a => ∀ ⦃j' : Json⦄, j'.Restates j →
    s.read j' = .ok a) hread k
  rw [Entries.last?_of_sorted k m'.sorted] at hback
  have hrel := hlast k
  cases hk : Entries.last? k ms with
  | none =>
    rw [hk] at hrel hback
    rw [eq_none_of_rel_right hrel]
    show Option.Rel _ none (Entries.get? k m'.entries)
    rw [eq_none_of_rel_left hback]
    exact .none
  | some j =>
    rw [hk] at hrel hback
    obtain ⟨j', hj', hrestates⟩ := exists_of_rel_right hrel
    obtain ⟨a, ha, hreads⟩ := exists_of_rel_left hback
    rw [hj']
    show Option.Rel _ (some j') (Entries.get? k m'.entries)
    rw [ha]
    exact .some (hreads hrestates)

theorem carries_dict_self {m : Dict α} (h : ∀ e ∈ m.entries, s.Carries e.2 e.2) :
    s.dict.Carries m m := carries_dict (List.forall₂_same.mpr fun e he => ⟨rfl, h e he⟩)

/-- A value that is written as an object with one member. -/
theorem carries_single {name : String} {p : Json} (hwrite : s.write a = .ok (.obj [(name, p)]))
    (hp : p.Unrepeated)
    (hread : ∀ ⦃p' : Json⦄, p'.Restates p → s.read (.obj [(name, p')]) = .ok b) :
    s.Carries a b := by
  refine ⟨_, hwrite, Json.unrepeated_obj.mpr ⟨List.nodup_singleton name, ?_⟩, fun j' hj => ?_⟩
  · rintro e he
    rwa [List.mem_singleton.mp he]
  · obtain ⟨p', rfl, hp'⟩ := Json.restates_single hj
    exact hread hp'

end Shape

/-! ### Members -/

/-- What is read for a member that is missing in an object. -/
def Absent.value? {α : Type} : Absent α → Option α
  | .required => none
  | .inObject a | .anywhere a => some a

/-- **The member carries `a` over as `b`**: what is left out in writing is what a missing member
stands for. -/
structure Member.Carries {α : Type} (m : Member α) (a b : α) : Prop where
  aliases : m.aliases = []
  absent : m.leftOut a = true → m.absent.value? = some b
  present : m.leftOut a = false → m.shape.Carries a b

namespace Member

variable {α : Type} {name : String} {s : Shape α} {a b : α}

theorem carries_required (h : s.Carries a b) : (required name s).Carries a b :=
  ⟨rfl, nofun, fun _ => h⟩

theorem carries_defaulted {c : α} (h : s.Carries a b) : (defaulted name s c).Carries a b :=
  ⟨rfl, nofun, fun _ => h⟩

theorem carries_nullable {o o' : Option α} (h : Option.Rel s.Carries o o')
    (hnull : ∀ a ∈ o, s.write a ≠ .ok .null) : (nullable name s).Carries o o' :=
  ⟨rfl, nofun, fun _ => Shape.carries_option h hnull⟩

/-- A member that is left out if there is no value, wherever it may be missing. -/
theorem carries_optional {absent : Absent (Option α)} {o o' : Option α}
    (habsent : absent.value? = some none) (h : Option.Rel s.Carries o o')
    (hnull : ∀ a ∈ o, s.write a ≠ .ok .null) :
    { optional name s with absent := absent }.Carries o o' := by
  refine ⟨rfl, fun hleft => ?_, fun _ => Shape.carries_option h hnull⟩
  rw [Option.isNone_iff_eq_none.mp hleft] at h
  rw [eq_none_of_rel_left h]
  exact habsent

theorem carries_list {items items' : List α} (h : List.Forall₂ s.Carries items items') :
    (list name s).Carries items items' := by
  refine ⟨rfl, fun hleft => ?_, fun _ => Shape.carries_list h⟩
  rw [List.isEmpty_iff.mp hleft] at h
  rw [List.forall₂_nil_left_iff.mp h]
  rfl

theorem carries_dict {m m' : Dict α}
    (h : List.Forall₂ (fun e f => e.1 = f.1 ∧ s.Carries e.2 f.2) m.entries m'.entries) :
    (dict name s).Carries m m' := by
  refine ⟨rfl, fun hleft => ?_, fun _ => Shape.carries_dict h⟩
  rw [List.isEmpty_iff.mp hleft] at h
  refine congrArg some (Dict.ext_get? fun k => ?_)
  show Entries.get? k [] = Entries.get? k m'.entries
  rw [List.forall₂_nil_left_iff.mp h]

theorem carries_flag (b : Bool) : (flag name).Carries b b := by
  refine ⟨rfl, fun hleft => ?_, fun _ => Shape.carries_bool b⟩
  rw [(Bool.not_eq_true' b).mp hleft]
  rfl

end Member

/-! ### Records -/

namespace Fields

variable {α β γ : Type}

/-- All members that are written are those of the record. -/
def WritesOwn (r : Fields α) : Prop :=
  ∀ ⦃a : α⦄ ⦃ms : List (String × Json)⦄, r.write a = .ok ms → ∀ e ∈ ms, r.answersTo e.1 = true

/-- **The record carries `a` over as `b`**: it writes `a`, each name once and all of them its own, and
reads `b` off members that restate these, whatever others there are. -/
def Carries (r : Fields α) (a b : α) : Prop :=
  ∃ ms, r.write a = .ok ms ∧ (Entries.keys ms).Nodup ∧ (∀ e ∈ ms, e.2.Unrepeated) ∧
    (∀ e ∈ ms, r.answersTo e.1 = true) ∧
    ∀ ⦃ms' : List (String × Json)⦄, (Entries.keys ms').Nodup →
      (∀ k, r.answersTo k = true →
        Option.Rel Json.Restates (Entries.last? k ms') (Entries.last? k ms)) →
      r.ofMembers ms' = .ok b

theorem writesOwn_one (m : Member α) : (one m).WritesOwn := by
  intro a ms hwrite e he
  unfold one at hwrite
  dsimp only at hwrite
  split_ifs at hwrite
  · obtain rfl := Except.ok.inj hwrite
    exact absurd he List.not_mem_nil
  · obtain ⟨j, -, hms⟩ := bind_eq_ok.mp hwrite
    obtain rfl := pure_eq_ok.mp hms
    rw [List.mem_singleton.mp he]
    simp [one, Member.answersTo]

theorem WritesOwn.and {r : Fields α} {s : Fields β} (hr : r.WritesOwn) (hs : s.WritesOwn) :
    (r.and s).WritesOwn := by
  intro a ms hwrite e he
  obtain ⟨ms₁, h₁, hwrite⟩ := bind_eq_ok.mp hwrite
  obtain ⟨ms₂, h₂, hwrite⟩ := bind_eq_ok.mp hwrite
  obtain rfl := pure_eq_ok.mp hwrite
  show (r.answersTo e.1 || s.answersTo e.1) = true
  rw [Bool.or_eq_true]
  rcases List.mem_append.mp he with he | he
  · exact .inl (hr h₁ e he)
  · exact .inr (hs h₂ e he)

theorem answersTo_one {m : Member α} (halias : m.aliases = []) (k : String) :
    (one m).answersTo k = decide (k = m.name) := by
  show (decide (m.name = k) || m.aliases.contains k) = _
  rw [halias, List.contains_nil, Bool.or_false]
  exact decide_eq_decide.mpr eq_comm

/-- Members that a record does not answer to do not matter. -/
theorem ofMembers_one_filter {m : Member α} {p : String × Json → Bool}
    {ms : List (String × Json)} (h : ∀ e, m.answersTo e.1 = true → p e = true) :
    (one m).ofMembers (ms.filter p) = (one m).ofMembers ms := by
  have hfilter : (ms.filter p).filter (fun e => m.answersTo e.1) =
      ms.filter fun e => m.answersTo e.1 := by
    rw [List.filter_filter]
    refine List.filter_congr fun e _ => ?_
    cases hm : m.answersTo e.1 with
    | true => rw [h e hm]; rfl
    | false => rfl
  unfold one
  dsimp only
  rw [hfilter]

theorem carries_one {m : Member α} {a b : α} (h : m.Carries a b) : (one m).Carries a b := by
  have hfilter : ∀ {ms' : List (String × Json)}, (Entries.keys ms').Nodup →
      ms'.filter (fun e => m.answersTo e.1) =
        (Entries.last? m.name ms').toList.map fun j => (m.name, j) := fun hnodup => by
    rw [← Entries.filter_of_nodup hnodup]
    exact List.filter_congr fun e _ => answersTo_one h.aliases e.1
  have hname : (one m).answersTo m.name = true := by rw [answersTo_one h.aliases]; simp
  cases hleft : m.leftOut a with
  | true =>
    refine ⟨[], by simp [one, hleft], List.nodup_nil, List.forall_mem_nil _,
      List.forall_mem_nil _, fun ms' hnodup hlast => ?_⟩
    have habsent := h.absent hleft
    unfold one
    dsimp only
    rw [hfilter hnodup, eq_none_of_rel_right (hlast m.name hname)]
    cases hm : m.absent with
    | required =>
      rw [hm] at habsent
      exact absurd habsent nofun
    | inObject c | anywhere c =>
      rw [hm] at habsent
      exact congrArg Except.ok (Option.some.inj habsent)
  | false =>
    obtain ⟨j, hwrite, hunrepeated, hread⟩ := h.present hleft
    have hone : (one m).write a = .ok [(m.name, j)] := by
      simp only [one, hleft, Bool.false_eq_true, if_false, hwrite]
      rfl
    refine ⟨[(m.name, j)], hone, List.nodup_singleton _, ?_, writesOwn_one m hone,
      fun ms' hnodup hlast => ?_⟩
    · rintro e he
      rwa [List.mem_singleton.mp he]
    · have hrel := hlast m.name hname
      rw [Entries.last?_cons, if_pos rfl, Entries.last?_nil, Option.none_or] at hrel
      obtain ⟨j', hj', hrestates⟩ := exists_of_rel_right hrel
      unfold one
      dsimp only
      rw [hfilter hnodup, hj']
      exact hread hrestates

/-- Records that share no name read their parts of the members. -/
theorem Carries.and {r : Fields α} {s : Fields β} {a b : α × β} (hr : r.Carries a.1 b.1)
    (hs : s.Carries a.2 b.2) (hdisjoint : ∀ k, r.answersTo k = true → s.answersTo k = false) :
    (r.and s).Carries a b := by
  obtain ⟨ms₁, hwrite₁, hnodup₁, hunrepeated₁, hown₁, hread₁⟩ := hr
  obtain ⟨ms₂, hwrite₂, hnodup₂, hunrepeated₂, hown₂, hread₂⟩ := hs
  have hne : ∀ e ∈ ms₁, ∀ f ∈ ms₂, e.1 ≠ f.1 := by
    intro e he f hf heq
    have hans := hdisjoint e.1 (hown₁ e he)
    rw [heq, hown₂ f hf] at hans
    exact absurd hans nofun
  refine ⟨ms₁ ++ ms₂, bind_eq_ok.mpr ⟨ms₁, hwrite₁, bind_eq_ok.mpr ⟨ms₂, hwrite₂, rfl⟩⟩, ?_,
    List.forall_mem_append.mpr ⟨hunrepeated₁, hunrepeated₂⟩, ?_, fun ms' hnodup hlast => ?_⟩
  · rw [Entries.keys, List.map_append, List.nodup_append]
    refine ⟨hnodup₁, hnodup₂, fun k hk₁ k' hk₂ => ?_⟩
    obtain ⟨e, he, rfl⟩ := List.mem_map.mp hk₁
    obtain ⟨f, hf, rfl⟩ := List.mem_map.mp hk₂
    exact hne e he f hf
  · show ∀ e ∈ ms₁ ++ ms₂, (r.answersTo e.1 || s.answersTo e.1) = true
    refine List.forall_mem_append.mpr ⟨fun e he => ?_, fun e he => ?_⟩
    · rw [hown₁ e he, Bool.true_or]
    · rw [hown₂ e he, Bool.or_true]
  have hfirst : r.ofMembers ms' = .ok b.1 := by
    refine hread₁ hnodup fun k hk => ?_
    have hother : Entries.last? k ms₂ = none := by
      refine Entries.last?_eq_none_of_forall_ne fun e he heq => ?_
      have hans := hown₂ e he
      rw [heq, hdisjoint k hk] at hans
      exact absurd hans nofun
    have hrel := hlast k (by show (r.answersTo k || _) = true; rw [hk, Bool.true_or])
    rwa [Entries.last?_append, hother, Option.none_or] at hrel
  have hsecond : s.ofMembers ms' = .ok b.2 := by
    refine hread₂ hnodup fun k hk => ?_
    have hother : Entries.last? k ms₁ = none := by
      refine Entries.last?_eq_none_of_forall_ne fun e he heq => ?_
      have hans := hdisjoint k (heq ▸ hown₁ e he)
      rw [hk] at hans
      exact absurd hans nofun
    have hrel := hlast k (by show (_ || s.answersTo k) = true; rw [hk, Bool.or_true])
    rwa [Entries.last?_append, hother, Option.or_none] at hrel
  show (do return (← r.ofMembers ms', ← s.ofMembers ms')) = _
  rw [hfirst, hsecond]
  rfl

theorem Carries.cons {m : Member α} {r : Fields β} {a b : α × β} (hm : m.Carries a.1 b.1)
    (hr : r.Carries a.2 b.2) (hname : r.answersTo m.name = false) : (cons m r).Carries a b := by
  refine (carries_one hm).and hr fun k hk => ?_
  rw [answersTo_one hm.aliases, decide_eq_true_eq] at hk
  rw [hk, hname]

theorem Carries.iso {r : Fields α} {parts : β → α} {make : α → β} {c : β} {b : α}
    (h : r.Carries (parts c) b) : (r.iso parts make).Carries c (make b) := by
  obtain ⟨ms, hwrite, hnodup, hunrepeated, hown, hread⟩ := h
  refine ⟨ms, hwrite, hnodup, hunrepeated, hown, fun ms' hnodup' hlast => ?_⟩
  show (r.ofMembers ms').map make = _
  rw [hread hnodup' hlast]
  rfl

theorem Carries.iso_self {r : Fields α} {parts : β → α} {make : α → β} {c : β}
    (h : r.Carries (parts c) (parts c)) (hmake : make (parts c) = c) :
    (r.iso parts make).Carries c c := by
  have hiso : (r.iso parts make).Carries c (make (parts c)) := h.iso
  rwa [hmake] at hiso

end Fields

namespace Shape

variable {α β : Type}

theorem carries_record {r : Fields α} {a b : α} (h : r.Carries a b) : (record r).Carries a b := by
  obtain ⟨ms, hwrite, hnodup, hunrepeated, -, hread⟩ := h
  refine ⟨.obj ms, bind_eq_ok.mpr ⟨ms, hwrite, rfl⟩,
    Json.unrepeated_obj.mpr ⟨hnodup, hunrepeated⟩, fun j' hj => ?_⟩
  obtain ⟨ms', rfl, hnodup', hlast⟩ := Json.restates_obj hj
  exact hread hnodup' fun k _ => hlast k

theorem carries_iso {s : Shape α} {parts : β → α} {make : α → β} {c : β} {b : α}
    (h : s.Carries (parts c) b) : (s.iso parts make).Carries c (make b) := by
  obtain ⟨j, hwrite, hunrepeated, hread⟩ := h
  exact ⟨j, hwrite, hunrepeated, fun j' hj => map_eq_ok.mpr ⟨b, hread hj, rfl⟩⟩

/-- Members of the first record are gathered before they are read, so they have to be scalars. -/
theorem carries_spliced {inner : Fields α} {outer : Fields β} {a b : α × β}
    (hinner : inner.Carries a.1 b.1) (houter : outer.Carries a.2 b.2)
    (hdisjoint : ∀ k, inner.answersTo k = true → outer.answersTo k = false)
    (hscalar : ∀ ms, inner.write a.1 = .ok ms → ∀ e ∈ ms, e.2.isScalar = true) :
    (spliced inner outer).Carries a b := by
  obtain ⟨ms, hwrite, hnodup, hunrepeated, -, hread⟩ := hinner.and houter hdisjoint
  refine ⟨.obj ms, bind_eq_ok.mpr ⟨ms, hwrite, rfl⟩,
    Json.unrepeated_obj.mpr ⟨hnodup, hunrepeated⟩, fun j' hj => ?_⟩
  obtain ⟨ms', rfl, hnodup', hlast⟩ := Json.restates_obj hj
  have hgathered : ms'.all (fun e => outer.answersTo e.1 || e.2.legible) = true := by
    refine List.all_eq_true.mpr fun e he => ?_
    obtain ⟨j, hlast, hrestates⟩ := exists_of_rel_left (Entries.last?_of_mem hnodup' he ▸ hlast e.1)
    obtain ⟨ms₁, hwrite₁, hwrite⟩ := bind_eq_ok.mp hwrite
    obtain ⟨ms₂, hwrite₂, hms⟩ := bind_eq_ok.mp hwrite
    obtain rfl := pure_eq_ok.mp hms
    rcases List.mem_append.mp (Entries.mem_of_last? hlast) with hj | hj
    · have hj := hscalar ms₁ hwrite₁ _ hj
      rw [Json.restates_scalar hj hrestates, Json.legible_of_isScalar hj, Bool.or_true]
    · obtain ⟨ms, hms, -, -, hown, -⟩ := houter
      obtain rfl := Except.ok.inj (hms.symm.trans hwrite₂)
      rw [hown _ hj, Bool.true_or]
  show (if ms'.all (fun e => outer.answersTo e.1 || e.2.legible) = true then _ else _) = _
  rw [if_pos hgathered]
  exact hread hnodup' fun k _ => hlast k

theorem write_record_ne_null {r : Fields α} (a : α) : (record r).write a ≠ .ok .null := by
  intro h
  obtain ⟨ms, -, hobj⟩ := bind_eq_ok.mp h
  exact absurd (pure_eq_ok.mp hobj) nofun

end Shape

/-! ### Documents -/

namespace WireValue

/-- The shape of typed values. -/
def shape : Shape WireValue := .total toJson ofJson

theorem itemsOfJson_eq_mapM (js : List Json) : itemsOfJson js = js.mapM ofJson := by
  induction js with
  | nil => rfl
  | cons j js ih =>
    rw [itemsOfJson, ih, List.mapM_cons]

theorem entriesOfJson_eq_ok {ms : List (String × Json)} {m : Entries WireValue} :
    entriesOfJson ms = .ok m ↔
      List.Forall₂ (fun e f => e.1 = f.1 ∧ shape.read e.2 = .ok f.2) ms m := by
  rw [← mapM_entries_eq_ok]
  suffices heq : entriesOfJson ms = ms.mapM (fun e => do return (e.1, ← shape.read e.2)) by rw [heq]
  induction ms with
  | nil => rfl
  | cons e ms ih =>
    rw [entriesOfJson, ih, List.mapM_cons]
    show (ofJson e.2 >>= _) = _
    show _ = ((ofJson e.2 >>= _) >>= _)
    cases ofJson e.2 <;> rfl

theorem write_list_shape (ws : List WireValue) :
    shape.list.write ws = .ok (.arr (itemsToJson ws)) := by
  refine bind_eq_ok.mpr ⟨itemsToJson ws, ?_, rfl⟩
  rw [mapM_eq_ok, itemsToJson_eq_map, List.forall₂_map_right_iff, List.forall₂_same]
  exact fun w _ => rfl

theorem write_dict_shape {m : Entries WireValue} (hm : Entries.Sorted m) :
    shape.dict.write ⟨m, hm⟩ = .ok (.obj (entriesToJson m)) := by
  refine Shape.write_dict_eq_ok.mpr ⟨_, ?_, rfl⟩
  rw [entriesToJson_eq_map, List.forall₂_map_right_iff, List.forall₂_same]
  exact fun e _ => ⟨rfl, rfl⟩

theorem mapOfJson_of_read {j : Json} {m : Dict WireValue} (h : shape.dict.read j = .ok m) :
    ∃ ms xs, j = .obj ms ∧ entriesOfJson ms = .ok xs ∧ Entries.ofList xs = m.entries := by
  cases j with
  | obj ms =>
    obtain ⟨xs, hxs, rfl⟩ := Shape.read_dict_eq_ok.mp h
    exact ⟨ms, xs, rfl, entriesOfJson_eq_ok.mpr hxs, rfl⟩
  | _ => exact absurd h nofun

theorem carries_leaf {w : WireValue} (hw : w.WellFormed) {name : String} {p : Json}
    (hw' : w.toJson = .obj [(name, p)]) (hp : p.Unrepeated)
    (hleaf : ∀ {p' : Json}, p'.Restates p → p' = p) : shape.Carries w w := by
  refine Shape.carries_single (congrArg Except.ok hw') hp fun p' hp' => ?_
  rw [hleaf hp', ← hw']
  exact ofJson_toJson hw

theorem unrepeated_strings (items : List String) :
    (Json.arr (items.map .str)).Unrepeated := by
  refine Json.unrepeated_arr.mpr fun j hj => ?_
  obtain ⟨s, -, rfl⟩ := List.mem_map.mp hj
  exact Json.unrepeated_scalar rfl

/-- **A well-formed typed value is read back.** -/
theorem carries_shape {w : WireValue} (hw : w.WellFormed) : shape.Carries w w := by
  induction w using ind with
  | list items ih =>
    obtain ⟨p, hwrite, hunrepeated, hread⟩ :=
      Shape.carries_list_self fun w hmem => ih w hmem (hw.item hmem)
    obtain rfl := Except.ok.inj ((write_list_shape items).symm.trans hwrite)
    refine Shape.carries_single rfl hunrepeated fun p' hp => ?_
    have hread := hread hp
    cases p' with
    | arr js =>
      refine (ofJson_single .list _).trans ?_
      rw [ofPayload, itemsOfJson_eq_mapM]
      exact bind_eq_ok.mpr ⟨items, hread, rfl⟩
    | _ => exact absurd hread nofun
  | map m ih =>
    have hentries : shape.dict.Carries ⟨m, hw.sorted⟩ ⟨m, hw.sorted⟩ :=
      Shape.carries_dict_self fun e hmem => ih e hmem (hw.entry hmem)
    obtain ⟨p, hwrite, hunrepeated, hread⟩ := hentries
    obtain rfl := Except.ok.inj ((write_dict_shape hw.sorted).symm.trans hwrite)
    refine Shape.carries_single rfl hunrepeated fun p' hp => ?_
    obtain ⟨ms, xs, rfl, hxs, hm⟩ := mapOfJson_of_read (hread hp)
    refine (ofJson_single .map _).trans ?_
    rw [ofPayload, hxs]
    exact congrArg (fun m => Except.ok (WireValue.map m)) hm
  | stringSet items | numberSet items =>
    exact carries_leaf hw rfl (unrepeated_strings items) Json.restates_strings
  | binarySet items =>
    have hmap : items.map (fun b => Json.str (Base64.encode b)) =
        (items.map Base64.encode).map .str := by
      rw [List.map_map]
      rfl
    have hjson : (binarySet items).toJson =
        .obj [(WireTag.binarySet.name, .arr ((items.map Base64.encode).map .str))] := by
      rw [toJson, hmap]
    exact carries_leaf hw hjson (unrepeated_strings _) Json.restates_strings
  | string _ | number _ | binary _ | bool _ | null =>
    exact carries_leaf hw rfl (Json.unrepeated_scalar rfl) (Json.restates_scalar rfl)

end WireValue

namespace Document

/-- The document without the attributes that hold empty lists and sets, at every level. -/
def prune (m : Document) : Document := Value.pruneEntries m

/-- The parts of the document are in order, and it has a wire form. -/
def CanTravel (m : Document) : Prop := (Value.document m).WellFormed ∧ m.HasWireForm

/-- **A document that can travel is read back**, without the attributes that hold empty lists and
sets. -/
theorem CanTravel.carries {m : Document} (h : m.CanTravel) : Shape.document.Carries m m.prune := by
  obtain ⟨hm, ws, hws⟩ := h
  have hwire : (Value.document m).toWire = .ok (.map ws) :=
    Value.toWire_document.mpr ⟨ws, hws, rfl⟩
  have hwell : (WireValue.map ws).WellFormed := Value.wellFormed_of_toWire hm hwire
  have hback : Value.entriesOfWire ws = .ok m.prune := by
    have hround := Value.ofWire_of_toWire hwire
    rw [Value.prune, Value.ofWire] at hround
    obtain ⟨m', hm', heq⟩ := map_eq_ok.mp hround
    rw [hm', Value.document.inj heq, prune]
  have hentries : WireValue.shape.dict.Carries ⟨ws, hwell.sorted⟩ ⟨ws, hwell.sorted⟩ :=
    Shape.carries_dict_self fun e he => WireValue.carries_shape (hwell.entry he)
  obtain ⟨j, hwrite, hunrepeated, hread⟩ := hentries
  obtain rfl := Except.ok.inj ((WireValue.write_dict_shape hwell.sorted).symm.trans hwrite)
  refine ⟨_, map_eq_ok.mpr ⟨ws, hws, rfl⟩, hunrepeated, fun j' hj => ?_⟩
  obtain ⟨ms, xs, rfl, hxs, hlist⟩ := WireValue.mapOfJson_of_read (hread hj)
  have hmap : WireValue.mapOfJson (.obj ms) = .ok ws :=
    bind_eq_ok.mpr ⟨xs, hxs, congrArg Except.ok hlist⟩
  show Document.ofTypedJson (.obj ms) = .ok m.prune
  refine bind_eq_ok.mpr ⟨ws, hmap, ?_⟩
  rw [Document.ofWire, hback]
  rfl

theorem write_ne_null (m : Document) : Shape.document.write m ≠ .ok .null := by
  intro h
  obtain ⟨ws, -, hobj⟩ := map_eq_ok.mp h
  exact absurd hobj nofun

/-- A document that can be sent and read back: its parts are in order, and none is an empty list or
set. -/
def Sound (m : Document) : Prop :=
  (Value.document m).WellFormed ∧ (Value.document m).Filled

theorem Sound.hasWireForm {m : Document} (h : m.Sound) : m.HasWireForm :=
  Document.hasWireForm_iff.mpr h.2.noEmptyItem

theorem Sound.canTravel {m : Document} (h : m.Sound) : m.CanTravel := ⟨h.1, h.hasWireForm⟩

theorem prune_of_filled {m : Document} (h : (Value.document m).Filled) : m.prune = m :=
  Value.document.inj (Value.prune_of_filled h)

theorem map_prune_of_filled {ms : List Document} (h : ∀ m ∈ ms, (Value.document m).Filled) :
    ms.map prune = ms := by
  rw [List.map_congr_left fun m hm => prune_of_filled (h m hm), List.map_id']

theorem option_map_prune_of_filled {o : Option Document}
    (h : ∀ m ∈ o.toList, (Value.document m).Filled) : o.map prune = o := by
  cases o with
  | none => rfl
  | some m => exact congrArg some (prune_of_filled (h m List.mem_cons_self))

end Document

/-! ### Entries of batches -/

namespace KeysAndAttributes

/-- The keys without the attributes that hold empty lists and sets. -/
def prune (k : KeysAndAttributes) : KeysAndAttributes := { k with keys := k.keys.map Document.prune }

theorem prune_of_filled {k : KeysAndAttributes} (h : ∀ m ∈ k.keys, (Value.document m).Filled) :
    k.prune = k := by
  rw [prune, Document.map_prune_of_filled h]

/-- **Keys to read are read back**, with all that is asked of the items. -/
theorem carries {k : KeysAndAttributes} (h : ∀ m ∈ k.keys, m.CanTravel) :
    shape.Carries k k.prune := by
  have hkeys : Shape.document.list.Carries k.keys (k.keys.map Document.prune) :=
    Shape.carries_list_map fun m hm => (h m hm).carries
  refine Shape.carries_record (Fields.Carries.iso
    (b := (k.prune.keys, k.projectionExpression, k.expressionAttributeNames, k.consistentRead)) ?_)
  refine .cons (Member.carries_required hkeys) ?_ (by decide)
  refine .cons (Member.carries_optional rfl (rel_same fun text _ => Shape.carries_string text)
    fun text _ => Shape.write_string_ne_null text) ?_ (by decide)
  refine .cons (Member.carries_dict (List.forall₂_same.mpr fun e _ => ⟨rfl, Shape.carries_string e.2⟩))
    ?_ (by decide)
  exact Fields.carries_one (Member.carries_flag k.consistentRead)

theorem carries_of_sound {k : KeysAndAttributes} (h : ∀ m ∈ k.keys, m.Sound) :
    shape.Carries k k := by
  have hcarries := carries fun m hm => (h m hm).canTravel
  rwa [prune_of_filled fun m hm => (h m hm).2] at hcarries

/-- The keys are always written. -/
theorem exists_keys {p : KeysAndAttributes} {j : Json}
    (h : shape.write p = .ok j) :
    ∃ ms keys, j = .obj ms ∧ Entries.last? "Keys" ms = some (.arr keys) ∧
      keys.length = p.keys.length := by
  obtain ⟨ms, hms, hobj⟩ := bind_eq_ok.mp h
  obtain rfl := pure_eq_ok.mp hobj
  obtain ⟨first, hfirst, hms⟩ := bind_eq_ok.mp hms
  obtain ⟨others, hothers, hms⟩ := bind_eq_ok.mp hms
  obtain rfl := pure_eq_ok.mp hms
  obtain ⟨arr, harr, hfirst⟩ := bind_eq_ok.mp hfirst
  obtain rfl := pure_eq_ok.mp hfirst
  obtain ⟨keys, hkeys, harr⟩ := bind_eq_ok.mp harr
  obtain rfl := pure_eq_ok.mp harr
  have hnone : Entries.last? "Keys" others = none := by
    refine Entries.last?_eq_none_of_forall_ne fun e he heq => ?_
    have hown := ((Fields.writesOwn_one _).and ((Fields.writesOwn_one _).and
      (Fields.writesOwn_one _))) hothers e he
    rw [heq] at hown
    exact absurd hown (by decide)
  refine ⟨_, keys, rfl, ?_, (mapM_eq_ok.mp hkeys).length_eq.symm⟩
  rw [Entries.last?_append, hnone, Option.none_or]
  rfl

end KeysAndAttributes

namespace WriteRequest

/-- The write without the attributes that hold empty lists and sets. -/
def prune : WriteRequest → WriteRequest
  | .put item => .put item.prune
  | .delete key => .delete key.prune

theorem prune_of_filled {w : WriteRequest} (h : (Value.document w.document).Filled) :
    w.prune = w := by
  cases w with
  | put item => exact congrArg put (Document.prune_of_filled h)
  | delete key => exact congrArg delete (Document.prune_of_filled h)

/-- **A write is read back.** -/
theorem carries {w : WriteRequest} (h : w.document.CanTravel) : shape.Carries w w.prune := by
  have hpart : ∀ name, (Shape.record (.one (.required name .document))).Carries w.document
      w.document.prune := fun name =>
    Shape.carries_record (Fields.carries_one (Member.carries_required h.carries))
  cases w with
  | put item =>
    obtain ⟨p, hwrite, hunrepeated, hread⟩ := hpart "Item"
    refine Shape.carries_single (bind_eq_ok.mpr ⟨p, hwrite, rfl⟩) hunrepeated fun p' hp => ?_
    exact map_eq_ok.mpr ⟨item.prune, hread hp, rfl⟩
  | delete key =>
    obtain ⟨p, hwrite, hunrepeated, hread⟩ := hpart "Key"
    refine Shape.carries_single (bind_eq_ok.mpr ⟨p, hwrite, rfl⟩) hunrepeated fun p' hp => ?_
    exact map_eq_ok.mpr ⟨key.prune, hread hp, rfl⟩

theorem carries_of_sound {w : WriteRequest} (h : w.document.Sound) : shape.Carries w w := by
  have hcarries := carries h.canTravel
  rwa [prune_of_filled h.2] at hcarries

end WriteRequest

end Dynamo
