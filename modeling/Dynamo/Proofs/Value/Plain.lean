import Dynamo.Proofs.Decimal.Printed
import Dynamo.Proofs.Json.Restating
import Dynamo.Proofs.Value.Numbers
import Dynamo.Proofs.Wire.Codec
import Dynamo.Value.Plain

/-! # Plain JSON as values

Plain JSON is converted with nothing lost but what JSON itself does not tell apart: the order of the
members of an object, and numbers that are written with one text. The value of a JSON value is the one
that mirrors it (`Value.Mirrors`), so what is said of the value is known from the JSON value, part by
part.

* `Json.WellFormed`: the trees that stand for JSON values.
* `Value.mirrors_of_ofJson`, `Value.exists_ofJson`: what is converted is mirrored, and all JSON values
  are converted.
* `Value.Mirrors.alike`, `Value.Mirrors.eq`: mirrors are equal if and only if the JSON values are
  alike.
* `Value.Mirrors.noEmptyItem_iff`: of mirrors, only those cannot travel that hold an empty list where
  the JSON value has an empty array in an array.
* `Value.ofJson_plain`: all of this of one conversion. -/

namespace Dynamo

open Dynamo.Except

/-! ### JSON values -/

namespace Json

/-- **The tree stands for a JSON value**: nothing in it is illegible, its numbers are finite, and no
object names a member twice. -/
structure WellFormed (j : Json) : Prop where
  legible : ¬ Within .illegible j
  finite : ∀ k, Within (.num k) j → k.IsFinite
  unrepeated : j.Unrepeated

theorem wellFormed_scalar {j : Json} (h : j.isScalar = true)
    (hfinite : ∀ k, j = .num k → k.IsFinite) : j.WellFormed := by
  refine ⟨?_, ?_, unrepeated_scalar h⟩
  · rintro (_ | _ | _)
    all_goals exact absurd h Bool.false_ne_true
  · rintro k (_ | _ | _)
    · exact hfinite k rfl
    · exact absurd h Bool.false_ne_true
    · exact absurd h Bool.false_ne_true

theorem wellFormed_arr {items : List Json} :
    (arr items).WellFormed ↔ ∀ j ∈ items, j.WellFormed := by
  constructor
  · exact fun h j hj => ⟨fun hw => h.legible (.item hj hw), fun k hw => h.finite k (.item hj hw),
      unrepeated_arr.mp h.unrepeated j hj⟩
  · refine fun h => ⟨?_, ?_, unrepeated_arr.mpr fun j hj => (h j hj).unrepeated⟩
    · rintro (_ | ⟨hj, hw⟩)
      exact (h _ hj).legible hw
    · rintro k (_ | ⟨hj, hw⟩)
      exact (h _ hj).finite k hw

theorem wellFormed_obj {members : List (String × Json)} :
    (obj members).WellFormed ↔
      (Entries.keys members).Nodup ∧ ∀ e ∈ members, e.2.WellFormed := by
  constructor
  · intro h
    obtain ⟨hnodup, hmembers⟩ := unrepeated_obj.mp h.unrepeated
    exact ⟨hnodup, fun e he => ⟨fun hw => h.legible (.member he hw),
      fun k hw => h.finite k (.member he hw), hmembers e he⟩⟩
  · rintro ⟨hnodup, h⟩
    refine ⟨?_, ?_, unrepeated_obj.mpr ⟨hnodup, fun e he => (h e he).unrepeated⟩⟩
    · rintro (_ | _ | ⟨he, hw⟩)
      exact (h _ he).legible hw
    · rintro k (_ | _ | ⟨he, hw⟩)
      exact (h _ he).finite k hw

/-- **The values are equal up to numbers that are written alike**, and up to the order of members. -/
inductive Alike : Json → Json → Prop
  | null : Alike .null .null
  | bool (b : Bool) : Alike (.bool b) (.bool b)
  | num {k k' : JsonNumber} (h : k.text = k'.text) : Alike (.num k) (.num k')
  | str (s : String) : Alike (.str s) (.str s)
  | arr {js js' : List Json} (h : List.Forall₂ Alike js js') : Alike (.arr js) (.arr js')
  | obj {ms ms' : List (String × Json)}
    (h : ∀ name, Option.Rel Alike (Entries.last? name ms) (Entries.last? name ms')) :
    Alike (.obj ms) (.obj ms')

/-- No array within the value has an empty array as an item. -/
def NoEmptyItem (j : Json) : Prop := ∀ items, Within (.arr items) j → .arr [] ∉ items

theorem noEmptyItem_arr {items : List Json} :
    (arr items).NoEmptyItem ↔ ∀ j ∈ items, j ≠ .arr [] ∧ j.NoEmptyItem := by
  constructor
  · intro h j hj
    exact ⟨fun heq => h items .self (heq ▸ hj), fun js hjs => h js (.item hj hjs)⟩
  · rintro h js (_ | ⟨hj, hjs⟩)
    · exact fun hmem => (h _ hmem).1 rfl
    · exact (h _ hj).2 js hjs

theorem noEmptyItem_obj {members : List (String × Json)} :
    (obj members).NoEmptyItem ↔ ∀ e ∈ members, e.2.NoEmptyItem := by
  constructor
  · exact fun h e he js hjs => h js (.member he hjs)
  · rintro h js (_ | _ | ⟨he, hjs⟩)
    exact h _ he js hjs

end Json

/-! ### Mirrors -/

/-- A number is its text. -/
theorem Number.eq_of_text {n n' : Number} (h : n.text = n'.text) : n = n' :=
  Except.ok.inj ((ofString?_eq_ok.mpr h.symm).symm.trans (ofString?_eq_ok.mpr rfl))

namespace Value

/-- **The value mirrors the JSON value**: lists arrays, item by item, and documents objects, name by
name; numbers have the text that JSON writes them with. -/
inductive Mirrors : Json → Value → Prop
  | null : Mirrors .null .null
  | bool (b : Bool) : Mirrors (.bool b) (.bool b)
  | number {k : JsonNumber} {n : Number} (h : n.text = k.text) : Mirrors (.num k) (.number n)
  | string (s : String) : Mirrors (.str s) (.string s)
  | list {js : List Json} {vs : List Value} (h : List.Forall₂ Mirrors js vs) :
    Mirrors (.arr js) (.list vs)
  | document {ms : List (String × Json)} {m : Document} (hm : Entries.Sorted m)
    (h : ∀ name, Option.Rel Mirrors (Entries.last? name ms) (Entries.get? name m)) :
    Mirrors (.obj ms) (.document m)

/-! ### Conversion -/

/-- **What is converted is mirrored.** -/
theorem mirrors_of_ofJson {j : Json} {v : Value} (h : ofJson j = .ok v) : Mirrors j v := by
  induction j using Json.ind generalizing v with
  | null =>
    obtain rfl := Except.ok.inj h
    exact .null
  | bool b =>
    obtain rfl := Except.ok.inj h
    exact .bool b
  | str s =>
    obtain rfl := Except.ok.inj h
    exact .string s
  | num k =>
    obtain ⟨n, hn, rfl⟩ := map_eq_ok.mp (mapError_eq_ok.mp h)
    exact .number (Number.ofString?_eq_ok.mp hn).symm
  | arr js ih =>
    obtain ⟨vs, hvs, rfl⟩ := ofJson_arr.mp h
    exact .list (forall₂_imp_of_mem (fun j hj v => ih j hj) hvs)
  | obj ms ih =>
    obtain ⟨m, hm, rfl⟩ := ofJson_obj.mp h
    refine .document (Entries.sorted_ofList m) fun name => ?_
    rw [Entries.get?_ofList]
    exact Entries.last?_forall₂
      (forall₂_imp_of_mem (fun e he f hef => ⟨hef.1, ih e he hef.2⟩) hm) name
  | illegible => cases h

/-- **Every JSON value is converted.** -/
theorem exists_ofJson {j : Json} (hj : j.WellFormed) : ∃ v, ofJson j = .ok v := by
  induction j using Json.ind with
  | null => exact ⟨_, rfl⟩
  | bool b => exact ⟨_, rfl⟩
  | str s => exact ⟨_, rfl⟩
  | num k =>
    obtain ⟨n, hn, -⟩ := ofJson_num (JsonNumber.isText_chars (hj.finite k .self))
    exact ⟨_, hn⟩
  | arr js ih =>
    obtain ⟨vs, hvs⟩ := exists_mapM_eq_ok.mpr fun j hmem => ih j hmem (Json.wellFormed_arr.mp hj j hmem)
    exact ⟨_, ofJson_arr.mpr ⟨vs, mapM_eq_ok.mp hvs, rfl⟩⟩
  | obj ms ih =>
    have hall : ∀ e ∈ ms, ∃ f, (do return (e.1, ← ofJson e.2)) = Except.ok f := by
      intro e he
      obtain ⟨v, hv⟩ := ih e he ((Json.wellFormed_obj.mp hj).2 e he)
      exact ⟨(e.1, v), by rw [hv]; rfl⟩
    obtain ⟨m, hm⟩ := exists_mapM_eq_ok.mpr hall
    exact ⟨_, ofJson_obj.mpr ⟨m, mapM_entries_eq_ok.mp hm, rfl⟩⟩
  | illegible => exact absurd .self hj.legible

/-! ### One mirror -/

/-- JSON values with one mirror are alike. -/
theorem Mirrors.alike {j j' : Json} {v : Value} (h : Mirrors j v) (h' : Mirrors j' v) :
    Json.Alike j j' := by
  induction j using Json.ind generalizing j' v with
  | null =>
    cases h
    cases h'
    exact .null
  | bool b =>
    cases h
    cases h'
    exact .bool b
  | str s =>
    cases h
    cases h'
    exact .str s
  | num k =>
    cases h with
    | number hn =>
      cases h' with
      | number hn' => exact .num (hn.symm.trans hn')
  | arr js ih =>
    cases h with
    | list hjs =>
      cases h' with
      | list hjs' =>
        refine .arr (forall₂_imp_of_mem (fun j hj j' => ?_) (forall₂_comp hjs hjs'.flip))
        rintro ⟨v, hv, hv'⟩
        exact ih j hj hv hv'
  | obj ms ih =>
    cases h with
    | document hm hms =>
      cases h' with
      | document hm' hms' =>
        refine .obj fun name => ?_
        refine rel_imp_of_mem (fun j hj j' => ?_) (rel_comp (hms name) (rel_flip (hms' name)))
        rintro ⟨v, hv, hv'⟩
        exact ih (name, j) (Entries.mem_of_last? hj) hv hv'
  | illegible => cases h

/-- Mirrors of JSON values that are alike are equal. -/
theorem Mirrors.eq {j j' : Json} {v v' : Value} (h : Mirrors j v) (h' : Mirrors j' v')
    (halike : Json.Alike j j') : v = v' := by
  induction v using ind generalizing j j' v' with
  | null =>
    cases h
    cases halike
    cases h'
    rfl
  | bool b =>
    cases h
    cases halike
    cases h'
    rfl
  | string s =>
    cases h
    cases halike
    cases h'
    rfl
  | number n =>
    cases h with
    | number hn =>
      cases halike with
      | num htext =>
        cases h' with
        | number hn' =>
          have htext : n.text = _ := hn.trans (htext.trans hn'.symm)
          exact congrArg Value.number (Number.eq_of_text htext)
  | list vs ih =>
    cases h with
    | list hjs =>
      cases halike with
      | arr hitems =>
        cases h' with
        | list hjs' =>
          have hcomp := forall₂_comp (forall₂_comp hjs.flip hitems) hjs'
          have heq : List.Forall₂ (· = ·) vs _ := forall₂_imp_of_mem (fun v hv v' => by
            rintro ⟨j', ⟨j, hj, hjj'⟩, hj'⟩
            exact ih v hv hj hj' hjj') hcomp
          exact congrArg Value.list (List.forall₂_eq_eq_eq ▸ heq :)
  | document m ih =>
    cases h with
    | document hm hms =>
      cases halike with
      | obj hmembers =>
        cases h' with
        | document hm' hms' =>
          refine congrArg Value.document (Entries.ext_get? hm hm' fun name => ?_)
          have hcomp := rel_comp (rel_comp (rel_flip (hms name)) (hmembers name)) (hms' name)
          have heq : Option.Rel (· = ·) (Entries.get? name m) _ := rel_imp_of_mem (fun v hv v' => by
            rintro ⟨j', ⟨j, hj, hjj'⟩, hj'⟩
            exact ih (name, v) (Entries.mem_of_get? hv) hj hj' hjj') hcomp
          exact eq_of_rel heq
  | binary bytes | stringSet items | numberSet items | binarySet items => cases h

/-- Every part of a mirror is a mirror. -/
theorem Mirrors.part {j : Json} {u v : Value} (h : Mirrors j v) (hu : Within u v) :
    ∃ j', Mirrors j' u := by
  induction hu generalizing j with
  | self => exact ⟨j, h⟩
  | item hmem _ ih =>
    cases h with
    | list hjs =>
      obtain ⟨j', -, hj'⟩ := exists_of_forall₂_right hjs hmem
      exact ih hj'
  | @entry name v m hmem _ ih =>
    cases h with
    | document hm hms =>
      have hrel := hms name
      rw [Entries.get?_of_mem_of_sorted hm hmem] at hrel
      obtain ⟨j', -, hj'⟩ := exists_of_rel_right hrel
      exact ih hj'

/-- A mirror is no set and no binary value. -/
theorem Mirrors.kind {j : Json} {v : Value} (h : Mirrors j v) :
    v.kind ∉ [.binary, .stringSet, .numberSet, .binarySet] := by
  cases h with
  | null | bool b | number hn | string s | list hjs | document hm hms => simp [Value.kind]

/-! ### What cannot travel -/

theorem Mirrors.isEmptyCollection_iff {j : Json} {v : Value} (h : Mirrors j v) :
    v.isEmptyCollection = true ↔ j = .arr [] := by
  cases h with
  | @list js vs hjs =>
    rw [isEmptyCollection, List.isEmpty_iff, Json.arr.injEq]
    constructor
    · rintro rfl
      exact List.forall₂_nil_right_iff.mp hjs
    · rintro rfl
      exact List.forall₂_nil_left_iff.mp hjs
  | null | bool b | number hn | string s | document hm hms =>
    exact iff_of_false Bool.false_ne_true (by rintro ⟨⟩)

/-- **Lists within the mirror have empty items where arrays have.** -/
theorem Mirrors.noEmptyItem_iff {j : Json} {v : Value} (hj : j.Unrepeated) (h : Mirrors j v) :
    v.NoEmptyItem ↔ j.NoEmptyItem := by
  induction j using Json.ind generalizing v with
  | arr js ih =>
    cases h with
    | @list _ vs hjs =>
      have hitem : ∀ j ∈ js, ∀ v, Mirrors j v →
          ((v.isEmptyCollection = false ∧ v.NoEmptyItem) ↔ (j ≠ .arr [] ∧ j.NoEmptyItem)) := by
        intro j hmem v hv
        rw [ih j hmem (Json.unrepeated_arr.mp hj j hmem) hv, ← Bool.not_eq_true,
          hv.isEmptyCollection_iff]
      rw [noEmptyItem_list, Json.noEmptyItem_arr]
      constructor
      · intro h j hmem
        obtain ⟨v, hv, hjv⟩ := exists_of_forall₂_right hjs.flip hmem
        exact (hitem j hmem v hjv).mp (h v hv)
      · intro h v hv
        obtain ⟨j, hmem, hjv⟩ := exists_of_forall₂_right hjs hv
        exact (hitem j hmem v hjv).mpr (h j hmem)
  | obj ms ih =>
    cases h with
    | @document _ m hm hms =>
      obtain ⟨hnodup, hmembers⟩ := Json.unrepeated_obj.mp hj
      rw [noEmptyItem_document, Json.noEmptyItem_obj]
      constructor
      · intro h e he
        have hrel := hms e.1
        rw [Entries.last?_of_mem hnodup he] at hrel
        obtain ⟨v, hget, hv⟩ := exists_of_rel_left hrel
        exact (ih e he (hmembers e he) hv).mp (h _ (Entries.mem_of_get? hget))
      · intro h e he
        have hrel := hms e.1
        rw [Entries.get?_of_mem_of_sorted hm he] at hrel
        obtain ⟨j, hlast, hj⟩ := exists_of_rel_right hrel
        have hmem := Entries.mem_of_last? hlast
        exact (ih _ hmem (hmembers _ hmem) hj).mpr (h _ hmem)
  | illegible => cases h
  | null | bool b | num k | str s =>
    cases h
    exact iff_of_true (by rintro items ⟨⟩) (by rintro items ⟨⟩)

/-! ### Documents -/

/-- Only objects become documents. -/
theorem Mirrors.exists_document_iff {j : Json} {v : Value} (h : Mirrors j v) :
    (∃ m, v = .document m) ↔ ∃ ms, j = .obj ms := by
  cases h with
  | document hm hms => exact iff_of_true ⟨_, rfl⟩ ⟨_, rfl⟩
  | null | bool b | number hn | string s | list hjs =>
    exact iff_of_false (by rintro ⟨m, ⟨⟩⟩) (by rintro ⟨ms, ⟨⟩⟩)

end Value

/-- The document of a JSON value is what it is converted to, if that is a document. -/
theorem Document.ofJson_eq_ok {j : Json} {v : Value} (h : Value.ofJson j = .ok v) {m : Document} :
    ofJson j = .ok m ↔ v = .document m := by
  rw [ofJson, h]
  cases v with
  | document m' =>
    show Except.ok m' = Except.ok m ↔ _
    rw [Except.ok.injEq, Value.document.injEq]
  | _ => exact iff_of_false nofun nofun

namespace Value

/-- **Plain JSON is converted without loss.** Every JSON value is converted, and what it becomes is the
one value that mirrors it: no part of it is a set or a binary value, and other JSON values become the
same only if they are alike, up to numbers that are written alike. It is a document if and only if the
JSON value is an object, and cannot travel if and only if the JSON value is the empty array or an
array within it has the empty array as an item. -/
theorem ofJson_plain {j : Json} (hj : j.WellFormed) :
    ∃ v, ofJson j = .ok v ∧ (∀ v', Mirrors j v' ↔ v' = v) ∧
      (∀ u, Within u v → u.kind ∉ [.binary, .stringSet, .numberSet, .binarySet]) ∧
      (∀ j', j'.WellFormed → (ofJson j' = .ok v ↔ Json.Alike j j')) ∧
      (∀ m, Document.ofJson j = .ok m ↔ v = .document m) ∧
      ((∃ m, Document.ofJson j = .ok m) ↔ ∃ ms, j = .obj ms) ∧
      ((∃ e, v.toWire = .error e) ↔
        j = .arr [] ∨ ∃ items, Json.Within (.arr items) j ∧ .arr [] ∈ items) := by
  obtain ⟨v, hv⟩ := exists_ofJson hj
  have hmirrors := mirrors_of_ofJson hv
  refine ⟨v, hv, fun v' => ⟨fun h => ?_, fun h => h ▸ hmirrors⟩, fun u hu => ?_,
    fun j' hj' => ⟨fun h => ?_, fun h => ?_⟩, fun m => Document.ofJson_eq_ok hv, ?_, ?_⟩
  · exact h.eq hmirrors (h.alike h)
  · obtain ⟨j', hj'⟩ := hmirrors.part hu
    exact hj'.kind
  · exact hmirrors.alike (mirrors_of_ofJson h)
  · obtain ⟨v', hv'⟩ := exists_ofJson hj'
    rw [hv', hmirrors.eq (mirrors_of_ofJson hv') h]
  · rw [← hmirrors.exists_document_iff]
    exact exists_congr fun m => Document.ofJson_eq_ok hv
  · rw [exists_eq_error, exists_toWire_iff, ← Bool.not_eq_true, hmirrors.isEmptyCollection_iff,
      hmirrors.noEmptyItem_iff hj.unrepeated, Json.NoEmptyItem]
    simp only [not_and_or, not_not, not_forall, exists_prop]

/-- A minus zero and an empty array in an array: the first is mirrored, and for the second the document
cannot travel. -/
theorem ofJson_plain_minus_zero :
    let zero : JsonNumber := .float ⟨0x8000000000000000⟩
    let j : Json := .obj [("b", .arr [.num zero, .arr []]), ("a", .null)]
    zero.text = "-0.0" ∧ j.WellFormed ∧ (∃ m, Document.ofJson j = .ok m) ∧
      ∃ v, ofJson j = .ok v ∧ Mirrors j v ∧ ∃ e, v.toWire = .error e := by
  intro zero j
  have hzero : (Json.num zero).WellFormed := by
    refine Json.wellFormed_scalar rfl fun k hk => ?_
    obtain rfl := Json.num.inj hk
    show Decimal.Double.isFinite _ = true
    decide
  have hempty : (Json.arr []).WellFormed := Json.wellFormed_arr.mpr (List.forall_mem_nil _)
  have hitems : (Json.arr [.num zero, .arr []]).WellFormed :=
    Json.wellFormed_arr.mpr (List.forall_mem_cons.mpr ⟨hzero, List.forall_mem_singleton.mpr hempty⟩)
  have hnull : Json.null.WellFormed := Json.wellFormed_scalar rfl nofun
  have hj : j.WellFormed :=
    Json.wellFormed_obj.mpr ⟨by decide,
      List.forall_mem_cons.mpr ⟨hitems, List.forall_mem_singleton.mpr hnull⟩⟩
  obtain ⟨v, hv, hmirrors, -, -, -, hdocument, hfails⟩ := ofJson_plain hj
  refine ⟨by decide, hj, hdocument.mpr ⟨_, rfl⟩, v, hv, (hmirrors v).mpr rfl, ?_⟩
  exact hfails.mpr (.inr ⟨_, .member List.mem_cons_self .self,
    List.mem_cons_of_mem _ List.mem_cons_self⟩)

end Value

end Dynamo
