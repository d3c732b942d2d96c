import Dynamo.Bindings
import Dynamo.Proofs.Dict
import Dynamo.Proofs.Except

/-! # Bindings of several lists of parameters

Binding one list of parameters after another is binding the two as one list (`Bindings.bind_append`).
So it is enough to know what one list binds: of each key what the last parameter with the key says
(`Bindings.get?_values_of_bind`, `Bindings.get?_names_of_bind`), unless some alias is bound to
something else than a string, and then it is the first of these that is called
(`Param.names_eq_error`). -/

namespace Dynamo

open Dynamo.Except

namespace Param

/-- The parameter as an entry. -/
def entry (p : Param) : String × Value := (p.key, p.value)

/-- The parameter is an alias of something else than a string. -/
def Offends (p : Param) : Prop := p.isName = true ∧ ∀ s, p.value ≠ .string s

theorem not_offends_iff {p : Param} :
    ¬ p.Offends ↔ (p.isName = true → ∃ s, p.value = .string s) := by
  simp [Offends, not_and, not_forall]

/-- The first parameter is no alias, or an alias of a string, or it offends. -/
theorem names_cons (p : Param) :
    (p.isName = false ∧ ∀ ps, names (p :: ps) = names ps) ∨
    (p.isName = true ∧ ∃ s, p.value = .string s ∧
      ∀ ps, names (p :: ps) = (names ps).map ((p.key, s) :: ·)) ∨
    (p.Offends ∧ ∀ ps, names (p :: ps) = .error (.nameNotString p.key p.value.kind)) := by
  cases h : p.isName with
  | false => exact .inl ⟨rfl, fun ps => by rw [names, if_neg (by simp [h])]⟩
  | true =>
    by_cases hs : ∃ s, p.value = .string s
    · obtain ⟨s, hs⟩ := hs
      exact .inr (.inl ⟨rfl, s, hs, fun ps => by rw [names, if_pos h, hs]⟩)
    · have hoff : p.Offends := ⟨h, fun s hv => hs ⟨s, hv⟩⟩
      refine .inr (.inr ⟨hoff, fun ps => ?_⟩)
      rw [names, if_pos h]
      split
      · next s hv => exact absurd hv (hoff.2 s)
      · rfl

/-- The aliases and their names are the parameters for aliases, all of which are strings. -/
theorem names_eq_ok {ps : List Param} {ns : Entries String} :
    names ps = .ok ns ↔
      ns.map (fun e => (e.1, Value.string e.2)) = (ps.filter isName).map entry := by
  induction ps generalizing ns with
  | nil =>
    rw [names, Except.ok.injEq, List.filter_nil, List.map_nil, List.map_eq_nil_iff, eq_comm]
  | cons p ps ih =>
    rcases names_cons p with ⟨hp, hcons⟩ | ⟨hp, s, hs, hcons⟩ | ⟨hoff, hcons⟩
    · rw [hcons, ih, List.filter_cons_of_neg (by simp [hp])]
    · rw [hcons, map_eq_ok, List.filter_cons_of_pos hp, List.map_cons]
      constructor
      · rintro ⟨ns', hns, rfl⟩
        rw [List.map_cons, ih.mp hns, entry, hs]
      · intro h
        obtain ⟨e, ns', rfl, he, hns⟩ := List.map_eq_cons_iff.mp h
        refine ⟨ns', ih.mpr hns, ?_⟩
        obtain ⟨hk, hv⟩ := Prod.mk.inj he
        rw [hs] at hv
        rw [← Value.string.inj hv, ← hk]
    · rw [hcons, List.filter_cons_of_pos hoff.1, List.map_cons]
      refine ⟨fun h => absurd h (by simp), fun h => ?_⟩
      obtain ⟨e, ns', rfl, he, -⟩ := List.map_eq_cons_iff.mp h
      exact absurd (Prod.mk.inj he).2.symm (hoff.2 e.2)

/-- The first parameter that offends is the one that is called. -/
theorem names_eq_error {before after : List Param} {p : Param} (hbefore : ∀ q ∈ before, ¬ q.Offends)
    (hp : p.Offends) :
    names (before ++ p :: after) = .error (.nameNotString p.key p.value.kind) := by
  induction before with
  | nil =>
    rcases names_cons p with ⟨hname, -⟩ | ⟨-, s, hs, -⟩ | ⟨-, hcons⟩
    · exact absurd hp.1 (by simp [hname])
    · exact absurd hs (hp.2 s)
    · exact hcons after
  | cons q before ih =>
    have hrest := ih fun q hq => hbefore q (List.mem_cons_of_mem _ hq)
    rw [List.cons_append]
    rcases names_cons q with ⟨-, hcons⟩ | ⟨-, s, -, hcons⟩ | ⟨hoff, -⟩
    · rw [hcons, hrest]
    · rw [hcons, hrest]
      rfl
    · exact absurd hoff (hbefore q List.mem_cons_self)

/-- Unless a parameter offends, all aliases have names. -/
theorem exists_names {ps : List Param} (h : ∀ p ∈ ps, ¬ p.Offends) : ∃ ns, names ps = .ok ns := by
  induction ps with
  | nil => exact ⟨[], rfl⟩
  | cons p ps ih =>
    obtain ⟨ns, hns⟩ := ih fun q hq => h q (List.mem_cons_of_mem _ hq)
    rcases names_cons p with ⟨-, hcons⟩ | ⟨-, s, -, hcons⟩ | ⟨hoff, -⟩
    · exact ⟨ns, (hcons ps).trans hns⟩
    · exact ⟨(p.key, s) :: ns, by rw [hcons, hns]; rfl⟩
    · exact absurd hoff (h p List.mem_cons_self)

/-- Of parameters that offend, there is a first one. -/
theorem exists_first {ps : List Param}
    (h : ¬ ∀ p ∈ ps, p.isName = true → ∃ s, p.value = .string s) :
    ∃ before p after, ps = before ++ p :: after ∧ (∀ q ∈ before, ¬ q.Offends) ∧ p.Offends := by
  classical
  cases hfind : ps.find? fun p => decide p.Offends with
  | none =>
    refine absurd (fun p hp => ?_) h
    have hnot := List.find?_eq_none.mp hfind p hp
    exact not_offends_iff.mp (by simpa using hnot)
  | some p =>
    obtain ⟨hp, before, after, rfl, hbefore⟩ := List.find?_eq_some_iff_append.mp hfind
    exact ⟨before, p, after, rfl, fun q hq => by simpa using hbefore q hq, by simpa using hp⟩

theorem names_append (ps qs : List Param) :
    names (ps ++ qs) = do
      let ns ← names ps
      let ns' ← names qs
      return ns ++ ns' := by
  induction ps with
  | nil =>
    rw [List.nil_append]
    cases names qs <;> rfl
  | cons p ps ih =>
    rw [List.cons_append]
    rcases names_cons p with ⟨-, hcons⟩ | ⟨-, s, -, hcons⟩ | ⟨-, hcons⟩
    · rw [hcons, hcons, ih]
    · rw [hcons, hcons, ih]
      cases names ps with
      | error e => rfl
      | ok ns => cases names qs <;> rfl
    · rw [hcons, hcons]
      rfl

theorem values_append (ps qs : List Param) : values (ps ++ qs) = values ps ++ values qs := by
  simp [values]

/-- There is no placeholder among parameters all of which are aliases. -/
theorem values_eq_nil_iff {ps : List Param} : values ps = [] ↔ ∀ p ∈ ps, p.isName = true := by
  rw [values, List.map_eq_nil_iff, List.filter_eq_nil_iff]
  simp only [Bool.not_eq_true, Bool.not_eq_false']

/-- The value of the last parameter with a key. -/
theorem last?_map_entry (k : String) (ps : List Param) :
    Entries.last? k (ps.map entry) =
      ((ps.filter fun p => p.key = k).getLast?).map (·.value) := by
  rw [Entries.last?, List.filter_map, List.getLast?_map, Option.map_map]
  rfl

end Param

namespace Bindings

theorem bind_of_names {b : Bindings} {ps : List Param} {ns : Entries String}
    (h : Param.names ps = .ok ns) :
    b.bind ps = .ok ⟨Entries.insertAll (Param.values ps) b.values, b.names.insertAll ns⟩ := by
  rw [bind, h]
  rfl

theorem bind_of_error {b : Bindings} {ps : List Param} {e : ParamError}
    (h : Param.names ps = .error e) : b.bind ps = .error e := by
  rw [bind, h]
  rfl

/-- **Binding one list of parameters after another is binding them as one list.** -/
theorem bind_append (b : Bindings) (ps qs : List Param) :
    b.bind (ps ++ qs) = (b.bind ps).bind fun b' => b'.bind qs := by
  have happend := Param.names_append ps qs
  cases hp : Param.names ps with
  | error e =>
    rw [hp] at happend
    rw [bind_of_error happend, bind_of_error hp]
    rfl
  | ok ns =>
    rw [hp] at happend
    rw [bind_of_names hp]
    show _ = bind _ qs
    cases hq : Param.names qs with
    | error e =>
      rw [hq] at happend
      rw [bind_of_error happend, bind_of_error hq]
    | ok ns' =>
      rw [hq] at happend
      rw [bind_of_names happend, bind_of_names hq, Param.values_append, Entries.insertAll_append,
        Dict.insertAll_append]

/-- What is bound if nothing was bound before. -/
theorem empty_bind_eq_ok {ps : List Param} {b : Bindings} :
    empty.bind ps = .ok b ↔
      ∃ ns, Param.names ps = .ok ns ∧ b = ⟨Entries.ofList (Param.values ps), Dict.ofList ns⟩ := by
  cases hp : Param.names ps with
  | error e => simp [bind_of_error hp]
  | ok ns =>
    rw [bind_of_names hp, Except.ok.injEq]
    constructor
    · rintro rfl
      exact ⟨ns, rfl, rfl⟩
    · rintro ⟨ns', hns, rfl⟩
      rw [← Except.ok.inj hns]
      rfl

/-- A placeholder stands for what the last parameter with its key says. -/
theorem get?_values_of_bind {ps : List Param} {b : Bindings} (h : empty.bind ps = .ok b)
    (k : String) :
    Entries.get? k b.values =
      ((ps.filter fun p => p.key = k && !p.isName).getLast?).map (·.value) := by
  obtain ⟨ns, -, rfl⟩ := empty_bind_eq_ok.mp h
  show Entries.get? k (Entries.ofList ((ps.filter fun p => !p.isName).map Param.entry)) = _
  rw [Entries.get?_ofList, Param.last?_map_entry, List.filter_filter]

/-- An alias stands for the string that the last parameter with its key says. -/
theorem get?_names_of_bind {ps : List Param} {b : Bindings} (h : empty.bind ps = .ok b)
    (k : String) :
    (b.names.get? k).map Value.string =
      ((ps.filter fun p => p.key = k && p.isName).getLast?).map (·.value) := by
  obtain ⟨ns, hns, rfl⟩ := empty_bind_eq_ok.mp h
  show (Entries.get? k (Entries.ofList ns)).map Value.string = _
  have hlast : (Entries.last? k ns).map Value.string =
      Entries.last? k (ns.map fun e => (e.1, Value.string e.2)) := by
    rw [Entries.last?, Entries.last?, List.filter_map, List.getLast?_map, Option.map_map,
      Option.map_map]
    rfl
  rw [Entries.get?_ofList, hlast, Param.names_eq_ok.mp hns, Param.last?_map_entry,
    List.filter_filter]

theorem sorted_values_of_bind {ps : List Param} {b : Bindings} (h : empty.bind ps = .ok b) :
    Entries.Sorted b.values := by
  obtain ⟨ns, -, rfl⟩ := empty_bind_eq_ok.mp h
  exact Entries.sorted_ofList _

end Bindings

end Dynamo
