import Mathlib.Data.List.Forall2

/-! # Successful computations

When a computation that may fail gives a result: its steps gave results, and the last of them is
this one. When it fails: one of its steps did. -/

namespace Dynamo.Except

variable {ε α β : Type}

theorem pure_eq_ok {a b : α} : (pure a : Except ε α) = .ok b ↔ a = b := by
  show (Except.ok a : Except ε α) = .ok b ↔ a = b
  rw [Except.ok.injEq]

theorem bind_eq_ok {x : Except ε α} {f : α → Except ε β} {b : β} :
    x >>= f = .ok b ↔ ∃ a, x = .ok a ∧ f a = .ok b := by
  cases x with
  | error e => simp [bind, Except.bind]
  | ok a => simp [bind, Except.bind]

theorem map_eq_ok {f : α → β} {x : Except ε α} {b : β} :
    x.map f = .ok b ↔ ∃ a, x = .ok a ∧ f a = b := by
  cases x with
  | error e => simp [Except.map]
  | ok a => simp [Except.map]

theorem bind_eq_error {x : Except ε α} {f : α → Except ε β} {e : ε} :
    x >>= f = .error e ↔ x = .error e ∨ ∃ a, x = .ok a ∧ f a = .error e := by
  cases x with
  | error e' => simp [bind, Except.bind]
  | ok a => simp [bind, Except.bind]

theorem mapError_eq_ok {ε' : Type} {f : ε → ε'} {x : Except ε α} {a : α} :
    x.mapError f = .ok a ↔ x = .ok a := by
  cases x with
  | error e => exact ⟨nofun, nofun⟩
  | ok a' => simp [Except.mapError]

theorem mapError_eq_error {ε' : Type} {f : ε → ε'} {x : Except ε α} {e : ε'} :
    x.mapError f = .error e ↔ ∃ e', x = .error e' ∧ f e' = e := by
  cases x with
  | error e' => simp [Except.mapError]
  | ok a => simp [Except.mapError]

/-- A last step that cannot fail does not matter for success. -/
theorem exists_map_eq_ok {f : α → β} {x : Except ε α} :
    (∃ b, x.map f = .ok b) ↔ ∃ a, x = .ok a := by
  simp only [map_eq_ok]
  constructor
  · rintro ⟨b, a, ha, -⟩
    exact ⟨a, ha⟩
  · rintro ⟨a, ha⟩
    exact ⟨f a, a, ha, rfl⟩

theorem exists_eq_error {x : Except ε α} : (∃ e, x = .error e) ↔ ¬ ∃ a, x = .ok a := by
  cases x with
  | error e => simp
  | ok a => simp

theorem exists_bind_pure_eq_ok {f : α → β} {x : Except ε α} :
    (∃ b, (do return f (← x)) = .ok b) ↔ ∃ a, x = .ok a := by
  cases x with
  | error e => exact ⟨fun ⟨_, h⟩ => absurd h nofun, fun ⟨_, h⟩ => absurd h nofun⟩
  | ok a => exact ⟨fun _ => ⟨a, rfl⟩, fun _ => ⟨f a, rfl⟩⟩

/-- Of a list of computations, all have to succeed. -/
theorem mapM_eq_ok {f : α → Except ε β} :
    ∀ {xs : List α} {ys : List β},
      xs.mapM f = .ok ys ↔ List.Forall₂ (fun x y => f x = .ok y) xs ys
  | [], ys => by
    rw [List.mapM_nil, pure_eq_ok, List.forall₂_nil_left_iff, eq_comm]
  | x :: xs, ys => by
    rw [List.mapM_cons, bind_eq_ok, List.forall₂_cons_left_iff]
    constructor
    · rintro ⟨y, hy, h⟩
      obtain ⟨ys', hys, h⟩ := bind_eq_ok.mp h
      exact ⟨y, ys', hy, mapM_eq_ok.mp hys, (pure_eq_ok.mp h).symm⟩
    · rintro ⟨y, ys', hy, hys, rfl⟩
      exact ⟨y, hy, bind_eq_ok.mpr ⟨ys', mapM_eq_ok.mpr hys, rfl⟩⟩

theorem exists_mapM_eq_ok {f : α → Except ε β} {xs : List α} :
    (∃ ys, xs.mapM f = .ok ys) ↔ ∀ x ∈ xs, ∃ y, f x = .ok y := by
  simp only [mapM_eq_ok]
  induction xs with
  | nil => simp
  | cons x xs ih =>
    rw [List.forall_mem_cons, ← ih]
    constructor
    · rintro ⟨ys, h⟩
      obtain ⟨y, ys', hy, hys, -⟩ := List.forall₂_cons_left_iff.mp h
      exact ⟨⟨y, hy⟩, ys', hys⟩
    · rintro ⟨⟨y, hy⟩, ys, hys⟩
      exact ⟨y :: ys, .cons hy hys⟩

/-- If each result stands for one argument only, the results stand for the list of arguments. -/
theorem mapM_eq_ok_iff_map {f : α → Except ε β} {g : β → α} (h : ∀ x y, f x = .ok y ↔ x = g y)
    {xs : List α} {ys : List β} : xs.mapM f = .ok ys ↔ xs = ys.map g := by
  rw [mapM_eq_ok, ← List.forall₂_eq_eq_eq, List.forall₂_map_right_iff]
  simp only [h]

/-- Of named arguments, the results have the names. -/
theorem mapM_entries_eq_ok {f : α → Except ε β} {xs : List (String × α)} {ys : List (String × β)} :
    xs.mapM (fun e => do return (e.1, ← f e.2)) = .ok ys ↔
      List.Forall₂ (fun e y => e.1 = y.1 ∧ f e.2 = .ok y.2) xs ys := by
  have hentry : ∀ (e : String × α) (y : String × β),
      (do return (e.1, ← f e.2) : Except ε (String × β)) = .ok y ↔
        e.1 = y.1 ∧ f e.2 = .ok y.2 := by
    intro e y
    rw [bind_eq_ok]
    constructor
    · rintro ⟨b, hb, hy⟩
      obtain rfl := pure_eq_ok.mp hy
      exact ⟨rfl, hb⟩
    · rintro ⟨hname, hb⟩
      exact ⟨y.2, hb, pure_eq_ok.mpr (Prod.ext hname rfl)⟩
  simp only [← hentry, mapM_eq_ok]

/-! ### Related lists and options -/

theorem exists_of_rel_left {R : α → β → Prop} {a : α} {o : Option β}
    (h : Option.Rel R (some a) o) : ∃ b, o = some b ∧ R a b := by
  cases h with
  | some h => exact ⟨_, rfl, h⟩

theorem exists_of_rel_right {R : α → β → Prop} {b : β} {o : Option α}
    (h : Option.Rel R o (some b)) : ∃ a, o = some a ∧ R a b := by
  cases h with
  | some h => exact ⟨_, rfl, h⟩

theorem eq_none_of_rel_left {R : α → β → Prop} {o : Option β}
    (h : Option.Rel R none o) : o = none := by
  cases h
  rfl

theorem eq_none_of_rel_right {R : α → β → Prop} {o : Option α}
    (h : Option.Rel R o none) : o = none := by
  cases h
  rfl

theorem rel_same {R : α → α → Prop} {o : Option α} (h : ∀ a ∈ o, R a a) : Option.Rel R o o := by
  cases o with
  | none => exact .none
  | some a => exact .some (h a rfl)

theorem rel_map {R : α → β → Prop} {f : α → β} {o : Option α} (h : ∀ a ∈ o, R a (f a)) :
    Option.Rel R o (o.map f) := by
  cases o with
  | none => exact .none
  | some a => exact .some (h a rfl)

theorem eq_of_rel {o o' : Option α} (h : Option.Rel (· = ·) o o') : o = o' := by
  cases h with
  | none => rfl
  | some h => exact congrArg some h

theorem rel_flip {R : α → β → Prop} {o : Option α} {o' : Option β} (h : Option.Rel R o o') :
    Option.Rel (fun b a => R a b) o' o := by
  cases h with
  | none => exact .none
  | some h => exact .some h

theorem rel_comp {γ : Type} {R : α → β → Prop} {S : β → γ → Prop} {o : Option α} {o' : Option β}
    {o'' : Option γ} (h : Option.Rel R o o') (h' : Option.Rel S o' o'') :
    Option.Rel (fun a c => ∃ b, R a b ∧ S b c) o o'' := by
  cases h with
  | none => exact eq_none_of_rel_left h' ▸ .none
  | some h =>
    obtain ⟨c, rfl, hc⟩ := exists_of_rel_left h'
    exact .some ⟨_, h, hc⟩

theorem rel_imp_of_mem {R S : α → β → Prop} {o : Option α} {o' : Option β}
    (hRS : ∀ a ∈ o, ∀ b, R a b → S a b) (h : Option.Rel R o o') : Option.Rel S o o' := by
  cases h with
  | none => exact .none
  | some h => exact .some (hRS _ rfl _ h)

theorem forall₂_comp {γ : Type} {R : α → β → Prop} {S : β → γ → Prop} {xs : List α} {ys : List β}
    {zs : List γ} (h : List.Forall₂ R xs ys) (h' : List.Forall₂ S ys zs) :
    List.Forall₂ (fun x z => ∃ y, R x y ∧ S y z) xs zs := by
  induction h generalizing zs with
  | nil => exact List.forall₂_nil_left_iff.mpr (List.forall₂_nil_left_iff.mp h')
  | cons hxy _ ih =>
    obtain ⟨z, zs, hyz, hys, rfl⟩ := List.forall₂_cons_left_iff.mp h'
    exact .cons ⟨_, hxy, hyz⟩ (ih hys)

theorem forall₂_imp_of_mem {R S : α → β → Prop} {xs : List α} {ys : List β}
    (hRS : ∀ x ∈ xs, ∀ y, R x y → S x y) (h : List.Forall₂ R xs ys) : List.Forall₂ S xs ys :=
  ((List.forall₂_and_left xs ys).mpr ⟨hRS, h⟩).imp fun _ y h => h.1 y h.2

theorem exists_of_forall₂_right {R : α → β → Prop} {xs : List α} {ys : List β} {y : β}
    (h : List.Forall₂ R xs ys) (hy : y ∈ ys) : ∃ x ∈ xs, R x y := by
  induction h with
  | nil => exact absurd hy List.not_mem_nil
  | cons hxy _ ih =>
    rcases List.mem_cons.mp hy with rfl | hy
    · exact ⟨_, List.mem_cons_self, hxy⟩
    · obtain ⟨x, hx, hR⟩ := ih hy
      exact ⟨x, List.mem_cons_of_mem _ hx, hR⟩

end Dynamo.Except
