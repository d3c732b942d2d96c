import Dynamo.Bindings.Places
import Dynamo.Proofs.Bindings
import Mathlib.Data.List.Infix

/-! # Families of bindings

The members of a family are made from one another, so that they form a tree with the empty bindings as
its root. `Family.Path` is the way down from one member to another, with the parameters bound on it, and
`Family.Meet` is the last member that the ways to two others have in common.

The place of a dictionary is the position of the member that brought it. So it is known from the way
down: of the calls on it, the last that brought an entry gave the place (`Family.Records.place_cases`),
and two members share a dictionary if and only if no call below their meeting brought an entry
(`Family.Records.place_eq_iff`).

* `Family.Grown`: the families that calls make.
* `Family.Grown.copies_on_write`: what the members share, and what they hold. -/

namespace Dynamo

open Dynamo.Except

/-- A call: parameters that are bound to the member at a position. -/
structure Fork where
  origin : Nat
  params : List Param

/-- One of the two dictionaries of bindings. -/
inductive Half where
  | values
  | names

namespace Half

def place : Half → Places → Nat
  | .values, p => p.values
  | .names, p => p.names

/-- Does the parameter bring an entry? -/
def takes : Half → Param → Bool
  | .values, p => !p.isName
  | .names, p => p.isName

/-- The dictionary is the same. -/
def Agree : Half → Bindings → Bindings → Prop
  | .values, b, b' => b.values = b'.values
  | .names, b, b' => b.names = b'.names

theorem Agree.refl (half : Half) (b : Bindings) : half.Agree b b := by
  cases half <;> rfl

theorem Agree.trans {half : Half} {b b' b'' : Bindings} (h : half.Agree b b')
    (h' : half.Agree b' b'') : half.Agree b b'' := by
  cases half with
  | values => exact Eq.trans (h : b.values = b'.values) h'
  | names => exact Eq.trans (h : b.names = b'.names) h'

theorem place_new (half : Half) (place : Nat) : half.place (Places.new place) = place := by
  cases half <;> rfl

/-- The place is the new one if a parameter brings an entry, else the old one. -/
theorem place_bind (half : Half) (place : Nat) (params : List Param) (old : Places) :
    ((∃ p ∈ params, half.takes p = true) ∧ half.place (old.bind place params) = place) ∨
    ((∀ p ∈ params, half.takes p = false) ∧
      half.place (old.bind place params) = half.place old) := by
  have hplace : half.place (old.bind place params) =
      if params.any half.takes then place else half.place old := by
    cases half <;> rfl
  rw [hplace]
  cases htakes : params.any half.takes with
  | true => exact .inl ⟨List.any_eq_true.mp htakes, rfl⟩
  | false =>
    refine .inr ⟨fun p hp => ?_, rfl⟩
    exact Bool.eq_false_iff.mpr (List.any_eq_false.mp htakes p hp)

/-- Parameters that bring no entry leave the dictionary as it is. -/
theorem agree_of_bind {half : Half} {params : List Param} {b b' : Bindings}
    (h : b.bind params = .ok b') (hnone : ∀ p ∈ params, half.takes p = false) :
    half.Agree b b' := by
  obtain ⟨ns, hns, hb'⟩ := bind_eq_ok.mp h
  obtain rfl := pure_eq_ok.mp hb'
  cases half with
  | values =>
    have hvalues : Param.values params = [] :=
      Param.values_eq_nil_iff.mpr fun p hp => by simpa [takes] using hnone p hp
    show b.values = Entries.insertAll (Param.values params) b.values
    rw [hvalues]
    rfl
  | names =>
    have hfilter : params.filter Param.isName = [] := by
      rw [List.filter_eq_nil_iff]
      intro p hp htake
      exact Bool.false_ne_true ((hnone p hp).symm.trans htake)
    have hnil : ns = [] := by
      have hmap := Param.names_eq_ok.mp hns
      rw [hfilter] at hmap
      exact List.map_eq_nil_iff.mp hmap
    show b.names = b.names.insertAll ns
    rw [hnil]
    rfl

end Half

namespace Family

variable {forks : List Fork} {family : Family}

/-! ### Families that calls make -/

/-- **The family that calls make**, each of them on a member that is there, and each with success. -/
inductive Grown : List Fork → Family → Prop
  | root : Grown [] root
  | fork {forks : List Fork} {family family' : Family} {f : Fork} (h : Grown forks family)
    (horigin : f.origin < family.length) (hbind : family.bind f.origin f.params = .ok family') :
    Grown (forks ++ [f]) family'

/-- A call that succeeds adds the member that it makes. -/
theorem exists_of_bind {family' : Family} {origin : Nat} {params : List Param}
    (h : origin < family.length) (hbind : family.bind origin params = .ok family') :
    ∃ m b, family[origin]? = some m ∧ m.bindings.bind params = .ok b ∧
      family' = family ++ [⟨b, m.places.bind family.length params⟩] := by
  have hm : family[origin]? = some family[origin] := List.getElem?_eq_getElem h
  unfold Family.bind KeptBindings.bind at hbind
  simp only [hm] at hbind
  obtain ⟨k, hk, hfamily⟩ := bind_eq_ok.mp hbind
  obtain ⟨b, hb, hplaces⟩ := bind_eq_ok.mp hk
  obtain rfl := pure_eq_ok.mp hplaces
  exact ⟨_, b, hm, hb, (pure_eq_ok.mp hfamily).symm⟩

/-- What is known of the members: each but the first was made by its call. -/
structure Records (forks : List Fork) (family : Family) : Prop where
  length : family.length = forks.length + 1
  root : family[0]? = some (.new 0)
  origin : ∀ (k : Nat) (f : Fork), forks[k]? = some f → f.origin ≤ k
  member : ∀ (k : Nat) (f : Fork), forks[k]? = some f → ∃ m b, family[f.origin]? = some m ∧
    m.bindings.bind f.params = .ok b ∧ family[k + 1]? = some ⟨b, m.places.bind (k + 1) f.params⟩

/-- One more call keeps what is known, as the members before it stay where they are. -/
theorem Records.fork {f : Fork} {m : KeptBindings} {b : Bindings} (h : Records forks family)
    (hm : family[f.origin]? = some m) (hb : m.bindings.bind f.params = .ok b) :
    Records (forks ++ [f]) (family ++ [⟨b, m.places.bind family.length f.params⟩]) := by
  have hstays : ∀ {i : Nat} {x : KeptBindings}, family[i]? = some x → ∀ y,
      (family ++ [y])[i]? = some x := by
    intro i x hx y
    have hi : i < family.length := (List.getElem?_eq_some_iff.mp hx).1
    rw [List.getElem?_append_left hi, hx]
  have hcall : ∀ (k : Nat) (g : Fork), (forks ++ [f])[k]? = some g →
      forks[k]? = some g ∨ k = forks.length ∧ g = f := by
    intro k g hg
    rcases lt_or_ge k forks.length with hk | hk
    · rw [List.getElem?_append_left hk] at hg
      exact .inl hg
    · rw [List.getElem?_append_right hk] at hg
      obtain ⟨hzero, hgf⟩ := List.getElem?_eq_some_iff.mp hg
      have hlen : k - forks.length = 0 := by simpa using hzero
      refine .inr ⟨by omega, ?_⟩
      simpa [hlen] using hgf.symm
  have horigin : f.origin < family.length := (List.getElem?_eq_some_iff.mp hm).1
  refine ⟨?_, hstays h.root _, ?_, ?_⟩
  · rw [List.length_append, List.length_append, h.length]
    rfl
  · intro k g hg
    rcases hcall k g hg with hg | ⟨rfl, rfl⟩
    · exact h.origin k g hg
    · have hlength := h.length
      omega
  · intro k g hg
    rcases hcall k g hg with hg | ⟨rfl, rfl⟩
    · obtain ⟨m', b', hm', hb', hk⟩ := h.member k g hg
      exact ⟨m', b', hstays hm' _, hb', hstays hk _⟩
    · refine ⟨m, b, hstays hm _, hb, ?_⟩
      rw [← h.length, List.getElem?_concat_length]

theorem Grown.records (h : Grown forks family) : Records forks family := by
  induction h with
  | root => exact ⟨rfl, rfl, nofun, nofun⟩
  | fork _ horigin hbind ih =>
    obtain ⟨m, b, hm, hb, rfl⟩ := exists_of_bind horigin hbind
    exact ih.fork hm hb

/-- Calls after others leave their members where they are. -/
theorem Grown.exists_before (h : Grown forks family) {earlier : List Fork}
    (hearlier : earlier <+: forks) : ∃ before, Grown earlier before ∧ before <+: family := by
  induction h with
  | root =>
    obtain rfl := List.prefix_nil.mp hearlier
    exact ⟨Family.root, .root, List.prefix_rfl⟩
  | fork h horigin hbind ih =>
    rcases List.prefix_concat_iff.mp hearlier with rfl | hearlier
    · exact ⟨_, .fork h horigin hbind, List.prefix_rfl⟩
    · obtain ⟨before, hgrown, hprefix⟩ := ih hearlier
      obtain ⟨m, b, -, -, rfl⟩ := exists_of_bind horigin hbind
      exact ⟨before, hgrown, hprefix.trans (List.prefix_append _ _)⟩

/-! ### Ways down -/

/-- **The way down** from one member to another, with the parameters that its calls bind. -/
inductive Path (forks : List Fork) (a : Nat) : List Param → Nat → Prop
  | here : Path forks a [] a
  | down {ps : List Param} {k : Nat} {f : Fork} (way : Path forks a ps f.origin)
    (hcall : forks[k]? = some f) : Path forks a (ps ++ f.params) (k + 1)

/-- One member was made from the other, or is the other. -/
def Above (forks : List Fork) (a b : Nat) : Prop := ∃ ps, Path forks a ps b

/-- **The last common member** of the ways down to two others. -/
structure Meet (forks : List Fork) (a b c : Nat) : Prop where
  left : Above forks c a
  right : Above forks c b
  lowest : ∀ d, Above forks d a → Above forks d b → Above forks d c

theorem Meet.symm {a b c : Nat} (h : Meet forks a b c) : Meet forks b a c :=
  ⟨h.right, h.left, fun d hb ha => h.lowest d ha hb⟩

/-- A member that a call made comes from the member that it was made from. -/
theorem above_of_call {a k : Nat} {f : Fork} (hcall : forks[k]? = some f)
    (hab : Above forks a (k + 1)) : a = k + 1 ∨ Above forks a f.origin := by
  obtain ⟨ps, way⟩ := hab
  cases way with
  | here => exact .inl rfl
  | down way hcall' =>
    obtain rfl := Option.some.inj (hcall.symm.trans hcall')
    exact .inr ⟨_, way⟩

namespace Records

variable (h : Records forks family)
include h

theorem le_of_path {a b : Nat} {ps : List Param} (way : Path forks a ps b) : a ≤ b := by
  induction way with
  | here => exact le_rfl
  | down _ hcall ih =>
    have horigin := h.origin _ _ hcall
    omega

theorem le_of_above {a b : Nat} (hab : Above forks a b) : a ≤ b := by
  obtain ⟨ps, way⟩ := hab
  exact h.le_of_path way

/-- Each member but the first was made by a call. -/
theorem exists_call {b : Nat} (hb : b < family.length) (hpos : 0 < b) :
    ∃ k f, b = k + 1 ∧ forks[k]? = some f := by
  obtain ⟨k, rfl⟩ := Nat.exists_eq_succ_of_ne_zero (Nat.pos_iff_ne_zero.mp hpos)
  have hk : k < forks.length := by
    have hlength := h.length
    omega
  exact ⟨k, forks[k], rfl, List.getElem?_eq_getElem hk⟩

theorem exists_path_of_root {a : Nat} (ha : a < family.length) : ∃ ps, Path forks 0 ps a := by
  induction a using Nat.strong_induction_on with
  | _ a ih =>
    rcases Nat.eq_zero_or_pos a with rfl | hpos
    · exact ⟨[], .here⟩
    · obtain ⟨k, f, rfl, hcall⟩ := h.exists_call ha hpos
      have horigin := h.origin k f hcall
      obtain ⟨ps, way⟩ := ih f.origin (by omega) (by omega)
      exact ⟨_, .down way hcall⟩

/-- Two members meet: go up from the one with the higher position until they are the same. -/
theorem exists_meet {a b : Nat} (ha : a < family.length) (hb : b < family.length) :
    ∃ c, Meet forks a b c := by
  obtain ⟨n, hn⟩ : ∃ n, n = a + b := ⟨_, rfl⟩
  induction n using Nat.strong_induction_on generalizing a b with
  | _ n ih =>
    -- an origin stands before what was made of it, so the positions get smaller
    wlog hab : a ≤ b generalizing a b
    · obtain ⟨c, hc⟩ := this hb ha (by omega) (by omega)
      exact ⟨c, hc.symm⟩
    rcases Nat.eq_or_lt_of_le hab with rfl | hlt
    · exact ⟨a, ⟨[], .here⟩, ⟨[], .here⟩, fun d hda _ => hda⟩
    · obtain ⟨k, f, rfl, hcall⟩ := h.exists_call hb (by omega)
      have horigin := h.origin k f hcall
      obtain ⟨c, hleft, ⟨ps, way⟩, hlowest⟩ :=
        ih (a + f.origin) (by omega) ha (by omega) rfl
      refine ⟨c, hleft, ⟨_, .down way hcall⟩, fun d hda hdb => ?_⟩
      rcases above_of_call hcall hdb with rfl | hdo
      · have hle := h.le_of_above hda
        omega
      · exact hlowest d hda hdo

/-! ### Places and contents -/

/-- **Who brought a dictionary**: of the calls on a way down, the last that brought an entry gave its
place, and if none did, the place is the one at the start of the way. -/
theorem place_cases (half : Half) {c a : Nat} {ps : List Param} (way : Path forks c ps a)
    {mc ma : KeptBindings} (hc : family[c]? = some mc) (ha : family[a]? = some ma) :
    ((∀ p ∈ ps, half.takes p = false) ∧ half.place ma.places = half.place mc.places) ∨
    ((∃ p ∈ ps, half.takes p = true) ∧ c < half.place ma.places ∧
      Above forks c (half.place ma.places) ∧ Above forks (half.place ma.places) a) := by
  induction way generalizing ma with
  | here =>
    obtain rfl := Option.some.inj (hc.symm.trans ha)
    exact .inl ⟨nofun, rfl⟩
  | @down ps k f way hcall ih =>
    obtain ⟨m, b, hm, -, hk⟩ := h.member k f hcall
    obtain rfl := Option.some.inj (hk.symm.trans ha)
    rcases half.place_bind (k + 1) f.params m.places with
      ⟨⟨p, hp, htake⟩, hplace⟩ | ⟨hnone, hplace⟩
    · have hle := h.le_of_path way
      have horigin := h.origin k f hcall
      rw [hplace]
      exact .inr ⟨⟨p, List.mem_append_right _ hp, htake⟩, by omega, ⟨_, .down way hcall⟩,
        ⟨[], .here⟩⟩
    · rw [hplace]
      rcases ih hm with ⟨hps, hstart⟩ | ⟨⟨p, hp, htake⟩, hlt, habove, ⟨qs, way'⟩⟩
      · exact .inl ⟨List.forall_mem_append.mpr ⟨hps, hnone⟩, hstart⟩
      · exact .inr ⟨⟨p, List.mem_append_left _ hp, htake⟩, hlt, habove, ⟨_, .down way' hcall⟩⟩

theorem place_le (half : Half) {a : Nat} {m : KeptBindings} (ha : family[a]? = some m) :
    half.place m.places ≤ a := by
  have hlt : a < family.length := (List.getElem?_eq_some_iff.mp ha).1
  obtain ⟨ps, way⟩ := h.exists_path_of_root hlt
  rcases h.place_cases half way h.root ha with ⟨-, hplace⟩ | ⟨-, -, -, habove⟩
  · rw [hplace, KeptBindings.new, half.place_new]
    exact Nat.zero_le a
  · exact h.le_of_above habove

/-- **Two members share a dictionary** if and only if no call below their meeting brought an entry. -/
theorem place_eq_iff (half : Half) {a b c : Nat} {ps qs : List Param} {ma mb : KeptBindings}
    (hmeet : Meet forks a b c) (left : Path forks c ps a) (right : Path forks c qs b)
    (ha : family[a]? = some ma) (hb : family[b]? = some mb) :
    half.place ma.places = half.place mb.places ↔ ∀ p ∈ ps ++ qs, half.takes p = false := by
  have hlt : c < family.length :=
    Nat.lt_of_le_of_lt (h.le_of_path left) (List.getElem?_eq_some_iff.mp ha).1
  have hc : family[c]? = some family[c] := List.getElem?_eq_getElem hlt
  have hcle := h.place_le half hc
  rcases h.place_cases half left hc ha with ⟨hps, hpa⟩ | ⟨⟨p, hp, htake⟩, hca, habove, haa⟩
  · rcases h.place_cases half right hc hb with ⟨hqs, hpb⟩ | ⟨⟨q, hq, htake⟩, hcb, -, -⟩
    · exact ⟨fun _ => List.forall_mem_append.mpr ⟨hps, hqs⟩, fun _ => hpa.trans hpb.symm⟩
    · refine ⟨fun heq => by omega, fun hnone => ?_⟩
      have hfalse := hnone q (List.mem_append_right _ hq)
      exact absurd (hfalse.symm.trans htake) Bool.false_ne_true
  · refine ⟨fun heq => ?_, fun hnone => ?_⟩
    · -- the place would be on both ways, but below their meeting
      rcases h.place_cases half right hc hb with ⟨-, hpb⟩ | ⟨-, -, -, hbb⟩
      · omega
      · have hle := h.le_of_above (hmeet.lowest _ haa (heq ▸ hbb))
        omega
    · have hfalse := hnone p (List.mem_append_left _ hp)
      exact absurd (hfalse.symm.trans htake) Bool.false_ne_true

/-- **What a member holds**: what the parameters on the way down to it bind. -/
theorem bindings_of_path {a : Nat} {ps : List Param} {m : KeptBindings} (way : Path forks 0 ps a)
    (ha : family[a]? = some m) : Bindings.empty.bind ps = .ok m.bindings := by
  induction way generalizing m with
  | here =>
    obtain rfl := Option.some.inj (h.root.symm.trans ha)
    rfl
  | @down ps k f way hcall ih =>
    obtain ⟨m', b, hm', hb, hk⟩ := h.member k f hcall
    obtain rfl := Option.some.inj (hk.symm.trans ha)
    have horigin : Bindings.empty.bind ps = .ok m'.bindings := ih hm'
    calc Bindings.empty.bind (ps ++ f.params)
        = (Bindings.empty.bind ps).bind fun b' => b'.bind f.params := Bindings.bind_append _ _ _
      _ = m'.bindings.bind f.params := by rw [horigin]; rfl
      _ = .ok b := hb

/-- What a member holds is what stands at its place. -/
theorem exists_at_place (half : Half) {a : Nat} {m : KeptBindings} (ha : family[a]? = some m) :
    ∃ m', family[half.place m.places]? = some m' ∧ half.Agree m'.bindings m.bindings := by
  induction a using Nat.strong_induction_on generalizing m with
  | _ a ih =>
    rcases Nat.eq_zero_or_pos a with rfl | hpos
    · obtain rfl := Option.some.inj (h.root.symm.trans ha)
      rw [KeptBindings.new, half.place_new]
      exact ⟨_, h.root, Half.Agree.refl half _⟩
    · have hlt : a < family.length := (List.getElem?_eq_some_iff.mp ha).1
      obtain ⟨k, f, rfl, hcall⟩ := h.exists_call hlt hpos
      obtain ⟨m', b, hm', hb, hk⟩ := h.member k f hcall
      obtain rfl := Option.some.inj (hk.symm.trans ha)
      rcases half.place_bind (k + 1) f.params m'.places with ⟨-, hplace⟩ | ⟨hnone, hplace⟩
      · rw [hplace]
        exact ⟨_, hk, Half.Agree.refl half _⟩
      · have horigin := h.origin k f hcall
        obtain ⟨m'', hm'', hagree⟩ := ih f.origin (by omega) hm'
        rw [hplace]
        exact ⟨m'', hm'', hagree.trans (Half.agree_of_bind hb hnone)⟩

end Records

/-! ### Copies on write -/

/-- **Members share what no call between them changed, and hold what was bound on the way to them.**
Two members meet, and whichever way leads from there to them, they share the values if and only if only
aliases were bound on it, and the names if and only if only placeholders were. A member holds what the
parameters from the root down to it bind, and this is what stands at its places. Later calls change
nothing of this, as the members stay where they are. -/
theorem Grown.copies_on_write (h : Grown forks family) :
    (∀ (a b : Nat) (ma mb : KeptBindings), family[a]? = some ma → family[b]? = some mb →
      (∃ c, Meet forks a b c) ∧
      ∀ (c : Nat) (ps qs : List Param), Meet forks a b c → Path forks c ps a → Path forks c qs b →
        (ma.places.values = mb.places.values ↔ ∀ p ∈ ps ++ qs, p.isName = true) ∧
        (ma.places.names = mb.places.names ↔ ∀ p ∈ ps ++ qs, p.isName = false)) ∧
    (∀ (a : Nat) (m : KeptBindings), family[a]? = some m →
      (∃ ps, Path forks 0 ps a) ∧
      (∀ ps, Path forks 0 ps a → Bindings.empty.bind ps = .ok m.bindings) ∧
      (∃ m', family[m.places.values]? = some m' ∧ m'.bindings.values = m.bindings.values) ∧
      (∃ m', family[m.places.names]? = some m' ∧ m'.bindings.names = m.bindings.names)) ∧
    ∀ earlier, earlier <+: forks → ∃ before, Grown earlier before ∧ before <+: family := by
  have hrecords := h.records
  have hlt : ∀ {a : Nat} {m : KeptBindings}, family[a]? = some m → a < family.length :=
    fun ha => (List.getElem?_eq_some_iff.mp ha).1
  refine ⟨fun a b ma mb ha hb => ⟨hrecords.exists_meet (hlt ha) (hlt hb), ?_⟩, fun a m ha => ?_,
    fun earlier hearlier => h.exists_before hearlier⟩
  · intro c ps qs hmeet left right
    refine ⟨?_, hrecords.place_eq_iff .names hmeet left right ha hb⟩
    have hvalues := hrecords.place_eq_iff .values hmeet left right ha hb
    simpa only [Half.place, Half.takes, Bool.not_eq_false'] using hvalues
  · exact ⟨hrecords.exists_path_of_root (hlt ha), fun ps way => hrecords.bindings_of_path way ha,
      hrecords.exists_at_place .values ha, hrecords.exists_at_place .names ha⟩

/-- Two members made from the same one, each by binding an alias. -/
def siblings : List Fork :=
  [⟨0, [⟨":v", .bool true⟩]⟩, ⟨1, [⟨"#n", .string "N"⟩]⟩, ⟨1, [⟨"#m", .string "M"⟩]⟩]

theorem exists_grown_siblings : ∃ family, Grown siblings family := by
  have hfirst := Grown.fork (f := siblings[0]) .root (by decide) rfl
  have hsecond := Grown.fork (f := siblings[1]) hfirst (by decide) rfl
  have hthird := Grown.fork (f := siblings[2]) hsecond (by decide) rfl
  exact ⟨_, hthird⟩

theorem meet_siblings : Meet siblings 2 3 1 := by
  refine ⟨⟨_, .down .here rfl⟩, ⟨_, .down .here rfl⟩, fun d h2 h3 => ?_⟩
  rcases above_of_call rfl h2 with rfl | h1
  · rcases above_of_call rfl h3 with h | h1
    · exact absurd h (by decide)
    · exact h1
  · exact h1

/-- They share the values, but not the names. -/
theorem Grown.copies_on_write_siblings :
    ∃ (family : Family) (ma mb : KeptBindings), Grown siblings family ∧
      family[2]? = some ma ∧ family[3]? = some mb ∧
      ma.places.values = mb.places.values ∧ ma.places.names ≠ mb.places.names := by
  obtain ⟨family, h⟩ := exists_grown_siblings
  have hlength : family.length = 4 := h.records.length
  have ha : family[2]? = some family[2] := List.getElem?_eq_getElem (by omega)
  have hb : family[3]? = some family[3] := List.getElem?_eq_getElem (by omega)
  obtain ⟨-, hshares⟩ := h.copies_on_write.1 2 3 _ _ ha hb
  obtain ⟨hvalues, hnames⟩ := hshares 1 _ _ meet_siblings (.down .here rfl) (.down .here rfl)
  refine ⟨family, _, _, h, ha, hb, hvalues.mpr (by decide), fun heq => ?_⟩
  exact absurd (hnames.mp heq) (by decide)

end Family

end Dynamo
