import Dynamo.Output
import Dynamo.Proofs.Dict
import Dynamo.Proofs.Except
import Dynamo.Proofs.Wire.Codec

/-! # Values that a shape can write

Writing fails only at documents without a wire form. `Shape.Writes` says of a value that a shape
writes it, and there is one law for each way of making shapes.

* `Document.HasWireForm`: the document can travel.
* `KeysAndAttributes.writes_shape`, `WriteRequest.writes_shape`: the entries of batches are written
  if and only if their documents can travel. -/

namespace Dynamo

open Dynamo.Except

/-- The document can travel. -/
def Document.HasWireForm (m : Document) : Prop := ∃ ws, m.toWire = .ok ws

/-- A document can travel if no list within it has an empty list or set as an item. -/
theorem Document.hasWireForm_iff {m : Document} :
    m.HasWireForm ↔ (Value.document m).NoEmptyItem := by
  rw [HasWireForm, toWire, ← Value.exists_toWire_document, Value.exists_toWire_iff]
  exact ⟨fun h => h.2, fun h => ⟨rfl, h⟩⟩

/-- The shape writes the value. -/
def Shape.Writes {α : Type} (s : Shape α) (a : α) : Prop := ∃ j, s.write a = .ok j

/-- The record writes the members of the value. -/
def Fields.Writes {α : Type} (r : Fields α) (a : α) : Prop := ∃ ms, r.write a = .ok ms

theorem Document.exists_toJson {m : Document} : (∃ j, m.toJson = .ok j) ↔ m.HasWireForm :=
  exists_map_eq_ok

namespace Shape

variable {α β : Type}

theorem writes_total (write : α → Json) (read : Json → Except ReadError α) (a : α) :
    (total write read).Writes a := ⟨_, rfl⟩

theorem writes_document {m : Document} : document.Writes m ↔ m.HasWireForm :=
  Document.exists_toJson

theorem writes_option {s : Shape α} {o : Option α} :
    s.option.Writes o ↔ ∀ a ∈ o, s.Writes a := by
  cases o with
  | none => exact ⟨fun _ a ha => absurd ha (by simp), fun _ => ⟨_, rfl⟩⟩
  | some a =>
    simp only [Option.mem_some_iff, forall_eq']
    rfl

theorem writes_list {s : Shape α} {items : List α} :
    s.list.Writes items ↔ ∀ a ∈ items, s.Writes a :=
  exists_bind_pure_eq_ok.trans exists_mapM_eq_ok

theorem writes_dict {s : Shape α} {m : Dict α} :
    s.dict.Writes m ↔ ∀ e ∈ m.entries, s.Writes e.2 := by
  have hentry : ∀ e : String × α,
      (∃ f, (do return (e.1, ← s.write e.2) : Except EncodeError (String × Json)) = .ok f) ↔
        s.Writes e.2 := fun e => exists_bind_pure_eq_ok
  simp only [← hentry]
  exact exists_bind_pure_eq_ok.trans exists_mapM_eq_ok

theorem writes_record {r : Fields α} {a : α} : (record r).Writes a ↔ r.Writes a :=
  exists_bind_pure_eq_ok

end Shape

namespace Fields

variable {α β : Type}

theorem writes_one {m : Member α} {a : α} :
    (one m).Writes a ↔ (m.leftOut a = false → m.shape.Writes a) := by
  unfold Writes
  cases h : m.leftOut a with
  | true => simp [one, h]
  | false =>
    simp only [one, h, Bool.false_eq_true, if_false, true_imp_iff]
    exact exists_bind_pure_eq_ok

theorem writes_and {r : Fields α} {s : Fields β} {a : α × β} :
    (r.and s).Writes a ↔ r.Writes a.1 ∧ s.Writes a.2 := by
  constructor
  · rintro ⟨ms, hms⟩
    obtain ⟨ms₁, h₁, hms⟩ := bind_eq_ok.mp hms
    obtain ⟨ms₂, h₂, -⟩ := bind_eq_ok.mp hms
    exact ⟨⟨ms₁, h₁⟩, ms₂, h₂⟩
  · rintro ⟨⟨ms₁, h₁⟩, ms₂, h₂⟩
    exact ⟨ms₁ ++ ms₂, bind_eq_ok.mpr ⟨ms₁, h₁, bind_eq_ok.mpr ⟨ms₂, h₂, rfl⟩⟩⟩

theorem writes_cons {m : Member α} {s : Fields β} {a : α × β} :
    (cons m s).Writes a ↔ (m.leftOut a.1 = false → m.shape.Writes a.1) ∧ s.Writes a.2 := by
  rw [cons, writes_and, writes_one]

theorem writes_iso {r : Fields α} {parts : β → α} {make : α → β} {b : β} :
    (r.iso parts make).Writes b ↔ r.Writes (parts b) := Iff.rfl

end Fields

/-! ### Entries of batches -/

/-- **Keys to read are written if and only if all of them can travel.** -/
theorem KeysAndAttributes.writes_shape {k : KeysAndAttributes} :
    shape.Writes k ↔ ∀ m ∈ k.keys, m.HasWireForm := by
  rw [shape, Shape.writes_record, Fields.writes_iso, Fields.writes_cons, Fields.writes_cons,
    Fields.writes_cons, Fields.writes_one]
  have hkeys : (Member.required "Keys" Shape.document.list).shape.Writes k.keys ↔
      ∀ m ∈ k.keys, m.HasWireForm := by
    simp only [← Shape.writes_document]
    exact Shape.writes_list
  constructor
  · rintro ⟨h, -⟩
    exact hkeys.mp (h rfl)
  · refine fun h => ⟨fun _ => hkeys.mpr h, fun _ => ?_, fun _ => ?_, fun _ => ?_⟩
    · exact Shape.writes_option.mpr fun _ _ => Shape.writes_total _ _ _
    · exact Shape.writes_dict.mpr fun _ _ => Shape.writes_total _ _ _
    · exact Shape.writes_total _ _ _

namespace WriteRequest

theorem writes_putShape {m : Document} : putShape.Writes m ↔ m.HasWireForm := by
  rw [putShape, Shape.writes_record, Fields.writes_one, ← Shape.writes_document]
  exact ⟨fun h => h rfl, fun h _ => h⟩

theorem writes_deleteShape {m : Document} : deleteShape.Writes m ↔ m.HasWireForm := by
  rw [deleteShape, Shape.writes_record, Fields.writes_one, ← Shape.writes_document]
  exact ⟨fun h => h rfl, fun h _ => h⟩

/-- **A write is written if and only if its document can travel.** -/
theorem writes_shape {w : WriteRequest} : shape.Writes w ↔ w.document.HasWireForm := by
  cases w with
  | put item =>
    rw [document, ← writes_putShape]
    exact exists_bind_pure_eq_ok
  | delete key =>
    rw [document, ← writes_deleteShape]
    exact exists_bind_pure_eq_ok

end WriteRequest

/-! ### Parts of records that are read -/

/-- The member of an object, or the item that stands for it in an array. -/
def Json.part? (name : String) (position : ℕ) : Json → Option Json
  | .obj members => Entries.get? name members
  | .arr items => items[position]?
  | _ => none

/-- Reads a value that may be missing. -/
def Shape.readPart {α : Type} (s : Shape α) : Option Json → Except ReadError (Option α)
  | none => .ok none
  | some j => s.option.read j

/-- A value that may be missing is missing or null, or it is read. -/
theorem Shape.readPart_cases {α : Type} {s : Shape α} {part : Option Json} {o : Option α}
    (h : s.readPart part = .ok o) :
    (o = none ∧ ∀ j, part = some j → j = .null) ∨
      ∃ j a, part = some j ∧ j ≠ .null ∧ s.read j = .ok a ∧ o = some a := by
  cases part with
  | none =>
    obtain rfl := Except.ok.inj h
    exact .inl ⟨rfl, nofun⟩
  | some j =>
    cases j with
    | null =>
      obtain rfl := Except.ok.inj h
      exact .inl ⟨rfl, fun j hj => (Option.some.inj hj).symm⟩
    | _ =>
      obtain ⟨a, ha, rfl⟩ := map_eq_ok.mp h
      exact .inr ⟨_, a, rfl, nofun, ha, rfl⟩

namespace Fields

variable {α β γ : Type}

/-- **The record reads its part `f` from one place.** -/
structure ReadsPart (r : Fields α) (name : String) (position : ℕ) (s : Shape β)
    (f : α → Option β) : Prop where
  ofMembers {members : List (String × Json)} {a : α} (h : r.ofMembers members = .ok a) :
    s.readPart (Entries.get? name members) = .ok (f a)
  ofItems {items rest : List Json} {a : α} (h : r.ofItems items = .ok (a, rest)) :
    s.readPart items[position]? = .ok (f a)

theorem ofMembers_optional {name : String} {s : Shape β} {members : List (String × Json)}
    {b : Option β} (h : (one (.optional name s)).ofMembers members = .ok b) :
    s.readPart (Entries.get? name members) = .ok b := by
  have hfilter : members.filter (fun e => (Member.optional name s).answersTo e.1) =
      members.filter fun e => e.1 = name := by
    refine List.filter_congr fun e _ => ?_
    simp only [Member.answersTo, Member.optional, Member.nullable, List.contains_nil, Bool.or_false]
    exact decide_eq_decide.mpr eq_comm
  unfold one at h
  dsimp only at h
  rw [hfilter] at h
  rw [Entries.get?_eq_head?]
  split at h
  · next hnil =>
    rw [hnil]
    exact h
  · next e hone =>
    rw [hone]
    exact h
  · exact absurd h nofun

theorem ofItems_optional {name : String} {s : Shape β} {items rest : List Json}
    {b : Option β} (h : (one (.optional name s)).ofItems items = .ok (b, rest)) :
    s.readPart items[0]? = .ok b := by
  cases items with
  | nil =>
    obtain ⟨rfl, -⟩ := Prod.mk.inj (Except.ok.inj h)
    rfl
  | cons j js =>
    obtain ⟨b', hb, h⟩ := bind_eq_ok.mp h
    obtain ⟨rfl, -⟩ := Prod.mk.inj (pure_eq_ok.mp h)
    exact hb

theorem readsPart_head (name : String) (s : Shape β) (r : Fields γ) :
    (cons (.optional name s) r).ReadsPart name 0 s Prod.fst where
  ofMembers h := by
    obtain ⟨b, hb, h⟩ := bind_eq_ok.mp h
    obtain ⟨c, -, h⟩ := bind_eq_ok.mp h
    obtain rfl := pure_eq_ok.mp h
    exact ofMembers_optional hb
  ofItems h := by
    obtain ⟨⟨b, items'⟩, hb, h⟩ := bind_eq_ok.mp h
    obtain ⟨⟨c, rest'⟩, -, h⟩ := bind_eq_ok.mp h
    obtain ⟨rfl, -⟩ := Prod.mk.inj (pure_eq_ok.mp h)
    exact ofItems_optional hb

theorem readsPart_last (name : String) (s : Shape β) :
    (one (.optional name s)).ReadsPart name 0 s id :=
  ⟨ofMembers_optional, ofItems_optional⟩

/-- A member in front moves the place by one. -/
theorem ReadsPart.cons {r : Fields α} {name : String} {position : ℕ} {s : Shape β}
    {f : α → Option β} (h : r.ReadsPart name position s f) (m : Member γ) :
    (Fields.cons m r).ReadsPart name (position + 1) s fun a => f a.2 where
  ofMembers hread := by
    obtain ⟨b, -, hread⟩ := bind_eq_ok.mp hread
    obtain ⟨c, hc, hread⟩ := bind_eq_ok.mp hread
    obtain rfl := pure_eq_ok.mp hread
    exact h.ofMembers hc
  ofItems {items rest a} hread := by
    obtain ⟨⟨b, items'⟩, hb, hread⟩ := bind_eq_ok.mp hread
    obtain ⟨⟨c, rest'⟩, hc, hread⟩ := bind_eq_ok.mp hread
    obtain ⟨rfl, -⟩ := Prod.mk.inj (pure_eq_ok.mp hread)
    have hitems : items[position + 1]? = items'[position]? := by
      cases items with
      | nil =>
        unfold one at hb
        dsimp only at hb
        split at hb
        · obtain ⟨-, rfl⟩ := Prod.mk.inj (Except.ok.inj hb)
          rfl
        · exact absurd hb nofun
      | cons j js =>
        obtain ⟨b', -, hb⟩ := bind_eq_ok.mp hb
        obtain ⟨-, rfl⟩ := Prod.mk.inj (pure_eq_ok.mp hb)
        rfl
    rw [hitems]
    exact h.ofItems hc

theorem ReadsPart.iso {r : Fields α} {name : String} {position : ℕ} {s : Shape β}
    {f : α → Option β} (h : r.ReadsPart name position s f) {parts : γ → α} {make : α → γ}
    {g : γ → Option β} (hg : ∀ a, g (make a) = f a) :
    (r.iso parts make).ReadsPart name position s g where
  ofMembers hread := by
    obtain ⟨a, ha, rfl⟩ := map_eq_ok.mp hread
    rw [hg]
    exact h.ofMembers ha
  ofItems hread := by
    obtain ⟨⟨a, rest'⟩, ha, hread⟩ := map_eq_ok.mp hread
    obtain ⟨rfl, -⟩ := Prod.mk.inj hread
    rw [hg]
    exact h.ofItems ha

/-- What a record that was read says in its part `f` stands at the place of the part. -/
theorem ReadsPart.record {r : Fields α} {name : String} {position : ℕ} {s : Shape β}
    {f : α → Option β} (h : r.ReadsPart name position s f) {j : Json} {a : α}
    (hread : (Shape.record r).read j = .ok a) :
    s.readPart (j.part? name position) = .ok (f a) := by
  cases j with
  | obj members => exact h.ofMembers hread
  | arr items =>
    obtain ⟨⟨a', rest⟩, ha, hread⟩ := bind_eq_ok.mp hread
    dsimp only at hread
    split at hread
    · obtain rfl := Except.ok.inj hread
      exact h.ofItems ha
    · exact absurd hread nofun
  | _ => exact absurd hread nofun

end Fields

theorem Shape.ofBytes_eq_ok {α : Type} {s : Shape α} {bs : Bytes} {a : α} :
    s.ofBytes bs = .ok a ↔ s.read (Json.reading Json.maxDepth bs).value = .ok a ∧
      (Json.reading Json.maxDepth bs).complete = true := by
  unfold ofBytes
  dsimp only
  rw [bind_eq_ok]
  cases (Json.reading Json.maxDepth bs).complete with
  | true => simp [pure_eq_ok]
  | false => simp

/-- Of a text that is JSON to its end, the value counts. -/
theorem Shape.ofBytes_eq_read {α : Type} {s : Shape α} {bs : Bytes} {j : Json}
    (h : Json.ofBytes? bs = some j) : s.ofBytes bs = s.read j := by
  unfold Json.ofBytes? at h
  dsimp only at h
  split at h
  · next hcomplete =>
    obtain rfl := Option.some.inj h
    unfold ofBytes
    dsimp only
    rw [hcomplete]
    cases s.read (Json.reading Json.maxDepth bs).value <;> rfl
  · exact absurd h nofun

/-- Where a page of items says where the next one starts. -/
theorem PageOutput.readPart_lastEvaluatedKey {j : Json} {page : PageOutput}
    (h : shape.read j = .ok page) :
    Shape.document.readPart (j.part? "LastEvaluatedKey" 3) = .ok page.lastEvaluatedKey :=
  Fields.ReadsPart.record (f := lastEvaluatedKey)
    (.iso (.cons (.cons (.cons (Fields.readsPart_head _ _ _) _) _) _) fun _ => rfl) h

/-- Where a page of table names says where the next one starts. -/
theorem ListTablesOutput.readPart_lastEvaluatedTableName {j : Json} {page : ListTablesOutput}
    (h : shape.read j = .ok page) :
    Shape.string.readPart (j.part? "LastEvaluatedTableName" 1) =
      .ok page.lastEvaluatedTableName :=
  Fields.ReadsPart.record (f := lastEvaluatedTableName)
    (.iso (.cons (Fields.readsPart_last _ _) _) fun _ => rfl) h

end Dynamo
