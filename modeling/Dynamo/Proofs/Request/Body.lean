import Dynamo.Proofs.Json.Normal
import Dynamo.Proofs.Shape
import Dynamo.Request.Data

/-! # Bodies of requests

The body of a request can be written if all documents in it can travel (`ItemInput.exists_toJson`,
`BatchGetInput.exists_toJson`, `BatchWriteInput.exists_toJson`). In the body of a request about items
one member says where to start, and setting it changes no other (`ItemInput.toJson_startAt`). -/

namespace Dynamo

open Dynamo.Except

/-! ### Members that may be left out -/

theorem name_of_mem_optionMember {α : Type} {name : String} {f : α → Json} {o : Option α}
    {e : String × Json} (h : e ∈ optionMember name f o) : e.1 = name := by
  cases o with
  | none => exact absurd h List.not_mem_nil
  | some a =>
    obtain rfl := List.mem_singleton.mp h
    rfl

theorem ne_of_mem_optionMember {α : Type} {name name' : String} {f : α → Json} {o : Option α}
    (h : name ≠ name') : ∀ e ∈ optionMember name f o, e.1 ≠ name' :=
  fun _ he => by rwa [name_of_mem_optionMember he]

theorem ItemInput.exists_documentMember {name : String} {o : Option Document} :
    (∃ ms, documentMember name o = .ok ms) ↔ ∀ m ∈ o, m.HasWireForm := by
  cases o with
  | none => exact ⟨fun _ m hm => absurd hm (by simp), fun _ => ⟨_, rfl⟩⟩
  | some m =>
    simp only [Option.mem_some_iff, forall_eq', ← Document.exists_toJson]
    exact exists_bind_pure_eq_ok

theorem ItemInput.name_of_documentMember {name : String} {o : Option Document}
    {ms : List (String × Json)} (h : documentMember name o = .ok ms) : ∀ e ∈ ms, e.1 = name := by
  cases o with
  | none =>
    obtain rfl := pure_eq_ok.mp h
    exact fun e he => absurd he List.not_mem_nil
  | some m =>
    obtain ⟨j, -, h⟩ := bind_eq_ok.mp h
    obtain rfl := pure_eq_ok.mp h
    exact fun e he => by rw [List.mem_singleton.mp he]

theorem Bindings.exists_members {b : Bindings} (h : b.values.HasWireForm) :
    ∃ ms, b.members = .ok ms := by
  unfold members
  cases b.values.isEmpty with
  | true => exact ⟨_, rfl⟩
  | false =>
    obtain ⟨j, hj⟩ := Document.exists_toJson.mpr h
    rw [hj]
    exact ⟨_, rfl⟩

theorem Bindings.name_of_members {b : Bindings} {ms : List (String × Json)}
    (h : b.members = .ok ms) :
    ∀ e ∈ ms, e.1 = "ExpressionAttributeValues" ∨ e.1 = "ExpressionAttributeNames" := by
  have hnames : ∀ e ∈ (if b.names.isEmpty then []
      else [("ExpressionAttributeNames", Json.ofDict .str b.names)]),
      e.1 = "ExpressionAttributeNames" := by
    intro e he
    split at he
    · exact absurd he List.not_mem_nil
    · rw [List.mem_singleton.mp he]
  unfold members at h
  cases hvalues : b.values.isEmpty with
  | true =>
    rw [hvalues] at h
    obtain rfl := pure_eq_ok.mp h
    exact fun e he => .inr (hnames e he)
  | false =>
    rw [hvalues] at h
    obtain ⟨j, -, h⟩ := bind_eq_ok.mp h
    obtain rfl := pure_eq_ok.mp h
    intro e he
    rcases List.mem_cons.mp he with rfl | he
    · exact .inl rfl
    · exact .inr (hnames e he)

theorem Expressions.name_of_members {x : Expressions} {e : String × Json} (h : e ∈ x.members) :
    ∃ slot : Slot, e.1 = slot.name := by
  obtain ⟨slot, -, he⟩ := List.mem_flatMap.mp h
  exact ⟨slot, name_of_mem_optionMember he⟩

/-! ### Requests about items -/

theorem ItemInput.mem_documents {op : ItemOperation} {i : ItemInput op} {m : Document} :
    m ∈ i.documents ↔ (op.subjectName?.isSome ∧ m = i.subject) ∨ i.exclusiveStartKey = some m ∨
      m = i.bindings.values := by
  have hsubject : i.subject? = some m ↔ op.subjectName?.isSome ∧ m = i.subject := by
    rw [subject?]
    cases op.subjectName? with
    | none => simp
    | some name => simp [eq_comm]
  rw [documents, List.mem_append, List.mem_append, Option.mem_toList, Option.mem_toList,
    List.mem_singleton, or_assoc]
  exact or_congr hsubject Iff.rfl

theorem ItemInput.exists_toJson {op : ItemOperation} {i : ItemInput op}
    (h : ∀ m ∈ i.documents, m.HasWireForm) : ∃ j, i.toJson = .ok j := by
  have hsubject : ∀ m ∈ i.subject?, m.HasWireForm := fun m hm => h m (by
    rw [documents, List.append_assoc, List.mem_append, Option.mem_toList]
    exact .inl hm)
  have hstart : ∀ m ∈ i.exclusiveStartKey, m.HasWireForm := fun m hm => h m (by
    rw [mem_documents]
    exact .inr (.inl hm))
  have hvalues : i.bindings.values.HasWireForm := h _ (by
    rw [mem_documents]
    exact .inr (.inr rfl))
  obtain ⟨subject, hsubject⟩ := exists_documentMember.mpr hsubject
  obtain ⟨start, hstart⟩ := exists_documentMember.mpr hstart
  obtain ⟨bound, hbound⟩ := Bindings.exists_members hvalues
  rw [toJson, members, hsubject, hstart, hbound]
  exact ⟨_, rfl⟩

namespace ItemInput

variable {op : ItemOperation}

/-- The body with another start. -/
def startAt (key : Document) (i : ItemInput op) : ItemInput op :=
  { i with exclusiveStartKey := some key }

/-- The members that stand before the one that says where to start. -/
def membersBefore (i : ItemInput op) (subject : List (String × Json)) : List (String × Json) :=
  [("TableName", .str i.tableName)] ++ subject ++ optionMember "IndexName" .str i.indexName ++
    i.expressions.members ++ optionMember "Select" (fun s => .str s.name) i.select ++
    optionMember "Limit" (fun n => .ofInt n.toNat) i.limit ++
    (if i.consistentRead then [("ConsistentRead", .bool true)] else []) ++
    optionMember "ScanIndexForward" .bool i.scanIndexForward ++
    optionMember "Segment" (fun s => .ofInt s.index.toNat) i.segment ++
    optionMember "TotalSegments" (fun s => .ofInt s.total.toNat) i.segment

/-- The members that stand after it. -/
def membersAfter (i : ItemInput op) (bound : List (String × Json)) : List (String × Json) :=
  optionMember "ReturnValues" (fun v => .str v.name) i.returnValues ++
    capacityMember i.returnConsumedCapacity ++ bound

theorem members_eq (i : ItemInput op) :
    i.members = (do
      let subject ← documentMember (op.subjectName?.getD "") i.subject?
      let start ← documentMember "ExclusiveStartKey" i.exclusiveStartKey
      let bound ← i.bindings.members
      return i.membersBefore subject ++ start ++ i.membersAfter bound) := by
  unfold members membersBefore membersAfter
  simp only [List.append_assoc]

/-- The names of the members that stand before the one that says where to start. -/
def leadingNames : List String :=
  ["TableName", "Item", "Key", "IndexName", "Select", "Limit", "ConsistentRead", "ScanIndexForward",
    "Segment", "TotalSegments"] ++ Slot.all.map Slot.name

theorem name_of_membersBefore {i : ItemInput op} {subject : List (String × Json)}
    (h : documentMember (op.subjectName?.getD "") i.subject? = .ok subject) :
    ∀ e ∈ i.membersBefore subject, e.1 ∈ leadingNames := by
  have hoption : ∀ {α : Type} {name : String} {f : α → Json} {o : Option α},
      name ∈ leadingNames → ∀ e ∈ optionMember name f o, e.1 ∈ leadingNames := by
    intro α name f o hname e he
    rwa [name_of_mem_optionMember he]
  unfold membersBefore
  simp only [List.forall_mem_append]
  refine ⟨⟨⟨⟨⟨⟨⟨⟨⟨?_, ?_⟩, hoption (by decide)⟩, ?_⟩, hoption (by decide)⟩, hoption (by decide)⟩,
    ?_⟩, hoption (by decide)⟩, hoption (by decide)⟩, hoption (by decide)⟩
  · exact List.forall_mem_singleton.mpr (by decide : "TableName" ∈ leadingNames)
  · intro e he
    have hname := name_of_documentMember h e he
    cases op with
    | query | scan =>
      obtain rfl := pure_eq_ok.mp h
      exact absurd he List.not_mem_nil
    | put | get | update | delete =>
      rw [hname]
      decide
  · intro e he
    obtain ⟨slot, hslot⟩ := Expressions.name_of_members he
    rw [hslot]
    cases slot <;> decide
  · intro e he
    split at he
    · rw [List.mem_singleton.mp he]
      decide
    · exact absurd he List.not_mem_nil

theorem ne_of_mem_membersBefore {i : ItemInput op} {subject : List (String × Json)} {name : String}
    (hname : name ∉ leadingNames)
    (h : documentMember (op.subjectName?.getD "") i.subject? = .ok subject) :
    ∀ e ∈ i.membersBefore subject, e.1 ≠ name :=
  fun e he heq => hname (heq ▸ name_of_membersBefore h e he)

theorem ne_of_mem_membersAfter {i : ItemInput op} {bound : List (String × Json)}
    (h : i.bindings.members = .ok bound) :
    ∀ e ∈ i.membersAfter bound, e.1 ≠ "ExclusiveStartKey" := by
  unfold membersAfter
  simp only [List.forall_mem_append]
  refine ⟨⟨ne_of_mem_optionMember (by decide), ne_of_mem_optionMember (by decide)⟩, ?_⟩
  intro e he
  rcases Bindings.name_of_members h e he with hname | hname
  · rw [hname]
    decide
  · rw [hname]
    decide

/-- **The body with another start is the body with that member set.** -/
theorem toJson_startAt {i : ItemInput op} {body j : Json} {key : Document}
    (h : i.toJson = .ok body) (hkey : key.toJson = .ok j) :
    ∃ body', (i.startAt key).toJson = .ok body' ∧
      ∀ j', j.normal = j'.normal →
        body'.normal = (body.setMember "ExclusiveStartKey" j').normal := by
  obtain ⟨ms, hms, rfl⟩ := map_eq_ok.mp h
  rw [members_eq] at hms
  obtain ⟨subject, hsubject, hms⟩ := bind_eq_ok.mp hms
  obtain ⟨old, hold, hms⟩ := bind_eq_ok.mp hms
  obtain ⟨bound, hbound, hms⟩ := bind_eq_ok.mp hms
  obtain rfl := pure_eq_ok.mp hms
  -- of the three groups of members only the one in the middle depends on the start
  have hsubject' : documentMember (op.subjectName?.getD "") (i.startAt key).subject? =
      .ok subject := hsubject
  have hstart : documentMember "ExclusiveStartKey" (i.startAt key).exclusiveStartKey =
      .ok [("ExclusiveStartKey", j)] := bind_eq_ok.mpr ⟨j, hkey, rfl⟩
  have hbound' : (i.startAt key).bindings.members = .ok bound := hbound
  refine ⟨.obj (i.membersBefore subject ++ [("ExclusiveStartKey", j)] ++ i.membersAfter bound), ?_,
    fun j' hj => ?_⟩
  · rw [toJson, members_eq, hsubject', hstart, hbound']
    rfl
  · exact Json.normal_setMember (ne_of_mem_membersBefore (by decide) hsubject)
      (name_of_documentMember hold) (ne_of_mem_membersAfter hbound) hj

end ItemInput

/-! ### Batches -/

theorem BatchGetInput.exists_toJson {i : BatchGetInput} :
    (∃ j, i.toJson = .ok j) ↔ ∀ e ∈ i.requestItems.entries, ∀ m ∈ e.2.keys, m.HasWireForm := by
  simp only [← KeysAndAttributes.writes_shape]
  exact exists_bind_pure_eq_ok.trans Shape.writes_dict

theorem BatchWriteInput.exists_toJson {i : BatchWriteInput} :
    (∃ j, i.toJson = .ok j) ↔
      ∀ e ∈ i.requestItems.entries, ∀ w ∈ e.2, w.document.HasWireForm := by
  simp only [← WriteRequest.writes_shape, ← Shape.writes_list]
  exact exists_bind_pure_eq_ok.trans Shape.writes_dict

end Dynamo
