import Dynamo.Proofs.Request.Pager
import Dynamo.Proofs.Shape.ReadBack
import Mathlib.Algebra.BigOperators.Group.Finset.Basic
import Mathlib.Algebra.Order.BigOperators.Group.Finset

/-! # Batches of reads and of writes

The two kinds of batches ask different things of a table, but are sent, answered and tried again in
the same way. `BatchKind` names what they have in common; what is proved of both is proved here by
looking at each once.

* `BatchKind.Built`: the requests that there are.
* `BatchKind.held_rest`: the batch for what an answer leaves holds all of it.
* `BatchKind.tables_rest_sublist`: its tables stand there in the order of the request. -/

namespace Dynamo

open Dynamo.Except

/-! ### Parts in the order of a request -/

namespace PerTable

variable {α : Type}

theorem get?_filterMap (order : List String) (m : Dict α) (table : String) :
    get? table (order.filterMap fun t => (m.get? t).map fun a => (t, a)) =
      if table ∈ order then m.get? table else none := by
  unfold get?
  induction order with
  | nil => rfl
  | cons t order ih =>
    cases ht : m.get? t with
    | none =>
      rw [List.filterMap_cons_none (by rw [ht]; rfl), ih]
      by_cases h : table = t
      · subst h
        simp [ht]
      · simp [h]
    | some a =>
      rw [List.filterMap_cons_some (by rw [ht]; rfl), Entries.get?, ih]
      by_cases h : table = t
      · subst h
        simp [ht]
      · simp [h]

/-- Whatever the order, all parts are there. -/
theorem get?_arrange (order : List String) (m : Dict α) (table : String) :
    get? table (arrange order m) = m.get? table := by
  unfold arrange
  rw [get?, Entries.get?_append, ← get?, ← get?, get?_filterMap, get?,
    Entries.get?_filter (Entries.nodup_keys_of_sorted m.sorted)]
  show ((m.get? table).filter _).or _ = _
  by_cases h : table ∈ order
  · simp [h]
  · cases m.get? table <;> simp [h, Option.filter]

theorem tables_filterMap_sublist (order : List String) (m : Dict α) :
    (tables (order.filterMap fun t => (m.get? t).map fun a => (t, a))).Sublist order := by
  unfold tables
  induction order with
  | nil => exact .slnil
  | cons t order ih =>
    cases ht : m.get? t with
    | none =>
      rw [List.filterMap_cons_none (by rw [ht]; rfl)]
      exact ih.cons t
    | some a =>
      rw [List.filterMap_cons_some (by rw [ht]; rfl), List.map_cons]
      exact ih.cons_cons t

theorem nodup_tables_arrange {order : List String} (h : order.Nodup) (m : Dict α) :
    (tables (arrange order m)).Nodup := by
  have hrest := (tables_filterMap_sublist order m)
  have hfront : ((m.entries.filter fun e => !order.contains e.1).map (·.1)).Nodup :=
    (Entries.nodup_keys_of_sorted m.sorted).sublist (List.filter_sublist.map _)
  unfold arrange
  rw [tables, List.map_append, List.nodup_append]
  refine ⟨hfront, h.sublist hrest, fun a ha b hb heq => ?_⟩
  obtain ⟨e, he, rfl⟩ := List.mem_map.mp ha
  have hnot : e.1 ∉ order := by simpa using (List.mem_filter.mp he).2
  exact hnot (hrest.subset (heq ▸ hb))

end PerTable

/-- A kind of batch. -/
inductive BatchKind where
  | get
  | write

namespace BatchKind

def operation : BatchKind → DataOperation
  | .get => .batchGet
  | .write => .batchWrite

abbrev Request (k : BatchKind) : Type := k.operation.Request

abbrev Output (k : BatchKind) : Type := k.operation.Output

/-- What is asked of one table. -/
def Part : BatchKind → Type
  | .get => KeysAndAttributes
  | .write => List WriteRequest

/-- What is done or left as a whole: the read of a key, or a write. -/
def Item : BatchKind → Type
  | .get => Document
  | .write => WriteRequest

/-- The keys or writes for a table. -/
def items : (k : BatchKind) → k.Part → List k.Item
  | .get, (p : KeysAndAttributes) => p.keys
  | .write, (p : List WriteRequest) => p

/-- The key, or the document that a write is about. -/
def document : (k : BatchKind) → k.Item → Document
  | .get, (key : Document) => key
  | .write, (w : WriteRequest) => w.document

def shape : (k : BatchKind) → Shape k.Part
  | .get => KeysAndAttributes.shape
  | .write => WriteRequest.shape.list

def batch : (k : BatchKind) → k.Request → PerTable k.Part
  | .get, (r : BatchGetRequest) => r.batch
  | .write, (r : BatchWriteRequest) => r.batch

/-- What a request asks to be told of the capacity. -/
def capacity? : (k : BatchKind) → k.Request → Option CapacityDetail
  | .get, (r : BatchGetRequest) => r.returnConsumedCapacity
  | .write, (r : BatchWriteRequest) => r.returnConsumedCapacity

def unprocessed : (k : BatchKind) → k.Output → Dict k.Part
  | .get, (o : BatchGetOutput) => o.unprocessedKeys
  | .write, (o : BatchWriteOutput) => o.unprocessedItems

/-- The member of an answer that says what is left. -/
def unprocessedName : BatchKind → String
  | .get => "UnprocessedKeys"
  | .write => "UnprocessedItems"

def retry? : (k : BatchKind) → k.Request → k.Output → Option k.Request
  | .get, (r : BatchGetRequest), (o : BatchGetOutput) => r.retry? o
  | .write, (r : BatchWriteRequest), (o : BatchWriteOutput) => r.retry? o

/-- How many keys or writes there are. -/
def length : (k : BatchKind) → k.Request → ℕ
  | .get, (r : BatchGetRequest) => r.documents.length
  | .write, (r : BatchWriteRequest) => r.length

/-- Requests for batches, answered and tried again. -/
def pager (k : BatchKind) : Pager k.Request k.Output := ⟨k.operation.execute, k.retry?⟩

/-! ### Requests -/

def Setting : BatchKind → Type
  | .get => BatchGetSetting
  | .write => BatchWriteSetting

def new : (k : BatchKind) → k.Request
  | .get => ({} : BatchGetRequest)
  | .write => ({} : BatchWriteRequest)

def set : (k : BatchKind) → k.Request → k.Setting → k.Request
  | .get, (r : BatchGetRequest), (s : BatchGetSetting) => r.set s
  | .write, (r : BatchWriteRequest), (s : BatchWriteSetting) => r.set s

/-- **The requests that there are**: made by settings, or for what an answer left. -/
inductive Built (k : BatchKind) : k.Request → Prop
  | new : Built k k.new
  | set {r : k.Request} (s : k.Setting) : Built k r → Built k (k.set r s)
  | retry {r r' : k.Request} {o : k.Output} : Built k r → k.retry? r o = some r' → Built k r'

variable {k : BatchKind}

/-- The tables of which an answer left something, in the order of the request. -/
def rest (k : BatchKind) (r : k.Request) (m : Dict k.Part) : PerTable k.Part :=
  (PerTable.arrange (k.batch r).tables m).filter fun e => !(k.items e.2).isEmpty

theorem retry?_eq (r : k.Request) (o : k.Output) :
    (k.rest r (k.unprocessed o) = [] ∧ k.retry? r o = none) ∨
      (k.rest r (k.unprocessed o) ≠ [] ∧ ∃ r', k.retry? r o = some r' ∧
        k.batch r' = k.rest r (k.unprocessed o) ∧ k.capacity? r' = k.capacity? r ∧
        k.operation.fault? r' = none) := by
  by_cases h : k.rest r (k.unprocessed o) = []
  · refine .inl ⟨h, ?_⟩
    cases k with
    | get => exact if_pos (List.isEmpty_iff.mpr h)
    | write => exact if_pos (List.isEmpty_iff.mpr h)
  · refine .inr ⟨h, ?_⟩
    cases k with
    | get => exact ⟨_, if_neg (mt List.isEmpty_iff.mp h), rfl, rfl, rfl⟩
    | write => exact ⟨_, if_neg (mt List.isEmpty_iff.mp h), rfl, rfl, rfl⟩

theorem toJson_eq (r : k.Request) :
    k.operation.toJson (k.operation.input r) = (do
      let items ← k.shape.dict.write (.ofList (k.batch r))
      return .obj ([("RequestItems", items)] ++ capacityMember (k.capacity? r))) := by
  cases k with
  | get => rfl
  | write => rfl

theorem holds_iff {r : k.Request} {m : Document} :
    k.operation.Holds r m ↔ ∃ e ∈ k.batch r, ∃ i ∈ k.items e.2, k.document i = m := by
  cases k with
  | get =>
    refine exists_congr fun e => and_congr_right fun _ => ?_
    exact ⟨fun hm => ⟨m, hm, rfl⟩, by rintro ⟨i, hi, rfl⟩; exact hi⟩
  | write =>
    refine exists_congr fun e => and_congr_right fun _ => ?_
    constructor
    · rintro (hw | hw)
      · exact ⟨_, hw, rfl⟩
      · exact ⟨_, hw, rfl⟩
    · rintro ⟨w, hw, rfl⟩
      cases w with
      | put item => exact .inl hw
      | delete key => exact .inr hw

theorem readOutput_eq (i : k.operation.Input) (response : Bytes) :
    k.operation.readOutput i response = Exchange.reading k.operation.outputShape response := by
  cases k with
  | get => rfl
  | write => rfl

theorem carries_shape {p : k.Part} (h : ∀ i ∈ k.items p, (k.document i).Sound) :
    k.shape.Carries p p := by
  cases k with
  | get => exact KeysAndAttributes.carries_of_sound h
  | write => exact Shape.carries_list_self fun w hw => WriteRequest.carries_of_sound (h w hw)

theorem length_eq (r : k.Request) :
    k.length r = (k.batch r).foldr (fun e n => (k.items e.2).length + n) 0 := by
  cases k with
  | get =>
    refine List.length_flatMap.trans ?_
    rw [List.sum, List.foldr_map]
    rfl
  | write => rfl

theorem nodup_tables_set {r : k.Request} (h : (k.batch r).tables.Nodup) (s : k.Setting) :
    (k.batch (k.set r s)).tables.Nodup := by
  cases k with
  | get =>
    cases s with
    | get table keys => exact PerTable.nodup_tables_modify _ _ _ h
    | projection table text names =>
      show (BatchGetRequest.set r (.projection table text names)).batch.tables.Nodup
      unfold BatchGetRequest.set
      dsimp only
      split
      · exact PerTable.nodup_tables_modify _ _ _ h
      · exact PerTable.nodup_tables_modify _ _ _ h
    | consistentRead table consistent => exact PerTable.nodup_tables_modify _ _ _ h
    | returnConsumedCapacity detail => exact h
  | write =>
    cases s with
    | put table items => exact PerTable.nodup_tables_modify _ _ _ h
    | delete table keys => exact PerTable.nodup_tables_modify _ _ _ h
    | returnConsumedCapacity detail => exact h

theorem nodup_tables_rest {r : k.Request} (h : (k.batch r).tables.Nodup) (m : Dict k.Part) :
    (k.rest r m).tables.Nodup :=
  (PerTable.nodup_tables_arrange h m).sublist (List.filter_sublist.map _)

/-- No request mentions a table twice. -/
theorem Built.nodup_tables {r : k.Request} (h : k.Built r) : (k.batch r).tables.Nodup := by
  induction h with
  | new =>
    cases k with
    | get => exact List.nodup_nil
    | write => exact List.nodup_nil
  | set s _ ih => exact nodup_tables_set ih s
  | @retry r r' o _ hretry ih =>
    rcases retry?_eq r o with ⟨-, hnone⟩ | ⟨-, r'', hsome, hbatch, -⟩
    · exact absurd (hretry.symm.trans hnone) nofun
    · obtain rfl := Option.some.inj (hretry.symm.trans hsome)
      rw [hbatch]
      exact nodup_tables_rest ih _

/-! ### What is held -/

/-- **The keys or writes for a table**, in whatever order. -/
def held (k : BatchKind) (b : PerTable k.Part) (table : String) : Multiset k.Item :=
  (b.get? table).elim 0 fun p => ↑(k.items p)

theorem held_eq_zero_of_notMem {b : PerTable k.Part} {table : String} (h : table ∉ b.tables) :
    k.held b table = 0 := by
  have hnone : b.get? table = none := by
    refine Entries.get?_eq_none_of_forall_ne fun e he heq => h ?_
    exact heq ▸ List.mem_map_of_mem he
  rw [held, hnone]
  rfl

theorem get?_of_mem {b : PerTable k.Part} (h : b.tables.Nodup) {e : String × k.Part} (he : e ∈ b) :
    b.get? e.1 = some e.2 :=
  (Entries.last?_eq_get? h e.1).symm.trans (Entries.last?_of_mem h he)

theorem held_of_mem {b : PerTable k.Part} (h : b.tables.Nodup) {e : String × k.Part} (he : e ∈ b) :
    k.held b e.1 = ↑(k.items e.2) := by
  rw [held, get?_of_mem h he]
  rfl

theorem holds_iff_held {r : k.Request} (h : (k.batch r).tables.Nodup) {m : Document} :
    k.operation.Holds r m ↔ ∃ table, ∃ i ∈ k.held (k.batch r) table, k.document i = m := by
  rw [holds_iff]
  constructor
  · rintro ⟨e, he, i, hi, hm⟩
    exact ⟨e.1, i, by rw [held_of_mem h he]; exact hi, hm⟩
  · rintro ⟨table, i, hi, hm⟩
    unfold held at hi
    cases hget : (k.batch r).get? table with
    | none =>
      rw [hget] at hi
      exact absurd hi (Multiset.notMem_zero i)
    | some p =>
      rw [hget] at hi
      exact ⟨(table, p), Entries.mem_of_get? hget, i, hi, hm⟩

/-- How much of a batch it is that was done. -/
def amount (k : BatchKind) (r : k.Request) (done : String → Multiset k.Item) : ℕ :=
  ∑ table ∈ (k.batch r).tables.toFinset, (done table).card

theorem amount_add (r : k.Request) (done done' : String → Multiset k.Item) :
    k.amount r (fun table => done table + done' table) = k.amount r done + k.amount r done' := by
  simp only [amount, Multiset.card_add, Finset.sum_add_distrib]

theorem amount_le_of_le {r : k.Request} {done done' : String → Multiset k.Item}
    (h : ∀ table, done table ≤ done' table) : k.amount r done ≤ k.amount r done' :=
  Finset.sum_le_sum fun table _ => Multiset.card_le_card (h table)

theorem one_le_amount {r : k.Request} {done : String → Multiset k.Item} {table : String}
    (htable : table ∈ (k.batch r).tables) (h : done table ≠ 0) : 1 ≤ k.amount r done :=
  calc 1 ≤ (done table).card := Multiset.card_pos.mpr h
    _ ≤ k.amount r done :=
      Finset.single_le_sum (f := fun t => (done t).card) (fun _ _ => Nat.zero_le _)
        (List.mem_toFinset.mpr htable)

theorem length_eq_amount {r : k.Request} (h : (k.batch r).tables.Nodup) :
    k.length r = k.amount r (k.held (k.batch r)) := by
  have hparts : (k.batch r).map (fun e => (k.held (k.batch r) e.1).card) =
      (k.batch r).map fun e => (k.items e.2).length :=
    List.map_congr_left fun e he => by rw [held_of_mem h he, Multiset.coe_card]
  rw [length_eq, amount, List.sum_toFinset _ h, PerTable.tables, List.map_map, Function.comp_def,
    hparts, List.sum, List.foldr_map]

/-! ### What is left -/

theorem get?_ofList {left : PerTable k.Part} (h : left.tables.Nodup) (table : String) :
    (Dict.ofList left).get? table = left.get? table :=
  (Entries.get?_ofList table left).trans (Entries.last?_eq_get? h table)

variable {r : k.Request} {left : PerTable k.Part}

theorem get?_rest (hr : (k.batch r).tables.Nodup) (h : left.tables.Nodup) (table : String) :
    (k.rest r (.ofList left)).get? table =
      (left.get? table).filter fun p => !(k.items p).isEmpty := by
  rw [rest, PerTable.get?, Entries.get?_filter (PerTable.nodup_tables_arrange hr _), ← PerTable.get?,
    PerTable.get?_arrange, get?_ofList h]

/-- **Nothing of what is left is lost or changed.** -/
theorem held_rest (hr : (k.batch r).tables.Nodup) (h : left.tables.Nodup) (table : String) :
    k.held (k.rest r (.ofList left)) table = k.held left table := by
  rw [held, held, get?_rest hr h]
  cases left.get? table with
  | none => rfl
  | some p =>
    cases hp : k.items p with
    | nil => simp [Option.filter, hp]
    | cons i is => simp [Option.filter, hp]

theorem rest_eq_nil_iff (hr : (k.batch r).tables.Nodup) (h : left.tables.Nodup) :
    k.rest r (.ofList left) = [] ↔ ∀ table, k.held left table = 0 := by
  constructor
  · intro hnil table
    rw [← held_rest hr h, hnil]
    rfl
  · intro hzero
    refine List.eq_nil_iff_forall_not_mem.mpr fun e he => ?_
    have hitems := hzero e.1
    rw [← held_rest hr h, held_of_mem (nodup_tables_rest hr _) he, Multiset.coe_eq_zero] at hitems
    have hsome := (List.mem_filter.mp he).2
    rw [hitems] at hsome
    exact absurd hsome nofun

/-- If nothing is left but of tables of the request, they keep their order. -/
theorem tables_rest_sublist (h : left.tables.Nodup)
    (hknown : ∀ table ∉ (k.batch r).tables, k.held left table = 0) :
    (k.rest r (.ofList left)).tables.Sublist (k.batch r).tables := by
  unfold rest PerTable.arrange
  rw [List.filter_append]
  -- of the tables that the request does not mention nothing is left
  have hfront : ((Dict.ofList left).entries.filter fun e =>
      !(k.batch r).tables.contains e.1).filter (fun e => !(k.items e.2).isEmpty) = [] := by
    refine List.filter_eq_nil_iff.mpr fun e he => ?_
    obtain ⟨he, hnot⟩ := List.mem_filter.mp he
    have hzero := hknown e.1 (by simpa using hnot)
    rw [held_of_mem h (Entries.mem_of_mem_ofList he), Multiset.coe_eq_zero] at hzero
    simp [hzero]
  rw [hfront, List.nil_append]
  exact (List.filter_sublist.map _).trans (PerTable.tables_filterMap_sublist _ _)

end BatchKind

end Dynamo
