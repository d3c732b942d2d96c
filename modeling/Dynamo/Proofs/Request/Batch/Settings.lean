import Dynamo.Proofs.Bindings
import Dynamo.Proofs.Request.Batch

/-! # Settings of batches

Each setting but the one for the capacity is about one table, and changes what is asked of this table
only (`BatchKind.batch_set`). What it gives comes after what was given for the table before
(`BatchKind.items_change`).

The parameters of a projection are to be aliases of strings. If they are, they are added to the aliases
of the table (`BatchGetSetting.get?_names_change`); if not, there is a fault
(`BatchGetSetting.exists_calls`), and the first fault of a batch stays (`BatchGetRequest.fault_set`). -/

namespace Dynamo

open Dynamo.Except

/-! ### What settings say -/

namespace BatchGetSetting

def table? : BatchGetSetting → Option String
  | .get table _ => some table
  | .projection table _ _ => some table
  | .consistentRead table _ => some table
  | .returnConsumedCapacity _ => none

def keys : BatchGetSetting → List Document
  | .get _ keys => keys
  | _ => []

def text? : BatchGetSetting → Option String
  | .projection _ text _ => some text
  | _ => none

def names : BatchGetSetting → List Param
  | .projection _ _ names => names
  | _ => []

def consistent? : BatchGetSetting → Option Bool
  | .consistentRead _ consistent => some consistent
  | _ => none

/-- All parameters are aliases of strings. -/
def Sound (s : BatchGetSetting) : Prop :=
  ∀ p ∈ s.names, p.isName = true ∧ ∃ name, p.value = .string name

/-- **The error that is due to the parameters**: that of the first alias of something else than a
string, and without one that of some parameter which is no alias. -/
def Calls (s : BatchGetSetting) (e : ParamError) : Prop :=
  (∃ before p after, s.names = before ++ p :: after ∧ (∀ q ∈ before, ¬ q.Offends) ∧ p.Offends ∧
    e = .nameNotString p.key p.value.kind) ∨
  ((∀ p ∈ s.names, ¬ p.Offends) ∧ ∃ p ∈ s.names, p.isName = false ∧ e = .valueNotAccepted p.key)

/-- What a setting makes of what is asked of its table. -/
def change : BatchGetSetting → KeysAndAttributes → KeysAndAttributes
  | .get _ keys, p => { p with keys := p.keys ++ keys }
  | .projection _ text names, p =>
    match BatchGetRequest.aliases names with
    | .ok bound =>
      { p with
        projectionExpression := some text
        expressionAttributeNames := p.expressionAttributeNames.insertAll bound.entries }
    | .error _ => { p with projectionExpression := some text }
  | .consistentRead _ consistent, p => { p with consistentRead := consistent }
  | .returnConsumedCapacity _, p => p

end BatchGetSetting

namespace BatchWriteSetting

def table? : BatchWriteSetting → Option String
  | .put table _ => some table
  | .delete table _ => some table
  | .returnConsumedCapacity _ => none

def writes : BatchWriteSetting → List WriteRequest
  | .put _ items => items.map .put
  | .delete _ keys => keys.map .delete
  | .returnConsumedCapacity _ => []

end BatchWriteSetting

namespace BatchKind

/-- The table that a setting is about. -/
def table? : (k : BatchKind) → k.Setting → Option String
  | .get, (s : BatchGetSetting) => s.table?
  | .write, (s : BatchWriteSetting) => s.table?

/-- The keys or writes that a setting gives. -/
def given : (k : BatchKind) → k.Setting → List k.Item
  | .get, (s : BatchGetSetting) => s.keys
  | .write, (s : BatchWriteSetting) => s.writes

/-- What is asked of a table that was only mentioned. -/
def start : (k : BatchKind) → k.Part
  | .get => ({} : KeysAndAttributes)
  | .write => ([] : List WriteRequest)

/-- What a setting makes of what is asked of its table. -/
def change : (k : BatchKind) → k.Setting → k.Part → k.Part
  | .get, (s : BatchGetSetting), (p : KeysAndAttributes) => s.change p
  | .write, (s : BatchWriteSetting), (p : List WriteRequest) => p ++ s.writes

end BatchKind

/-! ### Reads from a table -/

namespace BatchGetSetting

theorem keys_change (s : BatchGetSetting) (p : KeysAndAttributes) :
    (s.change p).keys = p.keys ++ s.keys := by
  cases s with
  | get table keys => rfl
  | projection table text names =>
    unfold change
    dsimp only
    split <;> exact (List.append_nil _).symm
  | _ => exact (List.append_nil _).symm

theorem projectionExpression_change (s : BatchGetSetting) (p : KeysAndAttributes) :
    (s.change p).projectionExpression = s.text?.or p.projectionExpression := by
  cases s with
  | projection table text names =>
    unfold change
    dsimp only
    split <;> rfl
  | _ => rfl

theorem consistentRead_change (s : BatchGetSetting) (p : KeysAndAttributes) :
    (s.change p).consistentRead = s.consistent?.getD p.consistentRead := by
  cases s with
  | projection table text names =>
    unfold change
    dsimp only
    split <;> rfl
  | _ => rfl

end BatchGetSetting

theorem BatchGetRequest.set_projection (r : BatchGetRequest) (table text : String)
    (names : List Param) :
    (r.set (.projection table text names)).batch =
        r.batch.modify {} table (BatchGetSetting.projection table text names).change ∧
      (r.set (.projection table text names)).returnConsumedCapacity = r.returnConsumedCapacity := by
  unfold set BatchGetSetting.change
  dsimp only
  cases aliases names with
  | ok bound => exact ⟨rfl, rfl⟩
  | error e => exact ⟨rfl, rfl⟩

/-! ### Parameters -/

namespace BatchGetSetting

/-- What is wrong with the parameters, if anything is. -/
def fault? (s : BatchGetSetting) : Option ParamError :=
  match BatchGetRequest.aliases s.names with
  | .ok _ => none
  | .error e => some e

theorem Sound.not_offends {s : BatchGetSetting} (h : s.Sound) : ∀ p ∈ s.names, ¬ p.Offends :=
  fun p hp => Param.not_offends_iff.mpr fun _ => (h p hp).2

theorem Sound.filter_isName {s : BatchGetSetting} (h : s.Sound) :
    s.names.filter Param.isName = s.names :=
  List.filter_eq_self.mpr fun p hp => (h p hp).1

/-- The aliases of sound parameters are bound as they stand there. -/
theorem Sound.aliases {s : BatchGetSetting} (h : s.Sound) :
    ∃ ns, Param.names s.names = .ok ns ∧ BatchGetRequest.aliases s.names = .ok (.ofList ns) := by
  obtain ⟨ns, hns⟩ := Param.exists_names h.not_offends
  have hvalues : Param.values s.names = [] :=
    Param.values_eq_nil_iff.mpr fun p hp => (h p hp).1
  refine ⟨ns, hns, ?_⟩
  rw [BatchGetRequest.aliases, Bindings.bind_of_names hns, hvalues]
  rfl

/-- Other parameters have a fault, and it is the one that is due to them. -/
theorem exists_calls {s : BatchGetSetting} (h : ¬ s.Sound) :
    ∃ e, BatchGetRequest.aliases s.names = .error e ∧ s.Calls e := by
  by_cases hstrings : ∀ p ∈ s.names, p.isName = true → ∃ name, p.value = .string name
  · have hoffends : ∀ p ∈ s.names, ¬ p.Offends :=
      fun p hp => Param.not_offends_iff.mpr (hstrings p hp)
    obtain ⟨ns, hns⟩ := Param.exists_names hoffends
    have hbound := Bindings.bind_of_names (b := .empty) hns
    cases hvalues : Entries.insertAll (Param.values s.names) Bindings.empty.values with
    | nil =>
      have hnames : ∀ p ∈ s.names, p.isName = true :=
        Param.values_eq_nil_iff.mp (Entries.ofList_eq_nil.mp hvalues)
      exact absurd (fun p hp => ⟨hnames p hp, hstrings p hp (hnames p hp)⟩) h
    | cons e es =>
      have hmem : e ∈ Entries.insertAll (Param.values s.names) Bindings.empty.values := by
        rw [hvalues]
        exact List.mem_cons_self
      have he : e ∈ Param.values s.names := Entries.mem_of_mem_ofList hmem
      obtain ⟨p, hp, rfl⟩ := List.mem_map.mp he
      obtain ⟨hp, hname⟩ := List.mem_filter.mp hp
      refine ⟨.valueNotAccepted p.key, ?_, .inr ⟨hoffends, p, hp, by simpa using hname, rfl⟩⟩
      rw [BatchGetRequest.aliases, hbound, hvalues]
      rfl
  · obtain ⟨before, p, after, hnames, hbefore, hp⟩ := Param.exists_first hstrings
    refine ⟨.nameNotString p.key p.value.kind, ?_,
      .inl ⟨before, p, after, hnames, hbefore, hp, rfl⟩⟩
    rw [BatchGetRequest.aliases, Bindings.bind_of_error (by
      rw [hnames]
      exact Param.names_eq_error hbefore hp)]
    rfl

theorem fault?_eq_none_iff {s : BatchGetSetting} : s.fault? = none ↔ s.Sound := by
  unfold fault?
  constructor
  · intro hnone
    by_contra hsound
    obtain ⟨e, haliases, -⟩ := exists_calls hsound
    rw [haliases] at hnone
    exact absurd hnone nofun
  · intro hsound
    obtain ⟨ns, -, haliases⟩ := hsound.aliases
    rw [haliases]

theorem calls_of_fault? {s : BatchGetSetting} {e : ParamError} (h : s.fault? = some e) :
    ¬ s.Sound ∧ s.Calls e := by
  have hsound : ¬ s.Sound := by
    intro hsound
    rw [fault?_eq_none_iff.mpr hsound] at h
    exact absurd h nofun
  obtain ⟨e', haliases, hcalls⟩ := exists_calls hsound
  unfold fault? at h
  rw [haliases] at h
  obtain rfl := Option.some.inj h
  exact ⟨hsound, hcalls⟩

/-- The aliases that a setting adds. -/
theorem get?_names_change {s : BatchGetSetting} (h : s.Sound) (p : KeysAndAttributes) (key : String) :
    ((s.change p).expressionAttributeNames.get? key).map Value.string =
      (((s.names.filter fun q => q.key = key).getLast?).map (·.value)).or
        ((p.expressionAttributeNames.get? key).map Value.string) := by
  obtain ⟨ns, hns, haliases⟩ := h.aliases
  have hlast : (Entries.last? key ns).map Value.string =
      ((s.names.filter fun q => q.key = key).getLast?).map (·.value) := by
    rw [← Entries.last?_map, Param.names_eq_ok.mp hns, h.filter_isName, Param.last?_map_entry]
  have hadded : (p.expressionAttributeNames.insertAll (Dict.ofList ns).entries).get? key =
      (Entries.last? key ns).or (p.expressionAttributeNames.get? key) := by
    refine (Entries.get?_insertAll key _ _).trans ?_
    rw [Entries.last?_of_sorted key (Dict.ofList ns).sorted]
    exact congrArg (Option.or · _) (Entries.get?_ofList key ns)
  rw [← hlast, ← Option.map_or, ← hadded]
  cases s with
  | projection table text names =>
    change BatchGetRequest.aliases names = _ at haliases
    unfold change
    dsimp only
    rw [haliases]
  | _ =>
    obtain rfl := Except.ok.inj hns
    rfl

end BatchGetSetting

/-- The first fault stays. -/
theorem BatchGetRequest.fault_set (r : BatchGetRequest) (s : BatchGetSetting) :
    (r.set s).fault = r.fault.or s.fault? := by
  cases s with
  | projection table text names =>
    unfold set BatchGetSetting.fault?
    dsimp only [BatchGetSetting.names]
    cases aliases names with
    | ok bound => exact (Option.or_none).symm
    | error e => rfl
  | _ => exact (Option.or_none).symm

/-! ### What a setting does to a batch -/

namespace BatchKind

variable {k : BatchKind}

/-- **A setting changes what is asked of its table**, and one about no table nothing of the batch. -/
theorem batch_set (r : k.Request) (s : k.Setting) :
    (∃ table, k.table? s = some table ∧
      k.batch (k.set r s) = (k.batch r).modify k.start table (k.change s) ∧
      k.capacity? (k.set r s) = k.capacity? r) ∨
    (k.table? s = none ∧ k.batch (k.set r s) = k.batch r ∧ k.given s = [] ∧
      ∀ r', k.capacity? (k.set r' s) = k.capacity? (k.set r s)) := by
  cases k with
  | get =>
    cases s with
    | projection table text names =>
      obtain ⟨hbatch, hcap⟩ := BatchGetRequest.set_projection r table text names
      exact .inl ⟨table, rfl, hbatch, hcap⟩
    | returnConsumedCapacity detail => exact .inr ⟨rfl, rfl, rfl, fun _ => rfl⟩
    | _ => exact .inl ⟨_, rfl, rfl, rfl⟩
  | write =>
    cases s with
    | returnConsumedCapacity detail => exact .inr ⟨rfl, rfl, rfl, fun _ => rfl⟩
    | _ => exact .inl ⟨_, rfl, rfl, rfl⟩

theorem items_start : k.items k.start = [] := by
  cases k <;> rfl

/-- What a setting gives comes after what was given before. -/
theorem items_change (s : k.Setting) (p : k.Part) :
    k.items (k.change s p) = k.items p ++ k.given s := by
  cases k with
  | get => exact BatchGetSetting.keys_change s p
  | write => rfl

/-- Changing what is asked of one table changes how much there is by as much as is given. -/
theorem length_set (r : k.Request) (s : k.Setting) :
    k.length (k.set r s) = k.length r + (k.given s).length := by
  rw [length_eq, length_eq]
  rcases batch_set r s with ⟨table, -, hbatch, -⟩ | ⟨-, hbatch, hgiven, -⟩
  · rw [hbatch]
    induction k.batch r with
    | nil =>
      show (k.items (k.change s k.start)).length + 0 = 0 + (k.given s).length
      rw [items_change, items_start, List.nil_append]
      omega
    | cons e b ih =>
      rw [PerTable.modify]
      split
      · show (k.items (k.change s e.2)).length + _ = (k.items e.2).length + _ + _
        rw [items_change, List.length_append]
        omega
      · rw [List.foldr_cons, List.foldr_cons, ih]
        omega
  · rw [hbatch, hgiven]
    rfl

end BatchKind

end Dynamo
