import Dynamo.Proofs.Bindings
import Dynamo.Proofs.Request.Gate
import Mathlib.Data.List.Induction

/-! # Chains of settings

A request about items is built by a chain of settings from one with nothing set. Each of them binds
its own parameters and may fail to, and a fault makes later ones skip theirs; still a chain comes to
what can be read off the list of settings. All parameters of the chain are bound as one list
(`ItemRequest.Tracks.bound`), and each other field of the body holds what was last set
(`ItemSetting.describe`).

* `ItemRequest.Tracks`: the invariant, kept by each setting (`Tracks.set`) and so by each chain
  (`tracks_chain`).
* `ItemRequest.chain_binds`: what a chain binds, and what becomes of a faulty one. -/

namespace Dynamo

open Dynamo.Except

/-! ### What settings set -/

namespace ItemSetting

/-- The expression that is set in a place. -/
def expressionIn? (slot : Slot) : ItemSetting → Option String
  | .expression slot' text _ => if slot = slot' then some text else none
  | _ => none

/-- The index that is set. -/
def indexName? : ItemSetting → Option String
  | .indexName name => some name
  | _ => none

/-- The selection that is set. -/
def select? : ItemSetting → Option Select
  | .select s => some s
  | _ => none

/-- The limit that is set. -/
def limit? : ItemSetting → Option UInt32
  | .limit n => some n
  | _ => none

/-- The consistency of reads that is set. -/
def consistentRead? : ItemSetting → Option Bool
  | .consistentRead consistent => some consistent
  | _ => none

/-- The direction that is set. -/
def scanIndexForward? : ItemSetting → Option Bool
  | .scanIndexForward forward => some forward
  | _ => none

/-- The part of a scan that is set. -/
def segment? : ItemSetting → Option Segment
  | .segment s => some s
  | _ => none

/-- The key to start at that is set. -/
def exclusiveStartKey? : ItemSetting → Option Document
  | .exclusiveStartKey key => some key
  | _ => none

/-- The attributes to answer with that are set. -/
def returnValues? : ItemSetting → Option ReturnValues
  | .returnValues values => some values
  | _ => none

/-- The detail about capacity that is set. -/
def returnConsumedCapacity? : ItemSetting → Option CapacityDetail
  | .returnConsumedCapacity detail => some detail
  | _ => none

variable {op : ItemOperation}

/-- The last of what `pick` finds in a list of settings. -/
def last? {α : Type} (pick : ItemSetting → Option α) (settings : List op.Setting) : Option α :=
  (settings.filterMap fun s => pick s.1).getLast?

theorem last?_append {α : Type} (pick : ItemSetting → Option α) (settings : List op.Setting)
    (s : op.Setting) : last? pick (settings ++ [s]) = (pick s.1).or (last? pick settings) :=
  getLast?_filterMap_concat (fun s : op.Setting => pick s.1) settings s

/-- **The body that settings describe**: of each field what was last set, and its default if it never
was. -/
def describe (tableName : String) (subject : Document) (settings : List op.Setting)
    (bindings : Bindings) : ItemInput op where
  tableName := tableName
  subject := subject
  indexName := last? indexName? settings
  expressions :=
    { keyCondition := last? (expressionIn? .keyCondition) settings
      filter := last? (expressionIn? .filter) settings
      projection := last? (expressionIn? .projection) settings
      update := last? (expressionIn? .update) settings
      condition := last? (expressionIn? .condition) settings }
  select := last? select? settings
  limit := last? limit? settings
  consistentRead := (last? consistentRead? settings).getD false
  scanIndexForward := last? scanIndexForward? settings
  segment := last? segment? settings
  exclusiveStartKey := last? exclusiveStartKey? settings
  returnValues := last? returnValues? settings
  returnConsumedCapacity := last? returnConsumedCapacity? settings
  bindings := bindings

/-- The parameters of a chain of settings, in their order. -/
def allParams (settings : List op.Setting) : List Param := settings.flatMap fun s => s.1.params

/-- One more setting sets its own field. -/
theorem setInput_describe (tableName : String) (subject : Document) (settings : List op.Setting)
    (bindings : Bindings) (s : op.Setting) :
    ItemRequest.setInput s.1 (describe tableName subject settings bindings) =
      describe tableName subject (settings ++ [s]) bindings := by
  unfold describe
  simp only [last?_append]
  cases s.1 with
  | expression slot text params => cases slot <;> rfl
  | _ => rfl

end ItemSetting

namespace ItemRequest

open ItemSetting (allParams describe)

variable {op : ItemOperation}

/-- **The request that a chain of settings makes** of one with nothing set. -/
def chain (tableName : String) (subject : Document) (settings : List op.Setting) : ItemRequest op :=
  settings.foldl set (new tableName subject)

/-! ### The invariant of chains -/

/-- **What a request knows of the settings that made it**: its body is the one they describe, and its
bindings are those of all their parameters, unless these have a fault. -/
structure Tracks (tableName : String) (subject : Document) (settings : List op.Setting)
    (r : ItemRequest op) : Prop where
  input : r.input = describe tableName subject settings r.input.bindings
  bound : (r.fault = none ∧ Bindings.empty.bind (allParams settings) = .ok r.input.bindings) ∨
    ∃ e, r.fault = some e ∧ Bindings.empty.bind (allParams settings) = .error e

theorem tracks_new (tableName : String) (subject : Document) :
    (new tableName subject : ItemRequest op).Tracks tableName subject [] :=
  ⟨rfl, .inl ⟨rfl, rfl⟩⟩

/-- **Each setting keeps the invariant.** -/
theorem Tracks.set {tableName : String} {subject : Document} {settings : List op.Setting}
    {r : ItemRequest op} (h : r.Tracks tableName subject settings) (s : op.Setting) :
    (r.set s).Tracks tableName subject (settings ++ [s]) := by
  obtain ⟨input, fault⟩ := r
  obtain ⟨hinput, hbound⟩ := h
  dsimp only at hinput hbound
  have hset : setInput s.1 input =
      describe tableName subject (settings ++ [s]) input.bindings := by
    rw [← ItemSetting.setInput_describe, ← hinput]
  have hall : Bindings.empty.bind (allParams (settings ++ [s])) =
      (Bindings.empty.bind (allParams settings)).bind fun b => b.bind s.1.params := by
    rw [← Bindings.bind_append]
    simp [allParams]
  show (ItemRequest.bind s.1.params ⟨setInput s.1 input, fault⟩).Tracks _ _ _
  rw [hset]
  rcases hbound with ⟨rfl, hb⟩ | ⟨e, rfl, he⟩
  · rw [hb] at hall
    replace hall : _ = input.bindings.bind s.1.params := hall
    cases hnew : input.bindings.bind s.1.params with
    | error e =>
      rw [bind_of_error rfl hnew]
      exact ⟨rfl, .inr ⟨e, rfl, hall.trans hnew⟩⟩
    | ok b =>
      rw [bind_of_ok rfl hnew]
      exact ⟨rfl, .inl ⟨rfl, hall.trans hnew⟩⟩
  · -- a fault was found before, so that nothing is bound any more
    rw [he] at hall
    rw [bind_of_fault rfl]
    exact ⟨rfl, .inr ⟨e, rfl, hall⟩⟩

/-- A chain keeps the invariant. -/
theorem tracks_chain (tableName : String) (subject : Document) (settings : List op.Setting) :
    (chain tableName subject settings).Tracks tableName subject settings := by
  induction settings using List.reverseRecOn with
  | nil => exact tracks_new tableName subject
  | append_singleton settings s ih =>
    rw [chain, List.foldl_append]
    exact ih.set s

/-! ### What chains bind -/

/-- **What a chain of settings binds.** If all aliases among its parameters are bound to strings, then
each placeholder and each alias stands for what the last parameter with its key says, every other
field of the body is what was last set, and the parameters are never found to have a fault.
Otherwise the first parameter that offends is called, whatever came after it, and nothing is sent. -/
theorem chain_binds (op : ItemOperation) (tableName : String) (subject : Document)
    (settings : List op.Setting) :
    ((∀ p ∈ allParams settings, p.isName = true → ∃ s, p.value = .string s) →
      ∃ b : Bindings,
        (chain tableName subject settings).input =
          describe tableName subject settings b ∧
        Entries.Sorted b.values ∧
        (∀ k, Entries.get? k b.values =
          (((allParams settings).filter
            fun p => p.key = k && !p.isName).getLast?).map (·.value)) ∧
        (∀ k, (b.names.get? k).map Value.string =
          (((allParams settings).filter
            fun p => p.key = k && p.isName).getLast?).map (·.value)) ∧
        ∀ e, ¬ ((DataOperation.item op).execute (chain tableName subject settings)).Raises
            (.invalidParam e) ∧
          ∀ m : Mock, (m.execute (.item op) (chain tableName subject settings)).1 ≠
            .error (.invalidParam e)) ∧
    ((¬ ∀ p ∈ allParams settings, p.isName = true → ∃ s, p.value = .string s) →
      ∃ before p after, allParams settings = before ++ p :: after ∧
        (∀ q ∈ before, q.isName = true → ∃ s, q.value = .string s) ∧ p.Offends ∧
        (DataOperation.item op).execute (chain tableName subject settings) =
          .done (.error (.invalidParam (.nameNotString p.key p.value.kind))) ∧
        ∀ m : Mock, m.execute (.item op) (chain tableName subject settings) =
          (.error (.invalidParam (.nameNotString p.key p.value.kind)), m)) := by
  obtain ⟨hinput, hbound⟩ := tracks_chain tableName subject settings
  set r := chain tableName subject settings
  set ps := allParams settings
  refine ⟨fun hnames => ?_, fun hnames => ?_⟩
  · obtain ⟨ns, hns⟩ := Param.exists_names fun p hp => Param.not_offends_iff.mpr (hnames p hp)
    rcases hbound with ⟨hfault, hb⟩ | ⟨e, -, he⟩
    · replace hfault : (DataOperation.item op).fault? r = none := hfault
      refine ⟨r.input.bindings, hinput, Bindings.sorted_values_of_bind hb,
        Bindings.get?_values_of_bind hb, Bindings.get?_names_of_bind hb, fun e => ⟨?_, ?_⟩⟩
      · intro hraises
        rcases DataOperation.raises_cases hraises with ⟨cause, hcause, -⟩ | ⟨_, he⟩ | ⟨_, he⟩
        · exact absurd (hfault.symm.trans hcause) nofun
        · exact absurd he nofun
        · exact absurd he nofun
      · exact fun m => Mock.execute_ne_invalidParam hfault m e
    · rw [Bindings.bind_of_names hns] at he
      exact absurd he nofun
  · obtain ⟨before, p, after, hps, hbefore, hp⟩ := Param.exists_first hnames
    have herror : Bindings.empty.bind ps = .error (.nameNotString p.key p.value.kind) := by
      rw [hps]
      exact Bindings.bind_of_error (Param.names_eq_error hbefore hp)
    have hfault : (DataOperation.item op).fault? r = some (.nameNotString p.key p.value.kind) := by
      show r.fault = _
      rcases hbound with ⟨-, hb⟩ | ⟨e, hfault, he⟩
      · exact absurd (herror.symm.trans hb) nofun
      · rw [hfault, Except.error.inj (he.symm.trans herror)]
    exact ⟨before, p, after, hps, fun q hq => Param.not_offends_iff.mp (hbefore q hq), hp,
      DataOperation.execute_of_fault hfault, fun m => Mock.execute_of_fault hfault m⟩

/-- A query whose last limit and last value of `:v` count, and one with two aliases that are not
bound to strings. -/
theorem chain_binds_query :
    (∃ b : Bindings, (chain "t" [] [⟨.limit 5, rfl⟩,
        ⟨.expression .keyCondition "#a = :v" [⟨":v", .null⟩, ⟨"#a", .string "x"⟩], rfl⟩,
        ⟨.limit 7, rfl⟩, ⟨.bind [⟨":v", .bool true⟩], rfl⟩] : ItemRequest .query).input =
          { tableName := "t", limit := some 7, expressions := { keyCondition := some "#a = :v" }
            bindings := b } ∧
        Entries.get? ":v" b.values = some (.bool true) ∧
        (b.names.get? "#a").map Value.string = some (.string "x")) ∧
      (DataOperation.item .query).execute (chain "t" [] [⟨.bind [⟨"#n", .null⟩], rfl⟩,
        ⟨.limit 5, rfl⟩, ⟨.bind [⟨"#m", .bool true⟩], rfl⟩] : ItemRequest .query) =
          .done (.error (.invalidParam (.nameNotString "#n" .null))) := by
  constructor
  · obtain ⟨b, hinput, -, hvalues, hnames, -⟩ := (chain_binds .query "t" [] [⟨.limit 5, rfl⟩,
      ⟨.expression .keyCondition "#a = :v" [⟨":v", .null⟩, ⟨"#a", .string "x"⟩], rfl⟩,
      ⟨.limit 7, rfl⟩, ⟨.bind [⟨":v", .bool true⟩], rfl⟩]).1 (by
        intro p hp hname
        simp only [allParams, ItemSetting.params, List.flatMap_cons, List.flatMap_nil,
          List.nil_append, List.append_nil, List.cons_append, List.mem_cons, List.not_mem_nil,
          or_false] at hp
        rcases hp with rfl | rfl | rfl
        · exact absurd hname (by decide)
        · exact ⟨"x", rfl⟩
        · exact absurd hname (by decide))
    exact ⟨b, hinput, hvalues ":v", hnames "#a"⟩
  · obtain ⟨before, p, after, hps, hbefore, hp, hx, -⟩ := (chain_binds .query "t" []
      [⟨.bind [⟨"#n", .null⟩], rfl⟩, ⟨.limit 5, rfl⟩, ⟨.bind [⟨"#m", .bool true⟩], rfl⟩]).2
        (fun h => by
          obtain ⟨s, hs⟩ := h ⟨"#n", .null⟩ List.mem_cons_self rfl
          exact absurd hs nofun)
    cases before with
    | nil =>
      obtain ⟨rfl, -⟩ := List.cons.inj hps
      exact hx
    | cons q before =>
      obtain ⟨rfl, -⟩ := List.cons.inj hps
      obtain ⟨s, hs⟩ := hbefore _ List.mem_cons_self rfl
      exact absurd hs nofun

end ItemRequest

end Dynamo
