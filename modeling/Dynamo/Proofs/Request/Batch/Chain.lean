import Dynamo.Proofs.Request.Batch.Settings
import Mathlib.Data.List.Induction

/-! # Chains of settings for batches

A batch is built by a chain of settings from an empty one. As each setting changes what is asked of its
own table only, what is asked of a table can be read off the settings about it, whatever stands between
them (`BatchKind.get?_chain`), and settings about different tables may change places
(`BatchKind.input_congr`). A table that is mentioned for the first time comes last
(`BatchKind.tables_chain`).

* `BatchGetRequest.exists_first_fault`: the fault of a chain is that of the first setting with one.
* `BatchKind.chain_keeps`: what a chain comes to. -/

namespace Dynamo

namespace BatchKind

variable {k : BatchKind}

/-- **The request that a chain of settings makes** of an empty one. -/
def chain (k : BatchKind) (settings : List k.Setting) : k.Request := settings.foldl k.set k.new

/-- What is asked of each table in the body of a request. -/
def requestItems : (k : BatchKind) → k.Request → Dict k.Part
  | .get, (r : BatchGetRequest) => r.input.requestItems
  | .write, (r : BatchWriteRequest) => r.input.requestItems

/-- The settings about a table, or about none. -/
def about (k : BatchKind) (table : Option String) (settings : List k.Setting) : List k.Setting :=
  settings.filter fun s => k.table? s = table

/-- What settings about one table ask of it. -/
def asked (k : BatchKind) (settings : List k.Setting) : k.Part :=
  settings.foldl (fun p s => k.change s p) k.start

theorem asked_concat (settings : List k.Setting) (s : k.Setting) :
    k.asked (settings ++ [s]) = k.change s (k.asked settings) := by
  rw [asked, List.foldl_append]
  rfl

theorem chain_concat (settings : List k.Setting) (s : k.Setting) :
    k.chain (settings ++ [s]) = k.set (k.chain settings) s := by
  rw [chain, List.foldl_append]
  rfl

theorem about_concat (table : Option String) (settings : List k.Setting) (s : k.Setting) :
    k.about table (settings ++ [s]) =
      if k.table? s = table then k.about table settings ++ [s] else k.about table settings := by
  unfold about
  by_cases h : k.table? s = table
  · rw [if_pos h, List.filter_append, List.filter_cons_of_pos (by simpa using h), List.filter_nil]
  · rw [if_neg h, List.filter_append, List.filter_cons_of_neg (by simpa using h), List.filter_nil,
      List.append_nil]

theorem mem_tables_iff {table : String} {settings : List k.Setting} :
    table ∈ settings.filterMap k.table? ↔ k.about (some table) settings ≠ [] := by
  rw [List.mem_filterMap, about, Ne, List.filter_eq_nil_iff]
  simp

theorem built_chain (settings : List k.Setting) : k.Built (k.chain settings) := by
  induction settings using List.reverseRecOn with
  | nil => exact .new
  | append_singleton settings s ih =>
    rw [chain_concat]
    exact .set s ih

/-! ### What a chain asks -/

/-- **What is asked of a table** is what the settings about it make, one after the other. -/
theorem get?_chain (settings : List k.Setting) (table : String) :
    (k.batch (k.chain settings)).get? table =
      if k.about (some table) settings = [] then none
      else some (k.asked (k.about (some table) settings)) := by
  induction settings using List.reverseRecOn with
  | nil => cases k <;> rfl
  | append_singleton settings s ih =>
    rw [chain_concat, about_concat]
    rcases batch_set (k.chain settings) s with ⟨table', htable, hbatch, -⟩ | ⟨htable, hbatch, -⟩
    · rw [hbatch, PerTable.get?_modify, htable]
      by_cases h : table = table'
      · subst h
        -- a table that is mentioned for the first time starts with what no setting has changed
        have hasked : ((k.batch (k.chain settings)).get? table).getD k.start =
            k.asked (k.about (some table) settings) := by
          rw [ih]
          split
          · next hnil => rw [hnil]; rfl
          · rfl
        rw [if_pos rfl, if_pos rfl, if_neg (by simp), hasked, asked_concat]
      · have hne : ¬ some table' = some table := fun heq => h (Option.some.inj heq).symm
        rw [if_neg h, if_neg hne, ih]
    · have hne : ¬ (none : Option String) = some table := nofun
      rw [hbatch, htable, if_neg hne, ih]

theorem get?_requestItems {r : k.Request} (h : (k.batch r).tables.Nodup) (table : String) :
    (k.requestItems r).get? table = (k.batch r).get? table := by
  cases k with
  | get => exact get?_ofList h table
  | write => exact get?_ofList h table

/-- The body asks of a table what the settings about it make, if there are any. -/
theorem requestItems_chain (settings : List k.Setting) (table : String) :
    (k.requestItems (k.chain settings)).get? table =
      if k.about (some table) settings = [] then none
      else some (k.asked (k.about (some table) settings)) := by
  rw [get?_requestItems (built_chain settings).nodup_tables, get?_chain]

theorem eq_asked_of_get? {settings : List k.Setting} {table : String} {p : k.Part}
    (h : (k.requestItems (k.chain settings)).get? table = some p) :
    p = k.asked (k.about (some table) settings) := by
  rw [requestItems_chain] at h
  split at h
  · exact absurd h nofun
  · exact (Option.some.inj h).symm

/-- **The tables** stand in the order in which they were first mentioned. -/
theorem tables_chain (settings : List k.Setting) :
    (k.batch (k.chain settings)).tables = (settings.filterMap k.table?).eraseDups := by
  induction settings using List.reverseRecOn with
  | nil => cases k <;> rfl
  | append_singleton settings s ih =>
    rw [chain_concat, List.filterMap_append]
    rcases batch_set (k.chain settings) s with ⟨table, htable, hbatch, -⟩ | ⟨htable, hbatch, -⟩
    · rw [hbatch, PerTable.tables_modify, ih, List.filterMap_cons_some htable, List.filterMap_nil,
        eraseDups_concat]
      simp only [List.mem_eraseDups]
    · rw [hbatch, ih, List.filterMap_cons_none htable, List.filterMap_nil, List.append_nil]

theorem items_asked (settings : List k.Setting) :
    k.items (k.asked settings) = settings.flatMap k.given := by
  induction settings using List.reverseRecOn with
  | nil => exact items_start
  | append_singleton settings s ih =>
    rw [asked_concat, items_change, ih, List.flatMap_append, List.flatMap_singleton]

theorem length_chain (settings : List k.Setting) :
    k.length (k.chain settings) = (settings.flatMap k.given).length := by
  induction settings using List.reverseRecOn with
  | nil => cases k <;> rfl
  | append_singleton settings s ih =>
    rw [chain_concat, length_set, ih, List.flatMap_append, List.flatMap_singleton,
      List.length_append]

/-! ### Settings in another order -/

theorem capacity?_chain (settings : List k.Setting) :
    k.capacity? (k.chain settings) = k.capacity? (k.chain (k.about none settings)) := by
  induction settings using List.reverseRecOn with
  | nil => rfl
  | append_singleton settings s ih =>
    rw [chain_concat, about_concat]
    rcases batch_set (k.chain settings) s with ⟨table, htable, -, hcap⟩ | ⟨htable, -, -, hcap⟩
    · have hne : ¬ some table = none := nofun
      rw [hcap, ih, htable, if_neg hne]
    · rw [htable, if_pos rfl, chain_concat]
      exact (hcap _).symm

theorem requestItems_congr {settings settings' : List k.Setting}
    (h : ∀ table, k.about table settings = k.about table settings') :
    k.requestItems (k.chain settings) = k.requestItems (k.chain settings') := by
  refine Dict.ext_get? fun table => ?_
  rw [requestItems_chain, requestItems_chain, h]

/-- **The body depends only on the order of the settings about each table.** -/
theorem input_congr {settings settings' : List k.Setting}
    (h : ∀ table, k.about table settings = k.about table settings') :
    k.operation.input (k.chain settings) = k.operation.input (k.chain settings') := by
  have hcap : k.capacity? (k.chain settings) = k.capacity? (k.chain settings') := by
    rw [capacity?_chain, h, ← capacity?_chain]
  have hitems := requestItems_congr h
  cases k with
  | get => exact congrArg₂ BatchGetInput.mk hitems hcap
  | write => exact congrArg₂ BatchWriteInput.mk hitems hcap

theorem holds_iff_requestItems {r : k.Request} (h : (k.batch r).tables.Nodup) {m : Document} :
    k.operation.Holds r m ↔ ∃ table p, (k.requestItems r).get? table = some p ∧
      ∃ i ∈ k.items p, k.document i = m := by
  rw [holds_iff]
  constructor
  · rintro ⟨e, he, hi⟩
    exact ⟨e.1, e.2, by rw [get?_requestItems h, get?_of_mem h he], hi⟩
  · rintro ⟨table, p, hp, hi⟩
    rw [get?_requestItems h] at hp
    exact ⟨(table, p), Entries.mem_of_get? hp, hi⟩

/-- Settings about different tables may change places. -/
theorem about_swap {before after : List k.Setting} {s s' : k.Setting} (h : k.table? s ≠ k.table? s')
    (table : Option String) :
    k.about table (before ++ s' :: s :: after) = k.about table (before ++ s :: s' :: after) := by
  unfold about
  rw [List.filter_append, List.filter_append]
  congr 1
  by_cases hs : k.table? s = table
  · have hs' : k.table? s' ≠ table := fun heq => h (hs.trans heq.symm)
    simp [hs, hs']
  · simp [List.filter_cons, hs]

end BatchKind

/-! ### Faults of chains -/

namespace BatchGetRequest

theorem chain_concat (settings : List BatchGetSetting) (s : BatchGetSetting) :
    (BatchKind.get.chain (settings ++ [s]) : BatchGetRequest) =
      (BatchKind.get.chain settings : BatchGetRequest).set s :=
  BatchKind.chain_concat (k := .get) settings s

/-- **The fault of a chain** is that of the first setting that has one. -/
theorem fault_chain (settings : List BatchGetSetting) :
    (BatchKind.get.chain settings : BatchGetRequest).fault =
      settings.findSome? BatchGetSetting.fault? := by
  induction settings using List.reverseRecOn with
  | nil => rfl
  | append_singleton settings s ih =>
    rw [List.findSome?_append, ← ih, List.findSome?_singleton, chain_concat]
    exact fault_set _ s

theorem fault_chain_eq_none_iff {settings : List BatchGetSetting} :
    (BatchKind.get.chain settings : BatchGetRequest).fault = none ↔ ∀ s ∈ settings, s.Sound := by
  rw [fault_chain, List.findSome?_eq_none_iff]
  exact forall_congr' fun s => imp_congr Iff.rfl BatchGetSetting.fault?_eq_none_iff

/-- The first setting whose parameters are not sound calls the fault. -/
theorem exists_first_fault {settings : List BatchGetSetting} (h : ∃ s ∈ settings, ¬ s.Sound) :
    ∃ before s after e, settings = before ++ s :: after ∧ (∀ s' ∈ before, s'.Sound) ∧ ¬ s.Sound ∧
      s.Calls e ∧ (BatchKind.get.chain settings : BatchGetRequest).fault = some e := by
  cases hfault : (BatchKind.get.chain settings : BatchGetRequest).fault with
  | none =>
    obtain ⟨s, hs, hnot⟩ := h
    exact absurd (fault_chain_eq_none_iff.mp hfault s hs) hnot
  | some e =>
    rw [fault_chain] at hfault
    obtain ⟨before, s, after, hsettings, hs, hbefore⟩ := List.findSome?_eq_some_iff.mp hfault
    obtain ⟨hnot, hcalls⟩ := BatchGetSetting.calls_of_fault? hs
    exact ⟨before, s, after, e, hsettings,
      fun s' hs' => BatchGetSetting.fault?_eq_none_iff.mp (hbefore s' hs'), hnot, hcalls, rfl⟩

end BatchGetRequest

/-! ### Reads from a table, setting by setting -/

namespace BatchGetSetting

/-- What the last parameter with a key is bound to. -/
def bound? (settings : List BatchGetSetting) (key : String) : Option Value :=
  (((settings.flatMap names).filter fun p => p.key = key).getLast?).map (·.value)

theorem bound?_concat (settings : List BatchGetSetting) (s : BatchGetSetting) (key : String) :
    bound? (settings ++ [s]) key =
      (((s.names.filter fun p => p.key = key).getLast?).map (·.value)).or (bound? settings key) := by
  unfold bound?
  rw [List.flatMap_append, List.flatMap_singleton, List.filter_append, List.getLast?_append]
  cases (s.names.filter fun p => p.key = key).getLast? <;> rfl

theorem asked_concat (settings : List BatchGetSetting) (s : BatchGetSetting) :
    (BatchKind.get.asked (settings ++ [s]) : KeysAndAttributes) =
      s.change (BatchKind.get.asked settings) :=
  BatchKind.asked_concat (k := .get) settings s

variable (settings : List BatchGetSetting)

theorem projectionExpression_asked :
    (BatchKind.get.asked settings : KeysAndAttributes).projectionExpression =
      (settings.filterMap text?).getLast? := by
  induction settings using List.reverseRecOn with
  | nil => rfl
  | append_singleton settings s ih =>
    rw [asked_concat, getLast?_filterMap_concat, ← ih]
    exact projectionExpression_change s _

theorem consistentRead_asked :
    (BatchKind.get.asked settings : KeysAndAttributes).consistentRead =
      ((settings.filterMap consistent?).getLast?).getD false := by
  induction settings using List.reverseRecOn with
  | nil => rfl
  | append_singleton settings s ih =>
    rw [asked_concat, getLast?_filterMap_concat, Option.getD_or, ← ih]
    exact consistentRead_change s _

/-- **The aliases of a table** stand for what the last parameter about it says. -/
theorem get?_names_asked (h : ∀ s ∈ settings, s.Sound) (key : String) :
    ((BatchKind.get.asked settings : KeysAndAttributes).expressionAttributeNames.get? key).map
        Value.string = bound? settings key := by
  induction settings using List.reverseRecOn with
  | nil => rfl
  | append_singleton settings s ih =>
    obtain ⟨hsettings, hs⟩ := List.forall_mem_append.mp h
    rw [asked_concat, bound?_concat, ← ih hsettings]
    exact get?_names_change (hs s List.mem_cons_self) _ key

end BatchGetSetting

/-! ### What is sent -/

namespace BatchKind

variable {k : BatchKind}

/-- Whether there is a fault depends only on which settings there are. -/
theorem fault?_chain_eq_none_iff {settings settings' : List k.Setting}
    (h : ∀ s, s ∈ settings ↔ s ∈ settings') :
    k.operation.fault? (k.chain settings) = none ↔ k.operation.fault? (k.chain settings') = none := by
  cases k with
  | get =>
    have hsame : (∀ s ∈ settings, BatchGetSetting.Sound s) ↔
        ∀ s ∈ settings', BatchGetSetting.Sound s :=
      forall_congr' fun s => imp_congr (h s) Iff.rfl
    exact BatchGetRequest.fault_chain_eq_none_iff.trans
      (hsame.trans BatchGetRequest.fault_chain_eq_none_iff.symm)
  | write => exact Iff.rfl

/-- **What is sent depends only on the order of the settings about each table.** -/
theorem sent?_congr {settings settings' : List k.Setting}
    (hmem : ∀ s, s ∈ settings ↔ s ∈ settings')
    (habout : ∀ table, k.about table settings = k.about table settings') :
    (k.operation.execute (k.chain settings)).sent? =
      (k.operation.execute (k.chain settings')).sent? := by
  have hholds : ∀ m, k.operation.Holds (k.chain settings) m ↔
      k.operation.Holds (k.chain settings') m := by
    intro m
    rw [holds_iff_requestItems (built_chain settings).nodup_tables,
      holds_iff_requestItems (built_chain settings').nodup_tables, requestItems_congr habout]
  refine Option.ext fun x => ?_
  rw [DataOperation.sent?_eq_some_iff, DataOperation.sent?_eq_some_iff, input_congr habout,
    fault?_chain_eq_none_iff hmem]
  simp only [hholds]

/-! ### What a chain comes to -/

/-- **A chain keeps everything, for each table and in order.** No table is mentioned twice, and they
stand in the order in which they were first mentioned; the body asks something of these tables only, and
of each of them all keys or writes that were given for it, in their order. Two settings about different
tables may change places without a change to the body or to what is sent. Of the reads from a table the
last projection and the last consistency count, and of several parameters with one alias the last. If
some setting has parameters that are no aliases of strings, then the first such setting fails the
request, and nothing is sent. -/
theorem chain_keeps :
    (∀ (k : BatchKind) (settings : List k.Setting),
      (k.batch (k.chain settings)).tables.Nodup ∧
      (k.batch (k.chain settings)).tables = (settings.filterMap k.table?).eraseDups ∧
      (∀ table,
        ((k.requestItems (k.chain settings)).get? table = none ↔
          table ∉ settings.filterMap k.table?) ∧
        ∀ p, (k.requestItems (k.chain settings)).get? table = some p →
          k.items p = (k.about (some table) settings).flatMap k.given) ∧
      k.length (k.chain settings) = (settings.flatMap k.given).length ∧
      ∀ before s s' after, settings = before ++ s :: s' :: after → k.table? s ≠ k.table? s' →
        k.operation.input (k.chain (before ++ s' :: s :: after)) =
          k.operation.input (k.chain settings) ∧
        (k.operation.execute (k.chain (before ++ s' :: s :: after))).sent? =
          (k.operation.execute (k.chain settings)).sent?) ∧
    ∀ settings : List BatchGetSetting,
      (∀ (table : String) (p : KeysAndAttributes),
        (BatchKind.get.requestItems (BatchKind.get.chain settings)).get? table = some p →
        p.projectionExpression =
          ((BatchKind.get.about (some table) settings).filterMap BatchGetSetting.text?).getLast? ∧
        p.consistentRead = (((BatchKind.get.about (some table) settings).filterMap
          BatchGetSetting.consistent?).getLast?).getD false ∧
        ((∀ s ∈ settings, s.Sound) → ∀ key,
          (p.expressionAttributeNames.get? key).map Value.string =
            BatchGetSetting.bound? (BatchKind.get.about (some table) settings) key)) ∧
      ((∀ s ∈ settings, s.Sound) → ∀ e,
        DataOperation.batchGet.execute (BatchKind.get.chain settings) ≠
          .done (.error (.invalidParam e))) ∧
      ((∃ s ∈ settings, ¬ s.Sound) → ∃ before s after e, settings = before ++ s :: after ∧
        (∀ s' ∈ before, s'.Sound) ∧ ¬ s.Sound ∧ s.Calls e ∧
        DataOperation.batchGet.execute (BatchKind.get.chain settings) =
          .done (.error (.invalidParam e)) ∧
        ∀ m : Mock, m.execute .batchGet (BatchKind.get.chain settings) =
          (.error (.invalidParam e), m)) := by
  refine ⟨fun k settings => ⟨(built_chain settings).nodup_tables, tables_chain settings,
    fun table => ⟨?_, fun p hp => ?_⟩, length_chain settings, ?_⟩,
    fun settings => ⟨fun table p hp => ?_, fun hsound e hexecute => ?_, fun hunsound => ?_⟩⟩
  · rw [requestItems_chain, mem_tables_iff]
    simp
  · rw [eq_asked_of_get? hp, items_asked]
  · rintro before s s' after rfl hne
    have habout := @about_swap k before after s s' hne
    have hmem : ∀ x, x ∈ before ++ s' :: s :: after ↔ x ∈ before ++ s :: s' :: after := by
      intro x
      exact (List.Perm.append_left before (List.Perm.swap s s' after)).mem_iff
    exact ⟨input_congr habout, sent?_congr hmem habout⟩
  · obtain rfl := eq_asked_of_get? (k := .get) hp
    refine ⟨BatchGetSetting.projectionExpression_asked _, BatchGetSetting.consistentRead_asked _,
      fun hsound key => BatchGetSetting.get?_names_asked _ (fun s hs => ?_) key⟩
    exact hsound s (List.mem_filter.mp hs).1
  · have hnone : DataOperation.batchGet.fault? (BatchKind.get.chain settings) = none :=
      BatchGetRequest.fault_chain_eq_none_iff.mpr hsound
    exact DataOperation.execute_ne_invalidParam hnone e hexecute
  · obtain ⟨before, s, after, e, hsettings, hbefore, hs, hcalls, hfault⟩ :=
      BatchGetRequest.exists_first_fault hunsound
    replace hfault : DataOperation.batchGet.fault? (BatchKind.get.chain settings) = some e := hfault
    exact ⟨before, s, after, e, hsettings, hbefore, hs, hcalls,
      DataOperation.execute_of_fault hfault, fun m => Mock.execute_of_fault hfault m⟩

/-- Reads from two tables in turn, and reads of which one has a placeholder among its parameters. -/
theorem chain_keeps_reads :
    let settings : List BatchGetSetting := [.get "b" [[("Id", .null)]],
      .projection "a" "#n" [⟨"#n", .string "Name"⟩], .get "b" [[("Id", .bool true)]]]
    (BatchKind.get.batch (BatchKind.get.chain settings)).tables = ["b", "a"] ∧
    (∃ p : KeysAndAttributes,
      (BatchKind.get.requestItems (BatchKind.get.chain settings)).get? "b" = some p ∧
        p.keys = [[("Id", .null)], [("Id", .bool true)]]) ∧
    (∃ p : KeysAndAttributes,
      (BatchKind.get.requestItems (BatchKind.get.chain settings)).get? "a" = some p ∧
        (p.expressionAttributeNames.get? "#n").map Value.string = some (.string "Name")) ∧
    ∃ e, DataOperation.batchGet.execute (BatchKind.get.chain
      ([.consistentRead "a" true, .projection "a" "x" [⟨":v", .null⟩]] : List BatchGetSetting)) =
        .done (.error (.invalidParam e)) := by
  intro settings
  obtain ⟨hall, hget⟩ := chain_keeps
  obtain ⟨-, htables, hparts, -⟩ := hall .get settings
  obtain ⟨hread, -⟩ := hget settings
  refine ⟨htables, ⟨_, rfl, (hparts "b").2 _ rfl⟩, ⟨_, rfl, ?_⟩, ?_⟩
  · have hsound : ∀ s ∈ settings, s.Sound := by
      intro s hs p hp
      simp only [settings, List.mem_cons, List.not_mem_nil, or_false] at hs
      rcases hs with rfl | rfl | rfl
      · exact absurd hp List.not_mem_nil
      · obtain rfl := List.mem_singleton.mp hp
        exact ⟨rfl, "Name", rfl⟩
      · exact absurd hp List.not_mem_nil
    exact (hread "a" _ rfl).2.2 hsound "#n"
  · obtain ⟨-, -, hfault⟩ := hget [.consistentRead "a" true, .projection "a" "x" [⟨":v", .null⟩]]
    have hunsound : ¬ (BatchGetSetting.projection "a" "x" [⟨":v", .null⟩]).Sound := by
      intro hsound
      exact absurd (hsound ⟨":v", .null⟩ List.mem_cons_self).1 (by decide)
    obtain ⟨-, -, -, e, -, -, -, -, hexecute, -⟩ :=
      hfault ⟨_, List.mem_cons_of_mem _ List.mem_cons_self, hunsound⟩
    exact ⟨e, hexecute⟩

end BatchKind

end Dynamo
