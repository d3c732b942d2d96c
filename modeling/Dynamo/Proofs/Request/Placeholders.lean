import Dynamo.Proofs.Request.Chain
import Dynamo.Proofs.Wire.Verbatim

/-! # Placeholders that are sent

The values that a request binds are attributes of one document, and an attribute that holds an empty
list or set is left out of what is sent. So a body has a member for each placeholder whose value is
no empty list or set, and for no other (`ItemRequest.chain_sends_placeholders`); a request that
binds an empty list or set is sent without it (`ItemRequest.chain_loses_placeholder`). -/

namespace Dynamo

open Dynamo.Except

/-! ### The member of the bound values -/

/-- The name of the member that holds the bound values. -/
def Bindings.valuesName : String := "ExpressionAttributeValues"

theorem Document.toJson_eq_ok {m : Document} {j : Json} (h : m.toJson = .ok j) :
    ∃ ms, j = .obj ms ∧ List.Forall₂ (fun e f => e.1 = f.1 ∧ e.2.toJson = .ok f.2)
      (m.filter fun e => !e.2.isEmptyCollection) ms := by
  obtain ⟨ws, hws, rfl⟩ := map_eq_ok.mp h
  refine ⟨_, rfl, ?_⟩
  rw [WireValue.entriesToJson_eq_map, List.forall₂_map_right_iff]
  refine (Value.entriesToWire_eq_ok.mp hws).imp fun e f hef => ⟨hef.1, ?_⟩
  rw [Value.toJson, hef.2]
  rfl

theorem Bindings.filter_members {b : Bindings} {ms : List (String × Json)}
    (h : b.members = .ok ms) :
    (b.values = [] ∧ ms.filter (fun e => e.1 = valuesName) = []) ∨
      (b.values ≠ [] ∧ ∃ j, b.values.toJson = .ok j ∧
        ms.filter (fun e => e.1 = valuesName) = [(valuesName, j)]) := by
  have hnames : (if b.names.isEmpty then []
      else [("ExpressionAttributeNames", Json.ofDict .str b.names)]).filter
        (fun e => e.1 = valuesName) = [] := by
    split
    · rfl
    · exact List.filter_cons_of_neg (by simp [valuesName])
  unfold members at h
  cases hvalues : b.values with
  | nil =>
    rw [hvalues] at h
    obtain rfl := pure_eq_ok.mp h
    exact .inl ⟨rfl, hnames⟩
  | cons e m =>
    rw [hvalues] at h
    obtain ⟨j, hj, h⟩ := bind_eq_ok.mp h
    obtain rfl := pure_eq_ok.mp h
    refine .inr ⟨nofun, j, hj, ?_⟩
    rw [List.filter_append, hnames]
    rfl

namespace ItemInput

variable {op : ItemOperation}

/-- Of the members of a body, only those of the bindings can hold the bound values. -/
theorem filter_members {i : ItemInput op} {body : Json} (h : i.toJson = .ok body) :
    ∃ members bound, body = .obj members ∧ i.bindings.members = .ok bound ∧
      members.filter (fun e => e.1 = Bindings.valuesName) =
        bound.filter fun e => e.1 = Bindings.valuesName := by
  obtain ⟨members, hmembers, rfl⟩ := map_eq_ok.mp h
  rw [members_eq] at hmembers
  obtain ⟨subject, hsubject, hmembers⟩ := bind_eq_ok.mp hmembers
  obtain ⟨start, hstart, hmembers⟩ := bind_eq_ok.mp hmembers
  obtain ⟨bound, hbound, hmembers⟩ := bind_eq_ok.mp hmembers
  obtain rfl := pure_eq_ok.mp hmembers
  have hnone : ∀ ms : List (String × Json), (∀ e ∈ ms, e.1 ≠ Bindings.valuesName) →
      ms.filter (fun e => e.1 = Bindings.valuesName) = [] := by
    intro ms hms
    exact List.filter_eq_nil_iff.mpr fun e he => by simpa using hms e he
  have hstart' : ∀ e ∈ start, e.1 ≠ Bindings.valuesName := by
    intro e he
    rw [name_of_documentMember hstart e he]
    decide
  have hcapacity : ∀ e ∈ capacityMember i.returnConsumedCapacity, e.1 ≠ Bindings.valuesName :=
    ne_of_mem_optionMember (by decide)
  refine ⟨_, bound, rfl, hbound, ?_⟩
  unfold membersAfter
  rw [List.filter_append, List.filter_append, List.filter_append, List.filter_append,
    hnone _ (ne_of_mem_membersBefore (by decide) hsubject), hnone _ hstart',
    hnone _ (ne_of_mem_optionMember (by decide)), hnone _ hcapacity]
  rfl

end ItemInput

namespace ItemRequest

variable {op : ItemOperation}

/-! ### What is sent, and what is not -/

theorem toJson_of_execute {r : ItemRequest op} {target : String} {body : Json}
    {next : Except Error Bytes → Except Error op.Output}
    (h : (DataOperation.item op).execute r = .ask target body next) :
    r.input.toJson = .ok body := by
  rcases DataOperation.execute_cases (.item op) r with ⟨e, -, hx⟩ | ⟨-, -, cause, hx⟩ |
    ⟨-, -, body', hbody, hx⟩
  · exact absurd (hx.symm.trans h) nofun
  · exact absurd (hx.symm.trans h) nofun
  · obtain ⟨-, rfl, -⟩ := Exchange.ask.inj (hx.symm.trans h)
    exact hbody

/-- Nothing is left out if and only if no bound value is an empty list or set. -/
theorem keys_filter_eq_iff {m : Document} :
    Entries.keys (m.filter fun e => !e.2.isEmptyCollection) = Entries.keys m ↔
      ∀ e ∈ m, e.2.isEmptyCollection = false := by
  constructor
  · intro h e he
    have hlength : (m.filter fun e => !e.2.isEmptyCollection).length = m.length := by
      have := congrArg List.length h
      simpa [Entries.keys] using this
    simpa using List.length_filter_eq_length_iff.mp hlength e he
  · intro h
    rw [List.filter_eq_self.mpr fun e he => by rw [h e he]; rfl]

/-- **The placeholders that are sent.** If a request that a chain of settings makes is sent, its body
has a member for the bound values unless nothing is bound, and in it one member for each bound value
that is no empty list or set, which is the typed JSON of that value; so each placeholder is sent if
and only if none stands for an empty list or set. A bound value that is none, and that has no wire
form, ends the exchange before anything is sent. -/
theorem chain_sends_placeholders (op : ItemOperation) (tableName : String) (subject : Document)
    (settings : List op.Setting) :
    (∀ {target : String} {body : Json} {next : Except Error Bytes → Except Error op.Output},
      (DataOperation.item op).execute (chain tableName subject settings) =
          .ask target body next →
        ∃ members values, body = .obj members ∧
          members.filter (fun e => e.1 = Bindings.valuesName) =
            (if (chain tableName subject settings).input.bindings.values = [] then []
              else [(Bindings.valuesName, .obj values)]) ∧
          List.Forall₂ (fun e f => e.1 = f.1 ∧ e.2.toJson = .ok f.2)
            ((chain tableName subject settings).input.bindings.values.filter
              fun e => !e.2.isEmptyCollection) values ∧
          (Entries.keys values =
              Entries.keys (chain tableName subject settings).input.bindings.values ↔
            ∀ e ∈ (chain tableName subject settings).input.bindings.values,
              e.2.isEmptyCollection = false)) ∧
    ((chain tableName subject settings).fault = none →
      ∀ e ∈ (chain tableName subject settings).input.bindings.values,
        e.2.isEmptyCollection = false → (∀ w, e.2.toWire ≠ .ok w) →
          ∃ cause, (DataOperation.item op).execute (chain tableName subject settings) =
            .done (.error (.encode cause))) := by
  set r := chain tableName subject settings
  refine ⟨fun h => ?_, fun hfault e he hne hw => ?_⟩
  · obtain ⟨members, bound, rfl, hbound, hfilter⟩ := ItemInput.filter_members (toJson_of_execute h)
    rcases Bindings.filter_members hbound with ⟨hnil, hnone⟩ | ⟨hne, j, hj, hone⟩
    · refine ⟨members, [], rfl, ?_, ?_, ?_⟩
      · rw [if_pos hnil, hfilter, hnone]
      · rw [hnil]
        exact .nil
      · rw [hnil]
        exact ⟨fun _ _ he => absurd he List.not_mem_nil, fun _ => rfl⟩
    · obtain ⟨values, rfl, hvalues⟩ := Document.toJson_eq_ok hj
      refine ⟨members, values, rfl, ?_, hvalues, ?_⟩
      · rw [if_neg hne, hfilter, hone]
      · rw [← keys_filter_eq_iff, Entries.keys_eq_of_forall₂ (hvalues.imp fun e f hef => hef.1)]
  · rcases DataOperation.execute_cases (.item op) r with ⟨e', he', -⟩ | ⟨-, -, cause, hx⟩ |
      ⟨-, hdocs, -⟩
    · exact absurd (hfault.symm.trans he') nofun
    · exact ⟨cause, hx⟩
    · -- the bound values can travel as a document, and so can each that is not left out
      have hwire : r.input.bindings.values.HasWireForm := hdocs _ (.inr (.inr rfl))
      obtain ⟨w, hok⟩ := Value.exists_entriesToWire.mp hwire e he hne
      exact absurd hok (hw w)

/-- An item is put under a condition on two placeholders, of which both are sent; with an item of a
list that is an empty list, nothing is sent. -/
theorem chain_sends_placeholders_put :
    (∃ members values, Json.obj [("TableName", .str "t"), ("Item", .obj []),
          ("ConditionExpression", .str "a = :v OR a = :w"),
          ("ExpressionAttributeValues", .obj [(":v", .obj [("NULL", .bool true)]),
            (":w", .obj [("M", .obj [])])])] = .obj members ∧
        members.filter (fun e => e.1 = Bindings.valuesName) = [(Bindings.valuesName, .obj values)] ∧
        (Entries.keys values = [":v", ":w"] ↔
          ∀ e ∈ ([(":v", .null), (":w", .document [("b", .list [])])] : Document),
            e.2.isEmptyCollection = false)) ∧
      ∃ cause, (DataOperation.item .put).execute (chain "t" []
        [⟨.expression .condition "a = :v" [⟨":v", .list [.list []]⟩], rfl⟩]) =
          .done (.error (.encode cause)) := by
  constructor
  · obtain ⟨members, values, hbody, hfilter, -, hkeys⟩ := (chain_sends_placeholders .put "t" []
      [⟨.expression .condition "a = :v OR a = :w"
        [⟨":v", .null⟩, ⟨":w", .document [("b", .list [])]⟩], rfl⟩]).1 rfl
    exact ⟨members, values, hbody, hfilter, hkeys⟩
  · refine (chain_sends_placeholders .put "t" []
      [⟨.expression .condition "a = :v" [⟨":v", .list [.list []]⟩], rfl⟩]).2 rfl
      (":v", .list [.list []]) List.mem_cons_self rfl fun w hw => ?_
    have hitem := (Value.exists_toWire_iff.mp ⟨w, hw⟩).2 [.list []] .self (.list [])
      List.mem_cons_self
    exact absurd hitem nofun

/-- **A placeholder that stands for an empty list is lost**: it has no wire form, but the request
that binds it is sent, with a member for the bound values that is empty. -/
theorem chain_loses_placeholder :
    (chain "t" [] [⟨.expression .condition "a = :v" [⟨":v", .list []⟩], rfl⟩] :
        ItemRequest .put).input.bindings.values = [(":v", .list [])] ∧
      (∀ w, (Value.list []).toWire ≠ .ok w) ∧
      ((DataOperation.item .put).execute
        (chain "t" [] [⟨.expression .condition "a = :v" [⟨":v", .list []⟩], rfl⟩])).sent? =
          some ("PutItem", .obj [("TableName", .str "t"), ("Item", .obj []),
            ("ConditionExpression", .str "a = :v"), ("ExpressionAttributeValues", .obj [])]) :=
  ⟨rfl, fun _ => nofun, rfl⟩

end ItemRequest

end Dynamo
