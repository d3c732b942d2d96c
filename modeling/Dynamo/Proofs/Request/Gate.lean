import Dynamo.Exchange
import Dynamo.Json.Printer
import Dynamo.Mock
import Dynamo.Proofs.Request.Body
import Dynamo.Proofs.Requester

/-! # The gate before the service

A request is looked at before anything is sent, and its body is written afterwards. The two do not
share code, so they could disagree about the documents of a request. They do not: a request that was
found to be without fault has a body (`DataOperation.exists_toJson`), whichever of the operations it
is for, and so `DataOperation.execute_gate` says in full when nothing is sent and what is sent
otherwise.

* `DataOperation.Holds`: the documents of a request.
* `Exchange.Raises`: errors of an exchange that are not those of the response. -/

namespace Dynamo

open Dynamo.Except

/-! ### Documents and faults of requests -/

/-- The first fault in the parameters of a request; batches of writes have no parameters. -/
def DataOperation.fault? : (op : DataOperation) → op.Request → Option ParamError
  | .item _, (r : ItemRequest _) => r.fault
  | .batchGet, (r : BatchGetRequest) => r.fault
  | .batchWrite, _ => none

/-- **The document is one of the request**: the item or key that it is about, the key to start at,
the bound values, or a key or an item of a batch. -/
def DataOperation.Holds : (op : DataOperation) → op.Request → Document → Prop
  | .item op, (r : ItemRequest _), m =>
    (op.subjectName?.isSome ∧ m = r.input.subject) ∨ r.input.exclusiveStartKey = some m ∨
      m = r.input.bindings.values
  | .batchGet, (r : BatchGetRequest), m => ∃ e ∈ r.batch, m ∈ e.2.keys
  | .batchWrite, (r : BatchWriteRequest), m =>
    ∃ e ∈ r.batch, WriteRequest.put m ∈ e.2 ∨ WriteRequest.delete m ∈ e.2

theorem BatchWriteRequest.mem_documents {r : BatchWriteRequest} {m : Document} :
    m ∈ r.documents ↔ ∃ e ∈ r.batch, WriteRequest.put m ∈ e.2 ∨ WriteRequest.delete m ∈ e.2 := by
  rw [documents, List.mem_flatMap]
  refine exists_congr fun e => and_congr_right fun _ => ?_
  rw [List.mem_map]
  constructor
  · rintro ⟨w | w, hw, rfl⟩
    · exact .inl hw
    · exact .inr hw
  · rintro (hw | hw)
    · exact ⟨_, hw, rfl⟩
    · exact ⟨_, hw, rfl⟩

namespace Error

theorem checkDocuments_eq_ok {ms : List Document} :
    checkDocuments ms = .ok () ↔ ∀ m ∈ ms, m.HasWireForm := by
  induction ms with
  | nil => simp [checkDocuments]
  | cons m ms ih =>
    rw [List.forall_mem_cons, ← ih, checkDocuments, Document.HasWireForm]
    cases m.toWire with
    | error e => simp
    | ok ws => simp

theorem checkDocuments_eq_error {ms : List Document} {e : Error}
    (h : checkDocuments ms = .error e) : ∃ cause, e = .encode cause := by
  induction ms with
  | nil => exact absurd h nofun
  | cons m ms ih =>
    rw [checkDocuments] at h
    cases hm : m.toWire with
    | error cause =>
      rw [hm] at h
      exact ⟨cause, (Except.error.inj h).symm⟩
    | ok ws =>
      rw [hm] at h
      exact ih h

end Error

namespace DataOperation

/-- The documents that are looked at are those of the request. -/
theorem check_eq (op : DataOperation) (r : op.Request) :
    ∃ ms, (∀ m, m ∈ ms ↔ op.Holds r m) ∧
      op.check r = (do Error.checkParams (op.fault? r); Error.checkDocuments ms) := by
  cases op with
  | item op => exact ⟨_, fun m => ItemInput.mem_documents, rfl⟩
  | batchGet => exact ⟨_, fun m => List.mem_flatMap, rfl⟩
  | batchWrite => exact ⟨_, fun m => BatchWriteRequest.mem_documents, rfl⟩

theorem check_of_fault {op : DataOperation} {r : op.Request} {e : ParamError}
    (h : op.fault? r = some e) : op.check r = .error (.invalidParam e) := by
  obtain ⟨ms, -, hcheck⟩ := check_eq op r
  rw [hcheck, h]
  rfl

/-- **What looking at a request finds**: the first fault in the parameters, or a document that
cannot travel, or nothing. -/
theorem check_cases (op : DataOperation) (r : op.Request) :
    (∃ e, op.fault? r = some e ∧ op.check r = .error (.invalidParam e)) ∨
    (op.fault? r = none ∧ (∃ m, op.Holds r m ∧ ¬ m.HasWireForm) ∧
      ∃ cause, op.check r = .error (.encode cause)) ∨
    (op.fault? r = none ∧ (∀ m, op.Holds r m → m.HasWireForm) ∧ op.check r = .ok ()) := by
  obtain ⟨ms, hms, hcheck⟩ := check_eq op r
  rw [hcheck]
  cases hfault : op.fault? r with
  | some e => exact .inl ⟨e, rfl, rfl⟩
  | none =>
    refine .inr ?_
    show (_ ∧ _ ∧ ∃ cause, Error.checkDocuments ms = _) ∨ (_ ∧ _ ∧ Error.checkDocuments ms = _)
    cases hdocs : Error.checkDocuments ms with
    | error e =>
      obtain ⟨cause, rfl⟩ := Error.checkDocuments_eq_error hdocs
      have hnot : ¬ ∀ m ∈ ms, m.HasWireForm := fun hall => by
        rw [Error.checkDocuments_eq_ok.mpr hall] at hdocs
        exact absurd hdocs nofun
      simp only [not_forall] at hnot
      obtain ⟨m, hm, hw⟩ := hnot
      exact .inl ⟨rfl, ⟨m, (hms m).mp hm, hw⟩, cause, rfl⟩
    | ok u =>
      have hall := Error.checkDocuments_eq_ok.mp hdocs
      exact .inr ⟨rfl, fun m hm => hall m ((hms m).mpr hm), rfl⟩

end DataOperation

/-! ### Bodies -/

/-- **A request whose documents can travel has a body.** -/
theorem DataOperation.exists_toJson {op : DataOperation} {r : op.Request}
    (h : ∀ m, op.Holds r m → m.HasWireForm) : ∃ body, op.toJson (op.input r) = .ok body := by
  cases op with
  | item op => exact ItemInput.exists_toJson fun m hm => h m (ItemInput.mem_documents.mp hm)
  | batchGet =>
    refine BatchGetInput.exists_toJson.mpr fun e he m hm => ?_
    exact h m ⟨e, Entries.mem_of_mem_ofList he, hm⟩
  | batchWrite =>
    refine BatchWriteInput.exists_toJson.mpr fun e he w hw => ?_
    refine h w.document ⟨e, Entries.mem_of_mem_ofList he, ?_⟩
    cases w with
    | put item => exact .inl hw
    | delete key => exact .inr hw

/-! ### What is raised -/

namespace Exchange

variable {α : Type}

/-- **The exchange ends with an error that is not the one of the response.** -/
def Raises (e : Error) : Exchange α → Prop
  | .done result => result = .error e
  | .ask _ _ next => ∃ response, response ≠ .error e ∧ next response = .error e

theorem reading_eq_error {shape : Shape α} {response : Bytes} {e : Error}
    (h : reading shape response = .error e) : ∃ cause, e = .unmarshal cause := by
  obtain ⟨cause, -, rfl⟩ := mapError_eq_error.mp h
  exact ⟨cause, rfl⟩

end Exchange

theorem DataOperation.readOutput_eq_error {op : DataOperation} {i : op.Input} {response : Bytes}
    {e : Error} (h : op.readOutput i response = .error e) : ∃ cause, e = .unmarshal cause := by
  cases op with
  | item op =>
    change op.readOutput i response = _ at h
    unfold ItemOperation.readOutput at h
    split at h
    · exact absurd h nofun
    · exact Exchange.reading_eq_error h
  | batchGet => exact Exchange.reading_eq_error h
  | batchWrite => exact Exchange.reading_eq_error h

/-! ### The gate -/

namespace DataOperation

/-- **What an exchange about data is**: a fault in the parameters, a document that cannot travel, or
one request whose body is that of the operation. -/
theorem execute_cases (op : DataOperation) (r : op.Request) :
    (∃ e, op.fault? r = some e ∧ op.execute r = .done (.error (.invalidParam e))) ∨
    (op.fault? r = none ∧ (∃ m, op.Holds r m ∧ ¬ m.HasWireForm) ∧
      ∃ cause, op.execute r = .done (.error (.encode cause))) ∨
    (op.fault? r = none ∧ (∀ m, op.Holds r m → m.HasWireForm) ∧
      ∃ body, op.toJson (op.input r) = .ok body ∧
        op.execute r = .ask op.operation.name body fun response =>
          response.bind (op.readOutput (op.input r))) := by
  unfold execute
  rcases check_cases op r with ⟨e, hfault, hcheck⟩ | ⟨hfault, hdoc, cause, hcheck⟩ |
    ⟨hfault, hdocs, hcheck⟩
  · rw [hcheck]
    exact .inl ⟨e, hfault, rfl⟩
  · rw [hcheck]
    exact .inr (.inl ⟨hfault, hdoc, cause, rfl⟩)
  · rw [hcheck]
    obtain ⟨body, hbody⟩ := exists_toJson hdocs
    refine .inr (.inr ⟨hfault, hdocs, body, hbody, ?_⟩)
    show Exchange.call _ (op.toJson (op.input r)) _ = _
    rw [hbody]
    rfl

/-- What an exchange raises: what was found before anything was sent, or that a response cannot be
read. -/
theorem raises_cases {op : DataOperation} {r : op.Request} {e : Error}
    (h : (op.execute r).Raises e) :
    (∃ cause, op.fault? r = some cause ∧ e = .invalidParam cause) ∨ (∃ cause, e = .encode cause) ∨
      ∃ cause, e = .unmarshal cause := by
  rcases execute_cases op r with ⟨cause, hfault, hx⟩ | ⟨-, -, cause, hx⟩ | ⟨-, -, body, -, hx⟩
  · rw [hx] at h
    exact .inl ⟨cause, hfault, (Except.error.inj h).symm⟩
  · rw [hx] at h
    exact .inr (.inl ⟨cause, (Except.error.inj h).symm⟩)
  · rw [hx] at h
    obtain ⟨response, hne, hnext⟩ := h
    cases response with
    | error e' => exact absurd (congrArg Except.error (Except.error.inj hnext)) hne
    | ok bytes => exact .inr (.inr (readOutput_eq_error hnext))

theorem execute_of_fault {op : DataOperation} {r : op.Request} {e : ParamError}
    (h : op.fault? r = some e) : op.execute r = .done (.error (.invalidParam e)) := by
  unfold execute
  rw [check_of_fault h]

theorem execute_ne_invalidParam {op : DataOperation} {r : op.Request} (h : op.fault? r = none)
    (e : ParamError) : op.execute r ≠ .done (.error (.invalidParam e)) := by
  intro hdone
  rcases execute_cases op r with ⟨cause, hcause, -⟩ | ⟨-, -, cause, hx⟩ | ⟨-, -, body, -, hx⟩
  · exact absurd (h.symm.trans hcause) nofun
  · exact absurd (Except.error.inj (Exchange.done.inj (hx.symm.trans hdone))) nofun
  · exact absurd (hx.symm.trans hdone) nofun

/-- A request is sent if it is without fault and its documents can travel. -/
theorem sent?_eq_some_iff {op : DataOperation} {r : op.Request}
    {x : String × Json} :
    (op.execute r).sent? = some x ↔ op.fault? r = none ∧ (∀ m, op.Holds r m → m.HasWireForm) ∧
      ∃ body, op.toJson (op.input r) = .ok body ∧ x = (op.operation.name, body) := by
  rcases op.execute_cases r with ⟨e, hfault, hx⟩ | ⟨-, ⟨m, hm, hnot⟩, cause, hx⟩ |
    ⟨hfault, hdocs, body, hbody, hx⟩
  · rw [hx]
    refine iff_of_false nofun fun h => ?_
    exact absurd (hfault.symm.trans h.1) nofun
  · rw [hx]
    exact iff_of_false nofun fun h => hnot (h.2.1 m hm)
  · rw [hx]
    constructor
    · intro h
      exact ⟨hfault, hdocs, body, hbody, (Option.some.inj h).symm⟩
    · rintro ⟨-, -, body', hbody', rfl⟩
      obtain rfl := Except.ok.inj (hbody.symm.trans hbody')
      rfl

/-- **The gate.** A fault in the parameters ends an exchange before anything is sent. Without one,
a document that cannot travel does, and nothing else: otherwise the body of the request is sent
once, to the target of the operation. That the body cannot be written is never a result, unless it
was given as a response. -/
theorem execute_gate (op : DataOperation) (r : op.Request) :
    (∀ e, op.fault? r = some e → op.execute r = .done (.error (.invalidParam e))) ∧
    (op.fault? r = none →
      ((∃ cause, op.execute r = .done (.error (.encode cause))) ↔
        ∃ m, op.Holds r m ∧ ¬ m.HasWireForm) ∧
      ((∀ m, op.Holds r m → m.HasWireForm) →
        ∃ body, op.toJson (op.input r) = .ok body ∧
          (op.execute r).sent? = some (op.operation.name, body) ∧
          ∀ {μ : Type → Type} [Monad μ] (send : String → Json → μ (Except Error Bytes)),
            (op.execute r).run send = do
              let response ← send op.operation.name body
              return response.bind (op.readOutput (op.input r)))) ∧
    (∀ cause, ¬ (op.execute r).Raises (.marshal cause)) ∧
    ∀ (q : Requester) (network : SignedPost → Option Response) (now : Instant) (cause : EncodeError),
      (op.execute r).run (m := Id) (fun target body =>
        (q.send network now target body.toBytes).2) ≠ .error (.marshal cause) := by
  have hraises : ∀ cause, ¬ (op.execute r).Raises (.marshal cause) := by
    intro cause h
    rcases raises_cases h with ⟨_, -, he⟩ | ⟨_, he⟩ | ⟨_, he⟩
    · exact absurd he nofun
    · exact absurd he nofun
    · exact absurd he nofun
  refine ⟨fun e he => ?_, fun hnone => ?_, hraises, fun q network now cause => ?_⟩
  · exact execute_of_fault he
  · rcases execute_cases op r with ⟨e, he, -⟩ | ⟨-, ⟨m, hm, hw⟩, cause, hx⟩ |
      ⟨-, hdocs, body, hbody, hx⟩
    · rw [hnone] at he
      exact absurd he nofun
    · exact ⟨⟨fun _ => ⟨m, hm, hw⟩, fun _ => ⟨cause, hx⟩⟩, fun hdocs => absurd (hdocs m hm) hw⟩
    · refine ⟨⟨fun ⟨cause, hdone⟩ => ?_, fun ⟨m, hm, hw⟩ => absurd (hdocs m hm) hw⟩,
        fun _ => ⟨body, hbody, ?_, fun send => ?_⟩⟩
      · rw [hx] at hdone
        exact absurd hdone nofun
      · rw [hx]
        rfl
      · rw [hx]
        rfl
  · intro hrun
    refine hraises cause ?_
    -- the requester does not fail so itself, so that the exchange would raise it
    cases hx : op.execute r with
    | done result =>
      rw [hx] at hrun
      exact hrun
    | ask target body next =>
      rw [hx] at hrun
      exact ⟨_, q.send_ne_marshal network now target body.toBytes cause, hrun⟩

/-- Of three requests to put an item, the first is sent, the second has an item that cannot travel
and the third an alias that is not bound to a string. -/
theorem execute_gate_put :
    ((item .put).execute (ItemRequest.new "t" [("a", .null)])).sent? =
        some ("PutItem", .obj [("TableName", .str "t"),
          ("Item", .obj [("a", .obj [("NULL", .bool true)])])]) ∧
      (∃ cause, (item .put).execute (ItemRequest.new "t" [("a", .list [.list []])]) =
        .done (.error (.encode cause))) ∧
      (item .put).execute ((ItemRequest.new "t" []).bind [⟨"#n", .null⟩]) =
        .done (.error (.invalidParam (.nameNotString "#n" .null))) := by
  refine ⟨?_, ?_, ?_⟩
  · obtain ⟨body, hbody, hsent, -⟩ :=
      ((execute_gate (item .put) (ItemRequest.new "t" [("a", .null)])).2.1 rfl).2 (by
        rintro m (⟨-, rfl⟩ | hstart | rfl)
        · exact ⟨_, rfl⟩
        · exact absurd hstart nofun
        · exact ⟨_, rfl⟩)
    rw [hsent, ← Except.ok.inj hbody]
    rfl
  · refine ((execute_gate (item .put)
      (ItemRequest.new "t" [("a", .list [.list []])])).2.1 rfl).1.mpr ?_
    refine ⟨_, .inl ⟨rfl, rfl⟩, fun hwire => ?_⟩
    have hfilled := Document.hasWireForm_iff.mp hwire [.list []] (.entry List.mem_cons_self .self)
    exact absurd (hfilled (.list []) List.mem_cons_self) nofun
  · exact (execute_gate (item .put) ((ItemRequest.new "t" []).bind [⟨"#n", .null⟩])).1 _ rfl

end DataOperation

/-! ### The gate before the mock -/

namespace Mock

/-- The mock refuses what an exchange refuses, and then stays as it was. -/
theorem execute_cases (op : DataOperation) (r : op.Request) (m : Mock) :
    (∃ e, op.fault? r = some e ∧ m.execute op r = (.error (.invalidParam e), m)) ∨
    (op.fault? r = none ∧ ∃ cause, m.execute op r = (.error (.encode cause), m)) ∨
    (op.fault? r = none ∧ m.execute op r = m.receive op r) := by
  unfold execute
  rcases op.check_cases r with ⟨e, hfault, hcheck⟩ | ⟨hfault, -, cause, hcheck⟩ |
    ⟨hfault, -, hcheck⟩
  · rw [hcheck]
    exact .inl ⟨e, hfault, rfl⟩
  · rw [hcheck]
    exact .inr (.inl ⟨hfault, cause, rfl⟩)
  · rw [hcheck]
    exact .inr (.inr ⟨hfault, rfl⟩)

theorem execute_ne_invalidParam {op : DataOperation} {r : op.Request}
    (h : op.fault? r = none) (m : Mock) (e : ParamError) :
    (m.execute op r).1 ≠ .error (.invalidParam e) := by
  rcases m.execute_cases op r with ⟨e', he', -⟩ | ⟨-, cause, hx⟩ | ⟨-, hx⟩
  · rw [h] at he'
    exact absurd he' nofun
  · rw [hx]
    exact fun heq => absurd (Except.error.inj heq) nofun
  · rw [hx, receive, answer]
    cases m.errors op.operation with
    | none => exact nofun
    | some cause => exact fun heq => absurd (Except.error.inj heq) nofun

theorem execute_of_fault {op : DataOperation} {r : op.Request} {e : ParamError}
    (h : op.fault? r = some e) (m : Mock) : m.execute op r = (.error (.invalidParam e), m) := by
  unfold execute
  rw [DataOperation.check_of_fault h]

end Mock

end Dynamo
