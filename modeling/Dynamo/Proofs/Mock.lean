import Dynamo.Proofs.Request.Gate

/-! # The mock and the wire

Tests look at the calls that a mock got, and take them for what the service would have got. Here a
request is carried out twice: by a mock, and by a requester of any kind that keeps what it is asked.

* `Mock.execute_faithful`: both refuse the request with one error, or one call is kept and one body
  is sent, and the call is what was sent.
* `Mock.executeAll_faithful`: the same for any requests one after the other. -/

namespace Dynamo

/-! ### A requester that keeps what it is asked -/

namespace Exchange

variable {α σ : Type}

/-- The requester `send`, with a list of the targets and bodies that it was asked to send. -/
def keeping (send : String → Json → StateM σ (Except Error Bytes)) (target : String) (body : Json) :
    StateM (List (String × Json) × σ) (Except Error Bytes) := fun (sent, s) =>
  let (response, s) := send target body s
  (response, sent ++ [(target, body)], s)

theorem run_keeping_done (send : String → Json → StateM σ (Except Error Bytes))
    (result : Except Error α) (w : List (String × Json) × σ) :
    (done result).run (keeping send) w = (result, w) := rfl

theorem run_keeping_ask (send : String → Json → StateM σ (Except Error Bytes)) (target : String)
    (body : Json) (next : Except Error Bytes → Except Error α) (w : List (String × Json) × σ) :
    (ask target body next).run (keeping send) w =
      (next (send target body w.2).1, w.1 ++ [(target, body)], (send target body w.2).2) := rfl

end Exchange

/-! ### Calls and bodies -/

/-- **The call is what was sent**: its operation is the one that was asked for, and its JSON is the
body. -/
structure MockCall.Matches (c : MockCall) (sent : String × Json) : Prop where
  target : sent.1 = c.operation.operation.name
  toJson : c.toJson = .ok sent.2

/-- The names of operations are bare, so a requester makes them complete. -/
theorem Requester.qualified_name (op : Operation) : qualified op.name = op.target := by
  cases op <;> decide

/-- What is signed for the network has the target of the operation, and the body as it is. -/
theorem Requester.post_name {q : Requester} {now : Instant} {op : Operation} {body : Bytes}
    {p : SignedPost} (h : q.post now op.name body = .ok p) : p.target = op.target ∧ p.body = body := by
  obtain ⟨plain, signed, -, -, rfl⟩ := post_eq_ok.mp h
  exact ⟨qualified_name op, rfl⟩

/-! ### One request -/

namespace Mock

variable {σ : Type} (send : String → Json → StateM σ (Except Error Bytes))

/-- **A request is refused twice, or kept and sent.** -/
theorem execute_step (op : DataOperation) (r : op.Request) (m : Mock)
    (w : List (String × Json) × σ) :
    (∃ e, m.execute op r = (.error e, m) ∧
        (op.execute r).run (Exchange.keeping send) w = (.error e, w)) ∨
      ∃ call sent, call.Matches sent ∧ call.operation = op ∧
        m.execute op r = (m.answer op, { m with calls := m.calls ++ [call] }) ∧
        (op.execute r).run (Exchange.keeping send) w =
          ((send sent.1 sent.2 w.2).1.bind (op.readOutput (op.input r)), w.1 ++ [sent],
            (send sent.1 sent.2 w.2).2) := by
  rcases op.check_cases r with ⟨e, -, hcheck⟩ | ⟨-, -, cause, hcheck⟩ | ⟨-, hdocs, hcheck⟩
  · refine .inl ⟨.invalidParam e, ?_, ?_⟩
    · rw [execute, hcheck]
    · rw [DataOperation.execute, hcheck, Exchange.run_keeping_done]
  · refine .inl ⟨.encode cause, ?_, ?_⟩
    · rw [execute, hcheck]
    · rw [DataOperation.execute, hcheck, Exchange.run_keeping_done]
  · obtain ⟨body, hbody⟩ := DataOperation.exists_toJson hdocs
    have hask : op.execute r = .ask op.operation.name body fun response =>
        response.bind (op.readOutput (op.input r)) := by
      rw [DataOperation.execute, hcheck, DataOperation.exchange, Exchange.call.eq_def, hbody]
    refine .inr ⟨⟨op, op.input r⟩, (op.operation.name, body), ⟨rfl, hbody⟩, rfl, ?_, ?_⟩
    · rw [execute, hcheck, receive]
    · rw [hask, Exchange.run_keeping_ask]

/-- **The mock is faithful to the wire.** Of a request, however it was built, the mock keeps one call
where a requester is asked to send one body, and the call is what was sent; where the mock keeps none,
the requester is asked for nothing, and both end with the same error. -/
theorem execute_faithful (op : DataOperation) (r : op.Request) (m : Mock)
    (w : List (String × Json) × σ) :
    let mock := m.execute op r
    let wire := (op.execute r).run (Exchange.keeping send) w
    ∃ calls sent, calls.length ≤ 1 ∧
      mock.2 = { m with calls := m.calls ++ calls } ∧ wire.2.1 = w.1 ++ sent ∧
      (calls ≠ [] ↔ sent ≠ []) ∧
      (∀ c ∈ calls, c.operation = op ∧ ∃ body, c.toJson = .ok body ∧
        sent = [(c.operation.operation.name, body)] ∧
        ∀ (q : Requester) (now : Instant) (p : SignedPost),
          q.post now c.operation.operation.name body.toBytes = .ok p →
            p.target = c.operation.operation.target ∧ p.body = body.toBytes) ∧
      (calls = [] → wire.2.2 = w.2 ∧ ∃ e, mock.1 = .error e ∧ wire.1 = .error e) := by
  rcases execute_step send op r m w with ⟨e, hmock, hwire⟩ |
    ⟨call, sent, hmatches, hop, hmock, hwire⟩
  · rw [hmock, hwire]
    refine ⟨[], [], Nat.zero_le 1, ?_, (List.append_nil _).symm,
      iff_of_false (fun h => h rfl) (fun h => h rfl),
      fun c hc => absurd hc List.not_mem_nil, fun _ => ⟨rfl, e, rfl, rfl⟩⟩
    rw [List.append_nil]
  · rw [hmock, hwire]
    refine ⟨[call], [sent], Nat.le_refl 1, rfl, rfl,
      iff_of_true (List.cons_ne_nil _ _) (List.cons_ne_nil _ _), ?_,
      fun hnil => absurd hnil (List.cons_ne_nil _ _)⟩
    intro c hc
    obtain rfl := List.mem_singleton.mp hc
    refine ⟨hop, sent.2, hmatches.toJson, ?_, fun q now p => Requester.post_name⟩
    rw [← hmatches.target]

/-! ### Requests one after the other -/

/-- The mock that got the requests, one after the other, whatever it answered. -/
def executeAll (m : Mock) (requests : List ((op : DataOperation) × op.Request)) : Mock :=
  requests.foldl (fun m r => (m.execute r.1 r.2).2) m

/-- What was sent for the requests, and the state of the requester after them. -/
def sendAll (w : List (String × Json) × σ) (requests : List ((op : DataOperation) × op.Request)) :
    List (String × Json) × σ :=
  requests.foldl (fun w r => ((r.1.execute r.2).run (Exchange.keeping send) w).2) w

/-- **The calls of a mock are what was sent**, one by one. -/
theorem executeAll_faithful (requests : List ((op : DataOperation) × op.Request)) (m : Mock)
    (w : List (String × Json) × σ) (h : List.Forall₂ MockCall.Matches m.calls w.1) :
    List.Forall₂ MockCall.Matches (m.executeAll requests).calls (sendAll send w requests).1 := by
  induction requests generalizing m w with
  | nil => exact h
  | cons r requests ih =>
    rw [executeAll, sendAll, List.foldl_cons, List.foldl_cons]
    refine ih _ _ ?_
    rcases execute_step send r.1 r.2 m w with ⟨e, hmock, hwire⟩ |
      ⟨call, sent, hmatches, -, hmock, hwire⟩
    · rw [hmock, hwire]
      exact h
    · rw [hmock, hwire]
      exact List.rel_append h (.cons hmatches .nil)

end Mock

end Dynamo
