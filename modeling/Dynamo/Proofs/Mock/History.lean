import Dynamo.Mock
import Dynamo.Proofs.Dict
import Mathlib.Data.List.DropRight

/-! # What a mock knows of its past

A mock is used by tests in any order: requests are carried out, answers and errors are set and taken
away, and the calls are forgotten. Whoever does any of this does it to the same mock, one after the
other, so a run is a list of events. The state after a run can be read off the list: the calls are
those since they were last forgotten (`Mock.calls_run`), and the error and the answer of an operation
are what the latest event about them says (`Mock.errors_run`, `Mock.answers_run`).

* `Mock.Event`: what happens to a mock, and what each event changes (`Mock.calls_step`,
  `Mock.errors_step`, `Mock.answers_step`).
* `Mock.run_history`: what a mock tells after a run, and what it answers. -/

namespace Dynamo

/-! ### Filled counts -/

/-- **The second page is the first with its counts filled in**: a count of zero becomes the number of
items, and then a count of zero before filtering becomes the count. -/
structure PageOutput.Fills (p q : PageOutput) : Prop where
  items : q.items = p.items
  count_zero : p.count = 0 → q.count = UInt64.ofNat p.items.length
  count : p.count ≠ 0 → q.count = p.count
  scannedCount_zero : p.scannedCount = 0 → q.scannedCount = q.count
  scannedCount : p.scannedCount ≠ 0 → q.scannedCount = p.scannedCount
  lastEvaluatedKey : q.lastEvaluatedKey = p.lastEvaluatedKey
  consumedCapacity : q.consumedCapacity = p.consumedCapacity

theorem PageOutput.fills_iff {p q : PageOutput} : p.Fills q ↔ q = p.fillCounts := by
  constructor
  · intro h
    obtain ⟨items, count, scannedCount, key, capacity⟩ := q
    obtain ⟨rfl, hzero, hcount, hszero, hscanned, rfl, rfl⟩ := h
    dsimp only at hzero hcount hszero hscanned
    have hcount : count = if p.count = 0 then UInt64.ofNat p.items.length else p.count := by
      split_ifs with h
      · exact hzero h
      · exact hcount h
    have hscanned : scannedCount = if p.scannedCount = 0 then count else p.scannedCount := by
      split_ifs with h
      · exact hszero h
      · exact hscanned h
    rw [hscanned, hcount]
    rfl
  · rintro rfl
    exact ⟨rfl, fun h => if_pos h, fun h => if_neg h, fun h => if_pos h, fun h => if_neg h, rfl, rfl⟩

namespace DataOperation

/-- The second answer is the first, with its counts filled in if it is a page. -/
def Fills : (op : DataOperation) → op.Output → op.Output → Prop
  | .item .query, p, q | .item .scan, p, q => PageOutput.Fills p q
  | .item .get, o, o' | .item .put, o, o' | .item .update, o, o' | .item .delete, o, o' => o' = o
  | .batchGet, o, o' | .batchWrite, o, o' => o' = o

theorem fills_iff {op : DataOperation} {o o' : op.Output} : op.Fills o o' ↔ o' = op.fillCounts o := by
  cases op with
  | item op =>
    cases op with
    | query | scan => exact PageOutput.fills_iff
    | get | put | update | delete => exact Iff.rfl
  | batchGet | batchWrite => exact Iff.rfl

theorem fillCounts_emptyOutput (op : DataOperation) :
    op.fillCounts op.emptyOutput = op.emptyOutput := by
  cases op with
  | item op => cases op <;> rfl
  | batchGet | batchWrite => rfl

end DataOperation

namespace Mock

/-! ### Events -/

/-- **What happens to a mock.** -/
inductive Event where
  /-- A request is carried out. -/
  | execute (op : DataOperation) (r : op.Request)
  /-- A request about tables, which a mock refuses. -/
  | tables
  | setAnswer (op : DataOperation) (o : op.Output)
  | setError (op : Operation) (e : ServiceError)
  | clearError (op : Operation)
  | clearCalls

namespace Event

/-- The call that gets to the mock, unless the request is refused before. -/
def call? : Event → Option MockCall
  | .execute op r =>
    match op.check r with
    | .ok () => some ⟨op, op.input r⟩
    | .error _ => none
  | _ => none

/-- Are the calls forgotten? -/
def clearsCalls : Event → Bool
  | .clearCalls => true
  | _ => false

/-- What becomes of the error of an operation: one is set, or it is taken away. -/
def errorChange? (op : Operation) : Event → Option (Option ServiceError)
  | .setError op' e => if op = op' then some (some e) else none
  | .clearError op' => if op = op' then some none else none
  | _ => none

/-- The answer that is set for an operation. -/
def answer? (op : DataOperation) : Event → Option op.Output
  | .setAnswer op' o => if h : op' = op then some (h ▸ o) else none
  | _ => none

/-- The operation whose error or answer is set or taken away. -/
def configures? : Event → Option Operation
  | .setAnswer op _ => some op.operation
  | .setError op _ | .clearError op => some op
  | .execute .. | .tables | .clearCalls => none

end Event

/-- The mock after an event. -/
def step (m : Mock) : Event → Mock
  | .execute op r => (m.execute op r).2
  | .tables => m
  | .setAnswer op o => m.setAnswer op o
  | .setError op e => m.setError op e
  | .clearError op => m.clearError op
  | .clearCalls => m.clearCalls

/-- **A new mock after a run of events.** -/
def run (events : List Event) : Mock := events.foldl step new

/-- The events since the calls were last forgotten. -/
def sinceCleared (events : List Event) : List Event := events.rtakeWhile fun ev => !ev.clearsCalls

/-- The last of what `pick` finds in a run of events. -/
def latest? {α : Type} (pick : Event → Option α) (events : List Event) : Option α :=
  (events.filterMap pick).getLast?

theorem run_concat (events : List Event) (ev : Event) :
    run (events ++ [ev]) = (run events).step ev := List.foldl_concat step new ev events

theorem latest?_concat {α : Type} (pick : Event → Option α) (events : List Event) (ev : Event) :
    latest? pick (events ++ [ev]) = (pick ev).or (latest? pick events) :=
  getLast?_filterMap_concat pick events ev

/-! ### One event -/

theorem execute_of_ok {op : DataOperation} {r : op.Request} (h : op.check r = .ok ()) (m : Mock) :
    m.execute op r = (m.answer op, { m with calls := m.calls ++ [⟨op, op.input r⟩] }) := by
  rw [execute, h, receive]

theorem execute_of_error {op : DataOperation} {r : op.Request} {e : Error}
    (h : op.check r = .error e) (m : Mock) : m.execute op r = (.error e, m) := by
  rw [execute, h]

/-- A request changes nothing but the calls. -/
theorem step_execute (m : Mock) (op : DataOperation) (r : op.Request) :
    m.step (.execute op r) =
      { m with calls := m.calls ++ (Event.execute op r).call?.toList } := by
  rw [step, Event.call?]
  cases h : op.check r with
  | ok u =>
    rw [execute_of_ok h]
    rfl
  | error e =>
    rw [execute_of_error h, Option.toList_none, List.append_nil]

theorem calls_step (m : Mock) (ev : Event) :
    (m.step ev).calls = if ev.clearsCalls then [] else m.calls ++ ev.call?.toList := by
  cases ev with
  | execute op r =>
    rw [step_execute]
    rfl
  | clearCalls => rfl
  | tables | setAnswer op o | setError op e | clearError op => exact (List.append_nil _).symm

theorem errors_step (m : Mock) (ev : Event) (op : Operation) :
    (m.step ev).errors op = (ev.errorChange? op).getD (m.errors op) := by
  cases ev with
  | execute op' r =>
    rw [step_execute]
    rfl
  | setError op' e =>
    rw [step, errors_setError, Event.errorChange?]
    split_ifs <;> rfl
  | clearError op' =>
    rw [step, errors_clearError, Event.errorChange?]
    split_ifs <;> rfl
  | tables | setAnswer op' o | clearCalls => rfl

theorem answers_step (m : Mock) (ev : Event) (op : DataOperation) :
    (m.step ev).answers op = ((ev.answer? op).map op.fillCounts).getD (m.answers op) := by
  cases ev with
  | execute op' r =>
    rw [step_execute]
    rfl
  | setAnswer op' o =>
    rw [step, Event.answer?]
    by_cases h : op' = op
    · subst h
      rw [answers_setAnswer_self, dif_pos rfl]
      rfl
    · rw [answers_setAnswer_of_ne h, dif_neg h]
      rfl
  | tables | setError op' e | clearError op' | clearCalls => rfl

/-! ### Runs -/

/-- **The calls** are those of the requests since the calls were last forgotten. -/
theorem calls_run (events : List Event) :
    (run events).calls = (sinceCleared events).filterMap Event.call? := by
  induction events using List.reverseRecOn with
  | nil => rfl
  | append_singleton events ev ih =>
    rw [run_concat, calls_step, sinceCleared, List.rtakeWhile_concat]
    cases ev.clearsCalls with
    | true => rfl
    | false =>
      show (run events).calls ++ _ = (sinceCleared events ++ [ev]).filterMap Event.call?
      rw [ih, filterMap_concat]

/-- **The error of an operation** is the one that was set last, unless it was taken away since. -/
theorem errors_run (events : List Event) (op : Operation) :
    (run events).errors op = (latest? (Event.errorChange? op) events).join := by
  induction events using List.reverseRecOn with
  | nil => rfl
  | append_singleton events ev ih =>
    rw [run_concat, errors_step, latest?_concat, ih]
    cases ev.errorChange? op with
    | none => rfl
    | some change => rfl

/-- **The answer to an operation** is the one that was set last, and the empty one before any was. -/
theorem answers_run (events : List Event) (op : DataOperation) :
    (run events).answers op =
      op.fillCounts ((latest? (Event.answer? op) events).getD op.emptyOutput) := by
  induction events using List.reverseRecOn with
  | nil => exact (DataOperation.fillCounts_emptyOutput op).symm
  | append_singleton events ev ih =>
    rw [run_concat, answers_step, latest?_concat, ih]
    cases ev.answer? op with
    | none => rfl
    | some o => rfl

/-- What does not configure an operation leaves its error and its answer as they were. -/
theorem unchanged_of_configures?_ne {ev : Event} {op : Operation} (h : ev.configures? ≠ some op)
    (m : Mock) :
    (m.step ev).errors op = m.errors op ∧
      ∀ d : DataOperation, d.operation = op → (m.step ev).answers d = m.answers d := by
  refine ⟨?_, fun d hd => ?_⟩
  · have hnone : ev.errorChange? op = none := by
      cases ev with
      | setError op' e | clearError op' => exact if_neg fun heq => h (congrArg some heq.symm)
      | execute op' r | tables | setAnswer op' o | clearCalls => rfl
    rw [errors_step, hnone, Option.getD_none]
  · have hnone : ev.answer? d = none := by
      cases ev with
      | setAnswer op' o =>
        exact dif_neg fun heq => h (congrArg some ((congrArg _ heq).trans hd))
      | execute op' r | tables | setError op' e | clearError op' | clearCalls => rfl
    rw [answers_step, hnone, Option.map_none, Option.getD_none]

/-! ### What a mock tells -/

theorem lastCall?_eq (op : Operation) (m : Mock) :
    m.lastCall? op = (m.calls.filter fun c => c.operation.operation = op).getLast? := by
  rw [lastCall?, ← List.head?_filter, List.filter_reverse, List.head?_reverse]

theorem wasCalled_iff {op : Operation} {m : Mock} :
    m.wasCalled op = true ↔ ∃ c, m.lastCall? op = some c := by
  rw [wasCalled, lastCall?, List.any_eq_true, ← Option.isSome_iff_exists, List.find?_isSome]
  simp only [List.mem_reverse]

theorem answer_eq_error {op : DataOperation} {m : Mock} {e : ServiceError} :
    m.answer op = .error (.service e) ↔ m.errors op.operation = some e := by
  rw [answer]
  cases m.errors op.operation with
  | none => exact iff_of_false nofun nofun
  | some e' => simp

theorem answer_eq_ok {op : DataOperation} {m : Mock} {o : op.Output} :
    m.answer op = .ok o ↔ m.errors op.operation = none ∧ o = m.answers op := by
  rw [answer]
  cases m.errors op.operation with
  | none => simp [eq_comm]
  | some e => simp

/-- **The past of a mock.** After any run of events, the calls are the bodies of the requests that
were carried out since the calls were last forgotten, the oldest first and whatever they were answered
with, but for those that were refused before; the last call for an operation is the last of these that
is for it, and the operation was called if there is one. A request is answered with an error of the
service if and only if that error was set for its operation and the error of the operation was neither
set nor taken away since; and otherwise with the answer that was last set for the operation, or with
the empty one, its counts filled in if it is a page. Nothing that happens changes the error or the
answer of another operation, and neither requests nor forgetting the calls change any. -/
theorem run_history (events : List Event) :
    let m := run events
    m.calls = (sinceCleared events).filterMap Event.call? ∧
    (∀ op, m.lastCall? op = (m.calls.filter fun c => c.operation.operation = op).getLast? ∧
      (m.wasCalled op = true ↔ ∃ c, m.lastCall? op = some c)) ∧
    (∀ op r e, op.check r = .error e → m.execute op r = (.error e, m)) ∧
    (∀ op r, op.check r = .ok () →
      (∀ e, (m.execute op r).1 = .error (.service e) ↔
        latest? (Event.errorChange? op.operation) events = some (some e)) ∧
      (∀ o, (m.execute op r).1 = .ok o ↔
        (∀ e, latest? (Event.errorChange? op.operation) events ≠ some (some e)) ∧
          op.Fills ((latest? (Event.answer? op) events).getD op.emptyOutput) o)) ∧
    ∀ ev op, ev.configures? ≠ some op →
      (run (events ++ [ev])).errors op = m.errors op ∧
        ∀ d : DataOperation, d.operation = op → (run (events ++ [ev])).answers d = m.answers d := by
  intro m
  refine ⟨calls_run events, fun op => ⟨lastCall?_eq op m, wasCalled_iff⟩,
    fun op r e h => execute_of_error h m, fun op r h => ?_, fun ev op h => ?_⟩
  · rw [execute_of_ok h]
    refine ⟨fun e => ?_, fun o => ?_⟩
    · rw [answer_eq_error, errors_run, Option.join_eq_some_iff]
    · rw [answer_eq_ok, errors_run, answers_run, DataOperation.fills_iff,
        Option.eq_none_iff_forall_ne_some]
      simp only [ne_eq, Option.join_eq_some_iff]
  · rw [run_concat]
    exact unchanged_of_configures?_ne h m

/-- A request that is answered with an error is a call, too. -/
example :
    let m := run [.setError .scan (.new .throttling ""), .execute (.item .scan) (ItemRequest.new "t" [])]
    m.wasCalled .scan = true ∧ m.wasCalled .query = false := by decide

end Mock

end Dynamo
