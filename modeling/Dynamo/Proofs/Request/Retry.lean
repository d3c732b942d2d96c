import Dynamo.Proofs.Request.Batch

/-! # Batches that are tried again

A service does some of what a batch asks for and says what it left; the request for that is sent
next, and so on until nothing is left. `BatchKind.Answers` says how such a service answers, in
whatever order and however written, and `BatchKind.Serves` that it answers every request of a run so.

* `BatchKind.Answers.page?`: an answer is read as what was left.
* `BatchKind.Answers.exists_retry`: the body of the next request is that of the last one with what
  the answer said to be left.
* `BatchKind.Serves.remains`: what was done so far and what is asked for next are the batch.
* `BatchKind.Serves.lt_length`: if something is done in every turn, there are not too many.
* `BatchKind.retries_conserve`: all of this for the runs of every batch. -/

namespace Dynamo

open Dynamo.Except

namespace BatchKind

variable {k : BatchKind}

/-! ### Answers -/

/-- Does the JSON for a table ask for nothing? -/
def isVoid : BatchKind → Json → Bool
  | .get, .obj ms =>
    match Entries.last? "Keys" ms with
    | some (.arr []) => true
    | _ => false
  | .write, .arr [] => true
  | _, _ => false

/-- What is written for a table asks for nothing if it holds no key or write. -/
theorem isVoid_eq {p : k.Part} {j j' : Json} (h : k.shape.write p = .ok j) (hj : j'.Restates j) :
    k.isVoid j' = (k.items p).isEmpty := by
  have hempty : ∀ {items : List Json}, items.length = (k.items p).length →
      items.isEmpty = (k.items p).isEmpty := by
    intro items hlength
    rw [Bool.eq_iff_iff, List.isEmpty_iff_length_eq_zero, List.isEmpty_iff_length_eq_zero, hlength]
  cases k with
  | get =>
    obtain ⟨ms, keys, rfl, hkeys, hlength⟩ := KeysAndAttributes.exists_keys h
    obtain ⟨ms', rfl, -, hlast⟩ := Json.restates_obj hj
    obtain ⟨_, hkeys', hback⟩ := exists_of_rel_right (hkeys ▸ hlast "Keys")
    obtain ⟨keys', rfl, hrel⟩ := Json.restates_arr hback
    rw [← hempty (hrel.length_eq.trans hlength), isVoid, hkeys']
    cases keys' <;> rfl
  | write =>
    obtain ⟨writes, hwrites, harr⟩ := bind_eq_ok.mp h
    obtain rfl := pure_eq_ok.mp harr
    obtain ⟨writes', rfl, hrel⟩ := Json.restates_arr hj
    have hlength := (mapM_eq_ok.mp hwrites).length_eq
    rw [← hempty (hrel.length_eq.trans hlength.symm)]
    cases writes' <;> rfl

/-- A request that can be sent and read back: it mentions no table twice, and all its documents are
sound. -/
structure Sound (k : BatchKind) (r : k.Request) : Prop where
  nodup : (k.batch r).tables.Nodup
  documents : ∀ m, k.operation.Holds r m → m.Sound

/-- **How a service answers** a request of which it did something and left the rest. One member says
what is left, in whatever order and however written, and if nothing is left it may be missing; the
other members can be read. -/
structure Answers (k : BatchKind) (r : k.Request) (done : String → Multiset k.Item)
    (left : PerTable k.Part) (answer : List (String × Json)) : Prop where
  nodup : left.tables.Nodup
  conserved : ∀ table, done table + k.held left table = k.held (k.batch r) table
  member :
    (left = [] ∧ answer.filter (fun e => e.1 = k.unprocessedName) = []) ∨
      ∃ j written, answer.filter (fun e => e.1 = k.unprocessedName) = [(k.unprocessedName, j)] ∧
        k.shape.dict.write (.ofList left) = .ok written ∧ j.Restates written
  legible : ∃ o, k.operation.outputShape.read
    (.obj (answer.filter fun e => e.1 ≠ k.unprocessedName)) = .ok o

/-- The member of an answer that says what is left. -/
def member (k : BatchKind) : Member (Dict k.Part) := .dict k.unprocessedName k.shape

theorem exists_read {answer : List (String × Json)} {m : Dict k.Part}
    (hleft : (Fields.one k.member).ofMembers answer = .ok m)
    (hlegible : ∃ o, k.operation.outputShape.read
      (.obj (answer.filter fun e => e.1 ≠ k.unprocessedName)) = .ok o) :
    ∃ o, k.operation.outputShape.read (.obj answer) = .ok o ∧ k.unprocessed o = m := by
  -- the other members are read as if this one were not there
  have hother : ∀ {α : Type} {m : Member α} {a : α}, m.answersTo k.unprocessedName = false →
      (Fields.one m).ofMembers (answer.filter fun e => e.1 ≠ k.unprocessedName) = .ok a →
      (Fields.one m).ofMembers answer = .ok a := by
    intro α m a hname hread
    rwa [Fields.ofMembers_one_filter] at hread
    intro e he
    rw [decide_eq_true_eq]
    intro heq
    rw [heq, hname] at he
    exact absurd he nofun
  obtain ⟨o, ho⟩ := hlegible
  cases k with
  | get =>
    obtain ⟨parts, hparts, -⟩ := map_eq_ok.mp ho
    obtain ⟨responses, hresponses, hparts⟩ := bind_eq_ok.mp hparts
    obtain ⟨others, hothers, -⟩ := bind_eq_ok.mp hparts
    obtain ⟨_, _, hothers⟩ := bind_eq_ok.mp hothers
    obtain ⟨capacity, hcapacity, -⟩ := bind_eq_ok.mp hothers
    refine ⟨(⟨responses, m, capacity⟩ : BatchGetOutput), ?_, rfl⟩
    refine map_eq_ok.mpr ⟨(responses, m, capacity), ?_, rfl⟩
    refine bind_eq_ok.mpr ⟨responses, hother (by decide) hresponses, ?_⟩
    refine bind_eq_ok.mpr ⟨(m, capacity), ?_, rfl⟩
    refine bind_eq_ok.mpr ⟨m, hleft, ?_⟩
    exact bind_eq_ok.mpr ⟨capacity, hother (by decide) hcapacity, rfl⟩
  | write =>
    obtain ⟨parts, hparts, -⟩ := map_eq_ok.mp ho
    obtain ⟨_, _, hparts⟩ := bind_eq_ok.mp hparts
    obtain ⟨capacity, hcapacity, -⟩ := bind_eq_ok.mp hparts
    refine ⟨(⟨m, capacity⟩ : BatchWriteOutput), ?_, rfl⟩
    refine map_eq_ok.mpr ⟨(m, capacity), ?_, rfl⟩
    refine bind_eq_ok.mpr ⟨m, hleft, ?_⟩
    exact bind_eq_ok.mpr ⟨capacity, hother (by decide) hcapacity, rfl⟩

variable {r : k.Request} {done : String → Multiset k.Item} {left : PerTable k.Part}
  {answer : List (String × Json)}

theorem Answers.sound (h : k.Answers r done left answer) (hr : k.Sound r) :
    ∀ e ∈ left, ∀ i ∈ k.items e.2, (k.document i).Sound := by
  intro e he i hi
  have hheld : i ∈ k.held left e.1 := by
    rw [held_of_mem h.nodup he]
    exact hi
  refine hr.documents _ ((holds_iff_held hr.nodup).mpr ⟨e.1, i, ?_, rfl⟩)
  rw [← h.conserved e.1]
  exact Multiset.mem_add.mpr (.inr hheld)

/-- **Such an answer is read as what was left.** -/
theorem Answers.exists_read (h : k.Answers r done left answer) (hr : k.Sound r) :
    ∃ o, k.operation.outputShape.read (.obj answer) = .ok o ∧ k.unprocessed o = .ofList left := by
  refine BatchKind.exists_read ?_ h.legible
  have hanswers : ∀ name, k.member.answersTo name = decide (name = k.unprocessedName) :=
    Fields.answersTo_one rfl
  unfold Fields.one
  dsimp only
  simp only [hanswers]
  rcases h.member with ⟨rfl, hnone⟩ | ⟨j, written, hone, hwritten, hj⟩
  · rw [hnone]
    rfl
  · rw [hone]
    have hback : k.shape.dict.Carries (.ofList left) (.ofList left) :=
      Shape.carries_dict_self fun e he =>
        carries_shape (h.sound hr e (Entries.mem_of_mem_ofList he))
    exact hback.read hwritten hj

/-! ### One turn -/

/-- What is asked for a request whose documents can travel, and what is made of the response. -/
theorem exists_ask {r : k.Request} (hr : k.Sound r) (hfault : k.operation.fault? r = none) :
    ∃ body next, k.operation.toJson (k.operation.input r) = .ok body ∧
      k.operation.execute r = .ask k.operation.operation.name body next ∧
      ∀ response, k.pager.page? r response =
        (Exchange.reading k.operation.outputShape response).toOption := by
  rcases k.operation.execute_cases r with ⟨e, he, -⟩ | ⟨-, ⟨m, hm, hw⟩, -⟩ |
    ⟨-, -, body, hbody, hx⟩
  · exact absurd (hfault.symm.trans he) nofun
  · exact absurd (hr.documents m hm).hasWireForm hw
  · refine ⟨body, _, hbody, hx, fun response => ?_⟩
    unfold Pager.page? pager
    dsimp only
    rw [hx]
    exact congrArg Except.toOption (readOutput_eq (k.operation.input r) response)

theorem fault?_eq_none_of_page? {r : k.Request} {response : Bytes} {o : k.Output}
    (h : k.pager.page? r response = some o) : k.operation.fault? r = none := by
  cases hfault : k.operation.fault? r with
  | none => rfl
  | some e =>
    unfold Pager.page? pager at h
    dsimp only at h
    rw [DataOperation.execute_of_fault hfault] at h
    exact absurd h nofun

/-- **An answer is a page if its text can be read to its end**, and then says what was left. -/
theorem Answers.page? (h : k.Answers r done left answer) (hr : k.Sound r)
    (hfault : k.operation.fault? r = none) {response : Bytes}
    (hanswer : Json.ofResponse response = .obj answer) :
    ((∃ o, k.pager.page? r response = some o) ↔
        (Json.reading Json.maxDepth response).complete = true) ∧
      ∀ o, k.pager.page? r response = some o → k.unprocessed o = .ofList left := by
  obtain ⟨body, next, -, -, hpage⟩ := exists_ask hr hfault
  obtain ⟨o, ho, hleft⟩ := h.exists_read hr
  rw [← hanswer] at ho
  refine ⟨⟨?_, fun hcomplete => ⟨o, ?_⟩⟩, ?_⟩
  · rintro ⟨o', ho'⟩
    rw [hpage] at ho'
    cases hread : Exchange.reading k.operation.outputShape response with
    | error e =>
      rw [hread] at ho'
      exact absurd ho' nofun
    | ok o'' => exact (Shape.ofBytes_eq_ok.mp (mapError_eq_ok.mp hread)).2
  · rw [hpage, Exchange.reading, Shape.ofBytes_eq_ok.mpr ⟨ho, hcomplete⟩]
    rfl
  · intro o' ho'
    rw [hpage] at ho'
    obtain rfl : o = o' := Except.ok.inj (ho.symm.trans (Pager.read_of_toOption_reading ho'))
    exact hleft

/-- **What is written for the rest is what was said to be left**, but for empty tables. -/
theorem exists_write_rest (hr : (k.batch r).tables.Nodup) (h : left.tables.Nodup)
    {written j w : Json} (hwritten : k.shape.dict.write (.ofList left) = .ok written)
    (hj : j.Restates written)
    (hw : k.shape.dict.write (.ofList (k.rest r (.ofList left))) = .ok w) :
    ∃ ts, j = .obj ts ∧ w.normal = (Json.obj (ts.filter fun e => !k.isVoid e.2)).normal := by
  obtain ⟨ms, -, rfl⟩ := Shape.write_dict_eq_ok.mp hwritten
  obtain ⟨ts, rfl, hts, hrestates⟩ := Json.restates_obj hj
  obtain ⟨ws, -, rfl⟩ := Shape.write_dict_eq_ok.mp hw
  refine ⟨ts, rfl, Json.normal_obj_congr fun table => ?_⟩
  have hsaid := hrestates table
  have hleft := Shape.get?_of_write_dict hwritten table
  rw [get?_ofList h] at hleft
  have hrest := Shape.get?_of_write_dict hw table
  rw [get?_ofList (nodup_tables_rest hr _), get?_rest hr h] at hrest
  have hnodup : (Entries.keys (ts.filter fun e => !k.isVoid e.2)).Nodup :=
    hts.sublist (List.filter_sublist.map _)
  rw [Entries.last?_eq_get? hnodup, Entries.get?_filter hts, ← Entries.last?_eq_get? hts]
  -- table by table: what was left, what was written for it, and what the answer said
  cases hp : left.get? table with
  | none =>
    rw [hp] at hleft hrest
    rw [eq_none_of_rel_left hleft] at hsaid
    rw [eq_none_of_rel_left hrest, eq_none_of_rel_right hsaid]
    rfl
  | some p =>
    rw [hp] at hleft hrest
    obtain ⟨j₁, hj₁, hwrite⟩ := exists_of_rel_left hleft
    obtain ⟨j₂, hj₂, hback⟩ := exists_of_rel_right (hj₁ ▸ hsaid)
    rw [hj₂, Option.filter_some, isVoid_eq hwrite hback]
    rw [Option.filter_some] at hrest
    cases hempty : (k.items p).isEmpty with
    | true =>
      rw [hempty] at hrest
      rw [eq_none_of_rel_left hrest]
      rfl
    | false =>
      rw [hempty] at hrest
      obtain ⟨j₃, hj₃, hwrite₃⟩ := exists_of_rel_left hrest
      obtain rfl : j₁ = j₃ := Except.ok.inj (hwrite.symm.trans hwrite₃)
      rw [hj₃]
      exact congrArg some hback.2.symm

/-- **The body of the request for what is left** is that of the request before, with what the answer
said to be left for the tables of which something is. -/
theorem Answers.exists_retry (h : k.Answers r done left answer) (hr : (k.batch r).tables.Nodup)
    {body : Json} (hbody : k.operation.toJson (k.operation.input r) = .ok body) {o : k.Output}
    (ho : k.unprocessed o = .ofList left) {r' : k.Request} (hretry : k.retry? r o = some r')
    (hr' : k.Sound r') :
    ∃ body' next ts, k.operation.execute r' = .ask k.operation.operation.name body' next ∧
      (k.unprocessedName, .obj ts) ∈ answer ∧
      body'.normal =
        (body.setMember "RequestItems" (.obj (ts.filter fun e => !k.isVoid e.2))).normal := by
  rcases retry?_eq r o with ⟨-, hnone⟩ | ⟨hne, r'', hsome, hbatch, hcapacity, hfault⟩
  · exact absurd (hretry.symm.trans hnone) nofun
  obtain rfl := Option.some.inj (hretry.symm.trans hsome)
  rw [ho] at hbatch hne
  rcases h.member with ⟨rfl, -⟩ | ⟨j, written, hone, hwritten, hj⟩
  · exact absurd ((rest_eq_nil_iff hr h.nodup).mpr fun table => rfl) hne
  obtain ⟨body', next, hbody', hask, -⟩ := exists_ask hr' hfault
  rw [toJson_eq] at hbody hbody'
  obtain ⟨w₀, -, hobj⟩ := bind_eq_ok.mp hbody
  obtain rfl := pure_eq_ok.mp hobj
  obtain ⟨w, hw, hobj⟩ := bind_eq_ok.mp hbody'
  obtain rfl := pure_eq_ok.mp hobj
  rw [hbatch] at hw
  obtain ⟨ts, rfl, hnormal⟩ := exists_write_rest hr h.nodup hwritten hj hw
  have hmem : (k.unprocessedName, Json.obj ts) ∈ answer := by
    have hfiltered := List.mem_singleton_self (k.unprocessedName, Json.obj ts)
    rw [← hone] at hfiltered
    exact (List.mem_filter.mp hfiltered).1
  refine ⟨_, next, ts, hask, hmem, ?_⟩
  rw [hcapacity]
  -- of the members of the body only this one depends on the batch
  refine @Json.normal_setMember _ _ _ [] [("RequestItems", w₀)] _ ?_ ?_ ?_ hnormal
  · exact fun e he => absurd he List.not_mem_nil
  · exact fun e he => by rw [List.mem_singleton.mp he]
  · exact ne_of_mem_optionMember (by decide)

/-! ### Runs -/

/-- **A request for what remains** of a batch after some of it was done. -/
structure Remains (k : BatchKind) (r : k.Request) (done : String → Multiset k.Item)
    (r' : k.Request) : Prop where
  conserved : ∀ table, done table + k.held (k.batch r') table = k.held (k.batch r) table
  tables : (k.batch r').tables.Sublist (k.batch r).tables

/-- **A service that serves a run**: it answers every request that is sent. In the turn `n` it does
`done n`. -/
def Serves (k : BatchKind) (r : k.Request) (service : ℕ → Bytes)
    (done : ℕ → String → Multiset k.Item) : Prop :=
  ∀ n r', k.pager.request? r service n = some r' → k.operation.fault? r' = none →
    ∃ left answer, Json.ofResponse (service n) = .obj answer ∧ k.Answers r' (done n) left answer

/-- With every request that is sent something is done. -/
def Advances (k : BatchKind) (r : k.Request) (service : ℕ → Bytes)
    (done : ℕ → String → Multiset k.Item) : Prop :=
  ∀ n r', k.pager.request? r service n = some r' → k.operation.fault? r' = none →
    ∃ table, done n table ≠ 0

namespace Remains

variable {r r' : k.Request} {done : String → Multiset k.Item}

theorem sound (h : k.Remains r done r') (hr : k.Sound r) : k.Sound r' := by
  have hnodup : (k.batch r').tables.Nodup := hr.nodup.sublist h.tables
  refine ⟨hnodup, fun m hm => ?_⟩
  obtain ⟨table, i, hi, hdoc⟩ := (holds_iff_held hnodup).mp hm
  refine hr.documents m ((holds_iff_held hr.nodup).mpr ⟨table, i, ?_, hdoc⟩)
  rw [← h.conserved table]
  exact Multiset.mem_add.mpr (.inr hi)

/-- **A turn.** What remains of a request after an answer is what the answer left. -/
theorem step {done' : String → Multiset k.Item} (h : k.Remains r done r') (hr : k.Sound r)
    {left : PerTable k.Part} {answer : List (String × Json)}
    (hanswers : k.Answers r' done' left answer) {o : k.Output} (ho : k.unprocessed o = .ofList left)
    {r'' : k.Request} (hretry : k.retry? r' o = some r'') :
    k.Remains r (fun table => done table + done' table) r'' := by
  have hr' := (h.sound hr).nodup
  rcases retry?_eq r' o with ⟨-, hnone⟩ | ⟨-, _, hsome, hbatch, -⟩
  · exact absurd (hretry.symm.trans hnone) nofun
  obtain rfl := Option.some.inj (hretry.symm.trans hsome)
  rw [ho] at hbatch
  constructor
  · intro table
    rw [hbatch, held_rest hr' hanswers.nodup, add_assoc, hanswers.conserved, h.conserved]
  · rw [hbatch]
    refine (tables_rest_sublist hanswers.nodup fun table hnot => ?_).trans h.tables
    have hzero := hanswers.conserved table
    rw [held_eq_zero_of_notMem hnot] at hzero
    exact (add_eq_zero.mp hzero).2

end Remains

section

variable {r : k.Request} {service : ℕ → Bytes} {done : ℕ → String → Multiset k.Item}
variable (h : k.Serves r service done) (hr : k.Sound r)
include h hr

/-- **Every request of a run is for what remains.** -/
theorem Serves.remains {n : ℕ} {r' : k.Request} (hr' : k.pager.request? r service n = some r') :
    k.Remains r (fun table => ∑ i ∈ Finset.range n, done i table) r' := by
  -- that the documents stay sound, so that each answer can be read, follows from what is conserved
  induction n generalizing r' with
  | zero =>
    obtain rfl : r = r' := Option.some.inj hr'
    exact ⟨fun table => by rw [Finset.range_zero, Finset.sum_empty, zero_add], .refl _⟩
  | succ n ih =>
    obtain ⟨r₀, o, hr₀, hpage, hretry⟩ := Pager.request?_succ_eq_some.mp hr'
    have hfault := fault?_eq_none_of_page? hpage
    obtain ⟨left, answer, hresponse, hanswers⟩ := h n r₀ hr₀ hfault
    have hremains := ih hr₀
    have hleft := (hanswers.page? (hremains.sound hr) hfault hresponse).2 o hpage
    simp only [Finset.sum_range_succ]
    exact hremains.step hr hanswers hleft hretry

/-- After an answer, what was done and what is left are the batch. -/
theorem Serves.conserved {n : ℕ} {r' : k.Request} (hr' : k.pager.request? r service n = some r')
    {left : PerTable k.Part} {answer : List (String × Json)}
    (hanswers : k.Answers r' (done n) left answer) (table : String) :
    ∑ i ∈ Finset.range (n + 1), done i table + k.held left table = k.held (k.batch r) table := by
  have hremains := h.remains hr hr'
  rw [Finset.sum_range_succ, add_assoc, hanswers.conserved]
  exact hremains.conserved table

/-- In a turn something is done to a table of the batch, for others there is nothing to do. -/
theorem Serves.one_le_amount (hadvances : k.Advances r service done) {n : ℕ} {r' : k.Request}
    (hr' : k.pager.request? r service n = some r') (hfault : k.operation.fault? r' = none) :
    1 ≤ k.amount r (done n) := by
  obtain ⟨left, answer, -, hanswers⟩ := h n r' hr' hfault
  obtain ⟨table, hdone⟩ := hadvances n r' hr' hfault
  have hmem : table ∈ (k.batch r).tables := by
    by_contra hnot
    have hconserved := h.conserved hr hr' hanswers table
    rw [held_eq_zero_of_notMem hnot, Finset.sum_range_succ] at hconserved
    obtain ⟨hsum, -⟩ := add_eq_zero.mp hconserved
    exact hdone (add_eq_zero.mp hsum).2
  exact BatchKind.one_le_amount hmem hdone

theorem Serves.le_amount (hadvances : k.Advances r service done) {n : ℕ} {r' : k.Request}
    (hr' : k.pager.request? r service n = some r') :
    n ≤ k.amount r fun table => ∑ i ∈ Finset.range n, done i table := by
  induction n generalizing r' with
  | zero => exact Nat.zero_le _
  | succ n ih =>
    obtain ⟨r₀, o, hr₀, hpage, -⟩ := Pager.request?_succ_eq_some.mp hr'
    have hturn := h.one_le_amount hr hadvances hr₀ (fault?_eq_none_of_page? hpage)
    have hturns := ih hr₀
    simp only [Finset.sum_range_succ, amount_add]
    omega

/-- **Where every turn does something**, there are no more of them than keys or writes. -/
theorem Serves.lt_length (hadvances : k.Advances r service done) {n : ℕ} {r' : k.Request}
    (hr' : k.pager.request? r service n = some r') (hfault : k.operation.fault? r' = none) :
    n < k.length r := by
  obtain ⟨left, answer, -, hanswers⟩ := h n r' hr' hfault
  have hturns := h.le_amount hr hadvances hr'
  have hturn := h.one_le_amount hr hadvances hr' hfault
  have hall : k.amount r (fun table => ∑ i ∈ Finset.range (n + 1), done i table) ≤ k.length r := by
    rw [length_eq_amount hr.nodup]
    refine amount_le_of_le fun table => ?_
    rw [← h.conserved hr hr' hanswers table]
    exact Multiset.le_add_right _ _
  simp only [Finset.sum_range_succ, amount_add] at hall
  omega

end

variable {r : k.Request} {service : ℕ → Bytes} {done : ℕ → String → Multiset k.Item}

/-- **Retries lose and repeat nothing.** A batch without empty lists and sets is sent to a service
that serves it. Each request of the run is for exactly what was not done so far, its tables in the
order of the batch. It is sent if it is without fault. If the text of the answer can be read to its
end, there is a retry unless all of the batch was done, and its body is the last one with what the
answer said to be left, but for tables of which nothing is. If every turn does something, no more
requests are sent than there are keys or writes. -/
theorem retries_conserve (hbuilt : k.Built r) (hsound : ∀ m, k.operation.Holds r m → m.Sound)
    (hserves : k.Serves r service done) :
    (∀ n r', k.pager.request? r service n = some r' →
      k.Remains r (fun table => ∑ i ∈ Finset.range n, done i table) r' ∧
      (k.operation.fault? r' = none →
        ∃ body next, k.operation.execute r' = .ask k.operation.operation.name body next ∧
          ((∃ o, k.pager.page? r' (service n) = some o) ↔
            (Json.reading Json.maxDepth (service n)).complete = true) ∧
          ∀ o, k.pager.page? r' (service n) = some o →
            (k.retry? r' o = none ↔ ∀ table,
              ∑ i ∈ Finset.range (n + 1), done i table = k.held (k.batch r) table) ∧
            ∀ r'', k.retry? r' o = some r'' →
              ∃ body' next' answer ts,
                k.operation.execute r'' = .ask k.operation.operation.name body' next' ∧
                Json.ofResponse (service n) = .obj answer ∧
                (k.unprocessedName, .obj ts) ∈ answer ∧
                body'.normal = (body.setMember "RequestItems"
                  (.obj (ts.filter fun e => !k.isVoid e.2))).normal)) ∧
    (k.Advances r service done →
      ∀ n r', k.pager.request? r service n = some r' → k.operation.fault? r' = none →
        n < k.length r) := by
  have hr : k.Sound r := ⟨hbuilt.nodup_tables, hsound⟩
  refine ⟨fun n r' hr' => ?_, fun hadvances n r' => hserves.lt_length hr hadvances⟩
  have hremains := hserves.remains hr hr'
  have hsound' := hremains.sound hr
  refine ⟨hremains, fun hfault => ?_⟩
  obtain ⟨left, answer, hresponse, hanswers⟩ := hserves n r' hr' hfault
  obtain ⟨body, next, hbody, hask, -⟩ := exists_ask hsound' hfault
  obtain ⟨hpage, hleft⟩ := hanswers.page? hsound' hfault hresponse
  refine ⟨body, next, hask, hpage, fun o ho => ⟨?_, fun r'' hretry => ?_⟩⟩
  · -- there is no retry if nothing is left, and then all was done
    have hnone : k.retry? r' o = none ↔ ∀ table, k.held left table = 0 := by
      rw [← rest_eq_nil_iff hsound'.nodup hanswers.nodup, ← hleft o ho]
      rcases retry?_eq r' o with ⟨hnil, hnone⟩ | ⟨hne, r'', hsome, -⟩
      · exact iff_of_true hnone hnil
      · exact iff_of_false (by rw [hsome]; exact nofun) hne
    rw [hnone]
    refine forall_congr' fun table => ?_
    rw [← hserves.conserved hr hr' hanswers table]
    exact left_eq_add.symm
  · have hstep := hremains.step hr hanswers (hleft o ho) hretry
    obtain ⟨body', next', ts, hask', hmem, hnormal⟩ :=
      hanswers.exists_retry hsound'.nodup hbody (hleft o ho) hretry (hstep.sound hr)
    exact ⟨body', next', answer, ts, hask', hresponse, hmem, hnormal⟩

/-- Of three writes two are done at once, and the third when it is tried again. -/
theorem retries_conserve_write :
    let r : BatchWriteRequest :=
      { batch := [("t", [.put [("a", .null)], .put [("b", .null)]]), ("s", [.put [("c", .null)]])] }
    let service (n : ℕ) : Bytes :=
      if n = 0 then
        .ofString ("\x7b\"UnprocessedItems\":\x7b\"s\":[],\"t\":[\x7b\"PutRequest\":" ++
          "\x7b\"Item\":\x7b\"b\":\x7b\"NULL\":true\x7d\x7d\x7d\x7d]\x7d\x7d")
      else .ofString "\x7b\x7d"
    let done (n : ℕ) : String → Multiset WriteRequest := BatchKind.write.held <|
      if n = 0 then [("s", [.put [("c", .null)]]), ("t", [.put [("a", .null)]])]
      else [("t", [.put [("b", .null)]])]
    BatchKind.write.Built r ∧ BatchKind.write.Serves r service done ∧
    ∃ r' body next, BatchKind.write.pager.request? r service 1 = some r' ∧
      BatchKind.write.Remains r (fun table => ∑ i ∈ Finset.range 1, done i table) r' ∧
      DataOperation.batchWrite.execute r' = .ask "BatchWriteItem" body next ∧
      body.normal = .obj [("RequestItems", .obj [("t", .arr
        [.obj [("PutRequest", .obj [("Item", .obj [("b", .obj [("NULL", .bool true)])])])]])])] ∧
      1 < BatchKind.write.length r := by
  intro r service done
  have hbuilt : BatchKind.write.Built r :=
    .set (k := .write) (BatchWriteSetting.put "s" [[("c", .null)]])
      (.set (k := .write) (BatchWriteSetting.put "t" [[("a", .null)], [("b", .null)]]) .new)
  have hsound : ∀ m, DataOperation.batchWrite.Holds r m → m.Sound := by
    have hnull : ∀ name, Document.Sound [(name, .null)] := by
      intro name
      refine ⟨⟨List.pairwise_singleton _ _, trivial, trivial⟩, ?_⟩
      rintro u (_ | _ | ⟨he, hu⟩)
      · rfl
      · obtain ⟨rfl, rfl⟩ := Prod.mk.inj (List.mem_singleton.mp he)
        cases hu
        rfl
    have hputs : ∀ e ∈ r.batch, ∀ w ∈ e.2, ∃ name, w = .put [(name, .null)] := by
      simp [r]
    rintro m ⟨e, he, hm | hm⟩
    · obtain ⟨name, hname⟩ := hputs e he _ hm
      exact WriteRequest.put.inj hname ▸ hnull name
    · obtain ⟨name, hname⟩ := hputs e he _ hm
      exact absurd hname nofun
  let left : PerTable (List WriteRequest) := [("s", []), ("t", [.put [("b", .null)]])]
  let answer : List (String × Json) := [("UnprocessedItems", .obj [("s", .arr []), ("t", .arr
    [.obj [("PutRequest", .obj [("Item", .obj [("b", .obj [("NULL", .bool true)])])])]])])]
  let r₁ : BatchWriteRequest := { batch := [("t", [.put [("b", .null)]])] }
  have hr₁ : BatchKind.write.pager.request? r service 1 = some r₁ :=
    Pager.request?_succ_eq_some.mpr
      ⟨r, (⟨.ofList left, []⟩ : BatchWriteOutput), rfl, rfl, rfl⟩
  have hr₂ : ∀ n, BatchKind.write.pager.request? r service (n + 2) = none := by
    intro n
    induction n with
    | zero => rfl
    | succ n ih =>
      refine Option.eq_none_iff_forall_ne_some.mpr fun r' hr' => ?_
      obtain ⟨r₀, _, hr₀, -⟩ := Pager.request?_succ_eq_some.mp hr'
      exact absurd (ih.symm.trans hr₀) nofun
  have hother : ∀ {table} (b : PerTable BatchKind.write.Part), b.tables ⊆ ["s", "t"] →
      table ≠ "s" → table ≠ "t" → BatchKind.write.held b table = 0 := by
    intro table b hb hs ht
    refine held_eq_zero_of_notMem fun hmem => ?_
    simpa [hs, ht] using hb hmem
  have hserves : BatchKind.write.Serves r service done := by
    rintro (_ | _ | n) r' hr' -
    · obtain rfl : r = r' := Option.some.inj hr'
      refine ⟨left, answer, rfl, by decide, fun table => ?_, .inr ⟨_, _, rfl, rfl, ?_, rfl⟩,
        ⟨_, rfl⟩⟩
      · by_cases ht : table = "t"
        · subst ht
          rfl
        by_cases hs : table = "s"
        · subst hs
          rfl
        show BatchKind.write.held _ table + BatchKind.write.held _ table = _
        rw [hother left (by decide) hs ht, hother (BatchKind.write.batch r) (by decide) hs ht,
          add_zero]
        exact hother _ (by decide) hs ht
      · simp [Json.unrepeated_obj, Json.unrepeated_arr, Json.unrepeated_bool, Entries.keys]
    · obtain rfl : r₁ = r' := Option.some.inj (hr₁.symm.trans hr')
      exact ⟨[], [], rfl, by decide, fun table => add_zero _, .inl ⟨rfl, rfl⟩, ⟨_, rfl⟩⟩
    · exact absurd ((hr₂ n).symm.trans hr') nofun
  have hadvances : BatchKind.write.Advances r service done := by
    rintro (_ | n) r' _ _
    · exact ⟨"t", Multiset.singleton_ne_zero _⟩
    · exact ⟨"t", Multiset.singleton_ne_zero _⟩
  obtain ⟨hrun, hlength⟩ := retries_conserve hbuilt hsound hserves
  obtain ⟨-, hturn⟩ := hrun 0 r rfl
  obtain ⟨hremains, -⟩ := hrun 1 r₁ hr₁
  obtain ⟨body₀, _, hask₀, -, hpages⟩ := hturn rfl
  have hbody₀ : BatchKind.write.operation.execute r = .ask _ _ _ := rfl
  obtain ⟨-, rfl, -⟩ := Exchange.ask.inj (hask₀.symm.trans hbody₀)
  obtain ⟨-, hretry⟩ := hpages _ rfl
  obtain ⟨body, next, answer', ts, hask, hresponse, hmem, hnormal⟩ := hretry r₁ rfl
  obtain rfl : answer = answer' := Json.obj.inj hresponse
  obtain ⟨-, hts⟩ := Prod.mk.inj (List.mem_singleton.mp hmem)
  obtain rfl := Json.obj.inj hts
  exact ⟨hbuilt, hserves, r₁, body, next, hr₁, hremains, hask, hnormal,
    hlength hadvances 1 r₁ hr₁ rfl⟩

end BatchKind

end Dynamo
