import Dynamo.Proofs.Request.Gate
import Dynamo.Proofs.Wire.Verbatim
import Dynamo.Request.Tables

/-! # Runs through pages

A run asks for a page, derives the request for the next page from the answer, asks for that, and so
on, as long as answers say that there is more. The requests of a run differ from the first one in
where they start and in nothing else, however many there were before, and each starts exactly where
the answer before it says.

* `Pager`: requests that lead to pages, and `Pager.request?`: the requests of a run.
* `Pager.Resumes`: how the requests of runs follow from the answers.
* `Pager.resumes`: so it is with pages of items and with pages of table names. -/

namespace Dynamo

open Dynamo.Except

/-- **Requests that lead to pages.** -/
structure Pager (ρ π : Type) where
  ask : ρ → Exchange π
  /-- The request for the page after a page. -/
  next? : ρ → π → Option ρ

/-- The page that an answer is, if it is one. -/
def ItemOperation.page? : (op : ItemOperation) → op.Output → Option PageOutput
  | .query, o | .scan, o => some o
  | .get, _ | .put, _ | .update, _ | .delete, _ => none

/-- The JSON value in the body of a response. -/
def Json.ofResponse (response : Bytes) : Json := (Json.reading Json.maxDepth response).value

namespace Pager

variable {ρ π : Type}

/-- Pages of items. -/
def items (op : ItemOperation) : Pager (ItemRequest op) op.Output where
  ask r := (DataOperation.item op).execute r
  next? r o := (op.page? o).bind r.next?

/-- Pages of table names. -/
def tables : Pager ListTablesRequest ListTablesOutput :=
  ⟨Exchange.listTables, ListTablesRequest.next?⟩

/-- The page that a response to a request is, if something was asked and the response can be read. -/
def page? (p : Pager ρ π) (r : ρ) (response : Bytes) : Option π :=
  match p.ask r with
  | .done _ => none
  | .ask _ _ next => (next (.ok response)).toOption

/-- **The requests of a run** that begins with one, where `service` answers. There is one as long as
responses can be read and say that there is more. -/
def request? (p : Pager ρ π) (r : ρ) (service : ℕ → Bytes) : ℕ → Option ρ
  | 0 => some r
  | k + 1 => do
    let r' ← p.request? r service k
    p.next? r' (← p.page? r' (service k))

/-- **How the requests of runs follow from the answers.** A run ends where its last answer has no
member `last`, or one that says that this is the end. Otherwise, if the member can be kept, the next
request is the first one with the member `start` set to it. In an array, the member `last` is the
item at its position. -/
def Resumes (p : Pager ρ π) (start last : String) (position : ℕ) (isEnd keeps : Json → Prop) :
    Prop :=
  ∀ {r : ρ} {target : String} {body : Json} {next : Except Error Bytes → Except Error π},
    p.ask r = .ask target body next →
  ∀ (service : ℕ → Bytes) (k : ℕ) {r' : ρ} {page : π},
    p.request? r service k = some r' → p.page? r' (service k) = some page →
    (p.next? r' page = none ↔
      ∀ j, (Json.ofResponse (service k)).part? last position = some j → isEnd j) ∧
    ∀ j, (Json.ofResponse (service k)).part? last position = some j → ¬ isEnd j → keeps j →
      ∃ r'' body' next', p.request? r service (k + 1) = some r'' ∧
        p.ask r'' = .ask target body' next' ∧ body'.normal = (body.setMember start j).normal

/-! ### From one turn to runs -/

theorem request?_succ_eq_some {p : Pager ρ π} {r r'' : ρ} {service : ℕ → Bytes}
    {n : ℕ} : p.request? r service (n + 1) = some r'' ↔
      ∃ r' page, p.request? r service n = some r' ∧ p.page? r' (service n) = some page ∧
        p.next? r' page = some r'' := by
  rw [request?, Option.bind_eq_bind, Option.bind_eq_some_iff]
  refine exists_congr fun r' => ?_
  rw [Option.bind_eq_bind, Option.bind_eq_some_iff]
  constructor
  · rintro ⟨hr', page, hpage, hnext⟩
    exact ⟨page, hr', hpage, hnext⟩
  · rintro ⟨page, hr', hpage, hnext⟩
    exact ⟨hr', page, hpage, hnext⟩

/-- What the first request of a run is like, and stays so from each request to the next, all requests
of the run are like. -/
theorem request?_induction {p : Pager ρ π} {P : ρ → Prop} {r : ρ} {service : ℕ → Bytes} (hr : P r)
    (hstep : ∀ r' page r'', P r' → p.next? r' page = some r'' → P r'') :
    ∀ {k : ℕ} {r' : ρ}, p.request? r service k = some r' → P r'
  | 0, r', h => by
    obtain rfl : r = r' := Option.some.inj h
    exact hr
  | k + 1, r'', h => by
    obtain ⟨r', hr', h⟩ := Option.bind_eq_some_iff.mp h
    obtain ⟨page, -, h⟩ := Option.bind_eq_some_iff.mp h
    exact hstep r' page r'' (request?_induction hr hstep hr') h

/-- **It is enough to look at one turn**, of a request that is the first one up to its start. -/
theorem resumes_of_turn {p : Pager ρ π} {start last : String} {position : ℕ}
    {isEnd keeps : Json → Prop} (Like : ρ → ρ → Prop) (hrefl : ∀ r, Like r r)
    (hstep : ∀ {r r' page r''}, Like r r' → p.next? r' page = some r'' → Like r r'')
    (hturn : ∀ {r r' target body next response page}, p.ask r = .ask target body next →
      Like r r' → p.page? r' response = some page →
      (p.next? r' page = none ∧
        ∀ j, (Json.ofResponse response).part? last position = some j → isEnd j) ∨
      ∃ j r'', (Json.ofResponse response).part? last position = some j ∧ ¬ isEnd j ∧
        p.next? r' page = some r'' ∧
        (keeps j → ∃ body' next', p.ask r'' = .ask target body' next' ∧
          body'.normal = (body.setMember start j).normal)) :
    p.Resumes start last position isEnd keeps := by
  intro r target body next hask service k r' page hr' hpage
  have hlike : Like r r' :=
    request?_induction (hrefl r) (fun _ _ _ hlike hnext => hstep hlike hnext) hr'
  have hsucc : p.request? r service (k + 1) = p.next? r' page := by
    rw [request?, hr']
    show (p.page? r' (service k)).bind (p.next? r') = _
    rw [hpage]
    rfl
  -- the turn either ends the run or goes on, and each of the two decides both halves
  rcases hturn hask hlike hpage with ⟨hnone, hend⟩ | ⟨j, r'', hj, hne, hmore, hbody⟩
  · exact ⟨⟨fun _ => hend, fun _ => hnone⟩, fun j hj hne => absurd (hend j hj) hne⟩
  · refine ⟨⟨fun hnone => ?_, fun hend => absurd (hend j hj) hne⟩, fun j' hj' _ hkeeps => ?_⟩
    · rw [hmore] at hnone
      exact absurd hnone nofun
    · obtain rfl : j = j' := Option.some.inj (hj.symm.trans hj')
      obtain ⟨body', next', hask', hnormal⟩ := hbody hkeeps
      exact ⟨r'', body', next', hsucc.trans hmore, hask', hnormal⟩

end Pager

/-! ### Pages of table names -/

namespace ListTablesRequest

/-- The request with another start. -/
def startAt (name : String) (r : ListTablesRequest) : ListTablesRequest :=
  { r with exclusiveStartTableName := some name }

theorem next?_of_end {r : ListTablesRequest} {page : ListTablesOutput}
    (h : ∀ name, page.lastEvaluatedTableName = some name → name = "") : r.next? page = none := by
  unfold next?
  split
  · next name hname =>
    rw [h name hname]
    rfl
  · rfl

theorem next?_of_more {r : ListTablesRequest} {page : ListTablesOutput} {name : String}
    (h : page.lastEvaluatedTableName = some name) (hname : name ≠ "") :
    r.next? page = some (r.startAt name) := by
  unfold next?
  rw [h]
  dsimp only
  rw [if_neg (by rwa [String.isEmpty_iff])]
  rfl

theorem exists_startAt {r r' : ListTablesRequest} {page : ListTablesOutput}
    (h : r.next? page = some r') : ∃ name, r' = r.startAt name := by
  unfold next? at h
  split at h
  · next name hname =>
    split at h
    · exact absurd h nofun
    · exact ⟨name, (Option.some.inj h).symm⟩
  · exact absurd h nofun

theorem toJson_startAt (name : String) (r : ListTablesRequest) :
    (r.startAt name).toJson.normal =
      (r.toJson.setMember "ExclusiveStartTableName" (.str name)).normal := by
  refine @Json.normal_setMember _ _ _ [] _ _ ?_ ?_ ?_ rfl
  · exact fun e he => absurd he List.not_mem_nil
  · exact fun e he => name_of_mem_optionMember he
  · exact ne_of_mem_optionMember (by decide)

end ListTablesRequest

namespace Pager

theorem read_of_toOption_reading {α : Type} {shape : Shape α} {response : Bytes} {a : α}
    (h : (Exchange.reading shape response).toOption = some a) :
    shape.read (Json.ofResponse response) = .ok a := by
  cases hread : Exchange.reading shape response with
  | error e =>
    rw [hread] at h
    exact absurd h nofun
  | ok a' =>
    rw [hread] at h
    obtain rfl : a' = a := Option.some.inj h
    exact (Shape.ofBytes_eq_ok.mp (mapError_eq_ok.mp hread)).1

/-- **Runs through pages of table names.** -/
theorem resumes_tables :
    tables.Resumes "ExclusiveStartTableName" "LastEvaluatedTableName" 1
      (fun j => j = .null ∨ j = .str "") fun _ => True := by
  refine resumes_of_turn (fun r r' => ∀ name, r'.startAt name = r.startAt name) (fun _ _ => rfl)
    ?_ ?_
  · intro r r' page r'' hlike hnext name
    obtain ⟨name', rfl⟩ := ListTablesRequest.exists_startAt hnext
    exact hlike name
  · intro r r' target body next response page hask hlike hpage
    have hread := ListTablesOutput.readPart_lastEvaluatedTableName (read_of_toOption_reading hpage)
    obtain ⟨rfl, rfl, -⟩ := Exchange.ask.inj hask
    rcases Shape.readPart_cases hread with ⟨hlast, hnull⟩ | ⟨j, name, hpart, hne, hj, hlast⟩
    · exact .inl ⟨ListTablesRequest.next?_of_end fun name hname =>
        absurd (hlast.symm.trans hname) nofun, fun j hj => .inl (hnull j hj)⟩
    · obtain rfl := WireValue.stringOf_eq_ok.mp hj
      by_cases hname : name = ""
      · subst hname
        refine .inl ⟨ListTablesRequest.next?_of_end fun name hname => ?_, fun j hj => .inr ?_⟩
        · exact Option.some.inj (hname.symm.trans hlast)
        · exact Option.some.inj (hj.symm.trans hpart)
      · refine .inr ⟨.str name, r.startAt name, hpart, ?_, ?_, fun _ => ?_⟩
        · rintro (hnull | hempty)
          · exact hne hnull
          · exact hname (Json.str.inj hempty)
        · rw [← hlike name]
          exact ListTablesRequest.next?_of_more hlast hname
        · exact ⟨_, _, rfl, ListTablesRequest.toJson_startAt name r⟩

end Pager

/-! ### Pages of items -/

namespace ItemRequest

variable {op : ItemOperation}

/-- The request with another start. -/
def startAt (key : Document) (r : ItemRequest op) : ItemRequest op :=
  { r with input := r.input.startAt key }

theorem next?_of_end {r : ItemRequest op} {page : PageOutput}
    (h : ∀ key, page.lastEvaluatedKey = some key → key = []) : r.next? page = none := by
  unfold next?
  split
  · next key hkey =>
    rw [h key hkey]
    rfl
  · rfl

theorem next?_of_more {r : ItemRequest op} {page : PageOutput} {key : Document}
    (h : page.lastEvaluatedKey = some key) (hkey : key ≠ []) :
    r.next? page = some (r.startAt key) := by
  unfold next?
  rw [h]
  dsimp only
  rw [if_neg (by rwa [List.isEmpty_iff])]
  rfl

theorem exists_startAt {r r' : ItemRequest op} {page : PageOutput}
    (h : r.next? page = some r') : ∃ key, r' = r.startAt key := by
  unfold next? at h
  split at h
  · next key hkey =>
    split at h
    · exact absurd h nofun
    · exact ⟨key, (Option.some.inj h).symm⟩
  · exact absurd h nofun

/-- **A request that is sent is sent from another start too**, if that has a JSON. -/
theorem execute_startAt {r : ItemRequest op} {target : String} {body j : Json}
    {next : Except Error Bytes → Except Error op.Output} {key : Document}
    (h : (DataOperation.item op).execute r = .ask target body next) (hkey : key.toJson = .ok j) :
    ∃ body' next', (DataOperation.item op).execute (r.startAt key) = .ask target body' next' ∧
      ∀ j', j.normal = j'.normal →
        body'.normal = (body.setMember "ExclusiveStartKey" j').normal := by
  rcases DataOperation.execute_cases (.item op) r with ⟨e, -, hx⟩ | ⟨-, -, cause, hx⟩ |
    ⟨hfault, hdocs, body₀, hbody, hx⟩
  · exact absurd (hx.symm.trans h) nofun
  · exact absurd (hx.symm.trans h) nofun
  · obtain ⟨rfl, rfl, -⟩ := Exchange.ask.inj (hx.symm.trans h)
    obtain ⟨body', hbody', hnormal⟩ := ItemInput.toJson_startAt hbody hkey
    -- its documents are those of the request that was sent, and the key
    have hdocs' : ∀ m, (DataOperation.item op).Holds (r.startAt key) m → m.HasWireForm := by
      rintro m (hm | hm | hm)
      · exact hdocs m (.inl hm)
      · obtain rfl : key = m := Option.some.inj hm
        exact Document.exists_toJson.mp ⟨j, hkey⟩
      · exact hdocs m (.inr (.inr hm))
    rcases DataOperation.execute_cases (.item op) (r.startAt key) with ⟨e, he, -⟩ |
      ⟨-, ⟨m, hm, hw⟩, -⟩ | ⟨-, -, body₁, hbody₁, hx'⟩
    · exact absurd (hfault.symm.trans he) nofun
    · exact absurd (hdocs' m hm) hw
    · obtain rfl : body' = body₁ := Except.ok.inj (hbody'.symm.trans hbody₁)
      exact ⟨body', _, hx', hnormal⟩

end ItemRequest

namespace Pager

/-- A response to a request for a page of items is read as one. -/
theorem read_of_page? {op : ItemOperation} (hop : op.isPaged = true) {r : ItemRequest op}
    {response : Bytes} {o : op.Output} (h : (items op).page? r response = some o) :
    ∃ page, op.page? o = some page ∧
      PageOutput.shape.read (Json.ofResponse response) = .ok page := by
  unfold page? items at h
  dsimp only at h
  rcases DataOperation.execute_cases (.item op) r with ⟨e, -, hx⟩ | ⟨-, -, cause, hx⟩ |
    ⟨-, -, body, -, hx⟩
  · rw [hx] at h
    exact absurd h nofun
  · rw [hx] at h
    exact absurd h nofun
  · rw [hx] at h
    cases op with
    | query => exact ⟨o, rfl, read_of_toOption_reading h⟩
    | scan => exact ⟨o, rfl, read_of_toOption_reading h⟩
    | get | put | update | delete => exact absurd hop nofun

/-- **Runs through pages of items.** -/
theorem resumes_items {op : ItemOperation} (hop : op.isPaged = true) :
    (items op).Resumes "ExclusiveStartKey" "LastEvaluatedKey" 3
      (fun j => j = .null ∨ j = .obj []) Json.Lasting := by
  refine resumes_of_turn (fun r r' => ∀ key, r'.startAt key = r.startAt key) (fun _ _ => rfl)
    ?_ ?_
  · intro r r' o r'' hlike hnext key
    obtain ⟨page, -, hnext⟩ := Option.bind_eq_some_iff.mp hnext
    obtain ⟨key', rfl⟩ := ItemRequest.exists_startAt hnext
    exact hlike key
  · intro r r' target body next response o hask hlike hpage
    obtain ⟨page, ho, hpage⟩ := read_of_page? hop hpage
    have hnext : (items op).next? r' o = r'.next? page := by
      show (op.page? o).bind r'.next? = _
      rw [ho]
      rfl
    rw [hnext]
    rcases Shape.readPart_cases (PageOutput.readPart_lastEvaluatedKey hpage) with
      ⟨hlast, hnull⟩ | ⟨j, key, hpart, hne, hj, hlast⟩
    · exact .inl ⟨ItemRequest.next?_of_end fun key hkey =>
        absurd (hlast.symm.trans hkey) nofun, fun j hj => .inl (hnull j hj)⟩
    · by_cases hkey : key = []
      · subst hkey
        refine .inl ⟨ItemRequest.next?_of_end fun key hkey => ?_, fun j' hj' => .inr ?_⟩
        · exact Option.some.inj (hkey.symm.trans hlast)
        · obtain rfl : j' = j := Option.some.inj (hj'.symm.trans hpart)
          exact (Document.ofTypedJson_nil hj).mp rfl
      · refine .inr ⟨j, r.startAt key, hpart, ?_, ?_, fun hkeeps => ?_⟩
        · rintro (hnull | hempty)
          · exact hne hnull
          · exact hkey ((Document.ofTypedJson_nil hj).mpr hempty)
        · rw [← hlike key]
          exact ItemRequest.next?_of_more hlast hkey
        · obtain ⟨j', hj', hnormal⟩ := Document.toJson_of_ofTypedJson hj hkeeps
          obtain ⟨body', next', hask', hbody⟩ := ItemRequest.execute_startAt hask hj'
          exact ⟨body', next', hask', hbody j hnormal⟩

/-- **Runs through pages.** Each request of a run of queries or scans is the first one with the key
that the last answer gave as the one to start at, and each request of a run of lists of tables is the
first one with the name that the last answer gave. -/
theorem resumes :
    (items .query).Resumes "ExclusiveStartKey" "LastEvaluatedKey" 3
      (fun j => j = .null ∨ j = .obj []) Json.Lasting ∧
    (items .scan).Resumes "ExclusiveStartKey" "LastEvaluatedKey" 3
      (fun j => j = .null ∨ j = .obj []) Json.Lasting ∧
    tables.Resumes "ExclusiveStartTableName" "LastEvaluatedTableName" 1
      (fun j => j = .null ∨ j = .str "") fun _ => True :=
  ⟨resumes_items rfl, resumes_items rfl, resumes_tables⟩

/-- A query goes on from a key with a number, whose text is kept. -/
theorem resumes_query :
    ∃ r' body' next', (items .query).request? (ItemRequest.new "t" [])
        (fun _ => .ofString
          "\x7b\"LastEvaluatedKey\":\x7b\"a\":\x7b\"N\":\"1.50\"\x7d\x7d\x7d") 1 = some r' ∧
      (DataOperation.item .query).execute r' = .ask "Query" body' next' ∧
      body'.normal = .obj [("ExclusiveStartKey", .obj [("a", .obj [("N", .str "1.50")])]),
        ("TableName", .str "t")] := by
  have hlasting : (Json.obj [("a", .obj [("N", .str "1.50")])]).Lasting := by
    rintro ms (_ | _ | ⟨hmem, hms⟩) e he
    · obtain rfl := List.mem_singleton.mp he
      simp
    · obtain ⟨rfl, rfl⟩ := Prod.mk.inj (List.mem_singleton.mp hmem)
      obtain _ | _ | ⟨hmem, hms⟩ := hms
      · obtain rfl := List.mem_singleton.mp he
        simp
      · obtain ⟨rfl, rfl⟩ := Prod.mk.inj (List.mem_singleton.mp hmem)
        exact absurd hms nofun
  have hask : (items .query).ask (ItemRequest.new "t" []) =
      .ask "Query" (.obj [("TableName", .str "t")]) _ := rfl
  obtain ⟨-, hmore⟩ := resumes.1 hask
    (fun _ => .ofString
      "\x7b\"LastEvaluatedKey\":\x7b\"a\":\x7b\"N\":\"1.50\"\x7d\x7d\x7d") 0 rfl rfl
  obtain ⟨r', body', next', hr', hask', hbody⟩ :=
    hmore (.obj [("a", .obj [("N", .str "1.50")])]) rfl (by simp) hlasting
  exact ⟨r', body', next', hr', hask', hbody⟩

end Pager

end Dynamo
