import Dynamo.Proofs.Except
import Dynamo.Proofs.Shape
import Dynamo.Service.Error
import Mathlib

/-! # How error answers are classified

An error answer is read as a whole. Where it can be read, its kind is decided by the type alone,
whatever else it says; where its message is no text, it counts as an answer that is no error answer at
all.

* `ErrorResponse.read_eq_ok`: which objects are error answers.
* `ServiceError.ofResponse_classifies`: the error that an answer says. -/

namespace Dynamo

open Dynamo.Except

/-- **`name` is the last part of `type`**, or all of it if it has one part only. -/
def IsException (type name : String) : Prop :=
  '#' ∉ name.toList ∧ (type = name ∨ ∃ namespaces, type = namespaces ++ "#" ++ name)

namespace ErrorResponse

theorem afterLastHash_spec (type : String) : IsException type (afterLastHash type) := by
  set cs := type.toList.reverse with hcs
  have hname : (afterLastHash type).toList = (cs.takeWhile (· ≠ '#')).reverse :=
    String.toList_ofList
  have hsplit : type.toList = (cs.dropWhile (· ≠ '#')).reverse ++ (afterLastHash type).toList := by
    rw [hname, ← List.reverse_append, List.takeWhile_append_dropWhile, hcs, List.reverse_reverse]
  refine ⟨fun hmem => ?_, ?_⟩
  · rw [hname, List.mem_reverse] at hmem
    exact absurd (List.mem_takeWhile_imp hmem) (by simp)
  cases hdrop : cs.dropWhile (· ≠ '#') with
  | nil =>
    rw [hdrop, List.reverse_nil, List.nil_append] at hsplit
    exact .inl (String.toList_injective hsplit)
  | cons c ds =>
    -- what is left of the type, read from its end, begins with the last `#`
    have hhead := List.head?_dropWhile_not (fun c => decide (c ≠ '#')) cs
    rw [hdrop] at hhead
    obtain rfl : c = '#' := by simpa using hhead
    refine .inr ⟨String.ofList ds.reverse, String.toList_injective ?_⟩
    rw [hsplit, hdrop]
    simp

/-- A type has one last part. -/
theorem afterLastHash_eq_iff {type name : String} :
    afterLastHash type = name ↔ IsException type name := by
  constructor
  · rintro rfl
    exact afterLastHash_spec type
  · rintro ⟨hname, htype⟩
    have hpart : name.toList.reverse.takeWhile (· ≠ '#') = name.toList.reverse :=
      List.takeWhile_eq_self_iff.mpr fun c hc =>
        decide_eq_true fun h => hname (h ▸ List.mem_reverse.mp hc)
    have hlast : type.toList.reverse.takeWhile (· ≠ '#') = name.toList.reverse := by
      rcases htype with rfl | ⟨namespaces, rfl⟩
      · exact hpart
      · rw [String.toList_append, String.toList_append, List.reverse_append, List.reverse_append,
          List.takeWhile_append, hpart, if_pos rfl]
        simp
    rw [afterLastHash, hlast, List.reverse_reverse, String.ofList_toList]

/-- The members with the message, in either spelling. -/
def messages (members : List (String × Json)) : List (String × Json) :=
  members.filter fun e => e.1 = "message" || e.1 = "Message"

/-- The message is missing, or given once and a text. -/
def Readable (members : List (String × Json)) : Prop :=
  messages members = [] ∨ ∃ name text, messages members = [(name, .str text)]

theorem filter_type (members : List (String × Json)) :
    members.filter (fun e => (Member.required "__type" Shape.string).answersTo e.1) =
      members.filter fun e => e.1 = "__type" := by
  refine List.filter_congr fun e _ => ?_
  simp only [Member.answersTo, Member.required, List.contains_nil, Bool.or_false]
  exact decide_eq_decide.mpr eq_comm

theorem filter_message (members : List (String × Json)) :
    members.filter (fun e =>
      { Member.defaulted "message" Shape.string "" with aliases := ["Message"] }.answersTo e.1) =
      messages members := by
  refine List.filter_congr fun e _ => ?_
  simp only [Member.answersTo, Member.defaulted, List.contains_cons, List.contains_nil,
    Bool.or_false]
  exact congrArg₂ or (decide_eq_decide.mpr eq_comm) (beq_eq_decide _ _)

theorem read_string_eq_ok {j : Json} {s : String} :
    Shape.string.read j = .ok s ↔ j = .str s := by
  cases j <;> simp [Shape.string, Shape.total, WireValue.stringOf]

/-- The error answer with this type and these messages. -/
def ofMessages (type : String) : List (String × Json) → Except ReadError ErrorResponse
  | [] => .ok ⟨type, ""⟩
  | [e] => (Shape.string.read e.2).map (ErrorResponse.mk type)
  | _ => .error .malformed

/-- **An object with one type is an error answer** if it has no message, or one that is a text. -/
theorem read_eq_ok {members : List (String × Json)} {type : String}
    (htype : members.filter (fun e => e.1 = "__type") = [("__type", .str type)])
    {r : ErrorResponse} :
    shape.read (.obj members) = .ok r ↔ r.errorType = type ∧
      ((messages members = [] ∧ r.message = "") ∨
        ∃ name, messages members = [(name, .str r.message)]) := by
  have hread : shape.read (.obj members) = ofMessages type (messages members) := by
    unfold shape Shape.record Fields.iso Fields.cons Fields.and Fields.one
    dsimp only
    rw [filter_type, filter_message, htype]
    rcases messages members with - | ⟨⟨name, j⟩, - | ⟨e', es⟩⟩
    · rfl
    · cases j <;> rfl
    · rfl
  obtain ⟨errorType, message⟩ := r
  rw [hread]
  rcases messages members with - | ⟨⟨name, j⟩, - | ⟨e', es⟩⟩
  · simp [ofMessages, eq_comm]
  · simp only [ofMessages, map_eq_ok, read_string_eq_ok]
    constructor
    · rintro ⟨text, rfl, heq⟩
      obtain ⟨rfl, rfl⟩ := ErrorResponse.mk.inj heq
      exact ⟨rfl, .inr ⟨name, rfl⟩⟩
    · rintro ⟨rfl, ⟨hnil, -⟩ | ⟨name', hone⟩⟩
      · exact absurd hnil nofun
      · obtain ⟨he, -⟩ := List.cons.inj hone
        exact ⟨message, congrArg Prod.snd he, rfl⟩
  · simp [ofMessages]

/-- An object with one type and a message that cannot be read is no error answer. -/
theorem exists_read_iff {members : List (String × Json)} {type : String}
    (htype : members.filter (fun e => e.1 = "__type") = [("__type", .str type)]) :
    (∃ r, shape.read (.obj members) = .ok r) ↔ Readable members := by
  simp only [read_eq_ok htype]
  constructor
  · rintro ⟨r, -, ⟨hnone, -⟩ | ⟨name, hone⟩⟩
    · exact .inl hnone
    · exact .inr ⟨name, r.message, hone⟩
  · rintro (hnone | ⟨name, text, hone⟩)
    · exact ⟨⟨type, ""⟩, rfl, .inl ⟨hnone, rfl⟩⟩
    · exact ⟨⟨type, text⟩, rfl, .inr ⟨name, hone⟩⟩

theorem ofBytes?_eq_some_iff {body : Bytes} {j : Json} (hbody : Json.ofBytes? body = some j)
    {r : ErrorResponse} : ofBytes? body = some r ↔ shape.read j = .ok r := by
  rw [ofBytes?, Shape.ofBytes_eq_read hbody]
  cases shape.read j <;> simp [Except.toOption]

end ErrorResponse

namespace ServiceError

theorem ofResponse_of_some {status : ℕ} {request body : Bytes} {r : ErrorResponse}
    (h : ErrorResponse.ofBytes? body = some r) :
    ofResponse status request body =
      ⟨.ofException r.exception, r.errorType, r.exception, r.message, status, request, body⟩ := by
  unfold ofResponse
  rw [h]
  rfl

theorem ofResponse_of_none {status : ℕ} {request body : Bytes}
    (h : ErrorResponse.ofBytes? body = none) :
    ofResponse status request body = ⟨.unknown, "", "", unreadable, status, request, body⟩ := by
  unfold ofResponse
  rw [h]

/-- **The type alone says what the error is**, whatever else the object says, if its message can be
read. If not, the error is of unknown kind, and says that the answer could not be read. -/
theorem ofResponse_classifies (status : ℕ) (request : Bytes) {body : Bytes}
    {members : List (String × Json)} {type : String}
    (hbody : Json.ofBytes? body = some (.obj members))
    (htype : members.filter (fun e => e.1 = "__type") = [("__type", .str type)]) :
    let e := ofResponse status request body
    (e.status = status ∧ e.requestBody = request ∧ e.responseBody = body) ∧
      (ErrorResponse.Readable members →
        e.errorType = type ∧ IsException type e.exception ∧
          e.kind = ErrorKind.ofException e.exception ∧
          e.isRetryable = (ErrorKind.ofException e.exception).isRetryable) ∧
      (¬ ErrorResponse.Readable members →
        e.errorType = "" ∧ e.exception = "" ∧ e.message = unreadable ∧ e.kind = .unknown ∧
          e.isRetryable = false) := by
  have hiff := ErrorResponse.exists_read_iff htype
  cases hr : ErrorResponse.ofBytes? body with
  | some r =>
    have hread := (ErrorResponse.ofBytes?_eq_some_iff hbody).mp hr
    obtain ⟨rfl, -⟩ := (ErrorResponse.read_eq_ok htype).mp hread
    have hexception : IsException r.errorType r.exception := ErrorResponse.afterLastHash_spec _
    simp only [ofResponse_of_some hr, isRetryable]
    exact ⟨⟨trivial, trivial, trivial⟩, fun _ => ⟨trivial, hexception, trivial, trivial⟩,
      fun hnot => absurd (hiff.mp ⟨r, hread⟩) hnot⟩
  | none =>
    have hnot : ¬ ErrorResponse.Readable members := by
      intro hmessage
      obtain ⟨r, hread⟩ := hiff.mpr hmessage
      exact absurd ((ErrorResponse.ofBytes?_eq_some_iff hbody).mpr hread) (by simp [hr])
    simp only [ofResponse_of_none hr, isRetryable, ErrorKind.isRetryable]
    exact ⟨⟨trivial, trivial, trivial⟩, fun hmessage => absurd hmessage hnot,
      fun _ => ⟨trivial, trivial, trivial, trivial, trivial⟩⟩

/-- An answer in the other spelling, with a member that no error answer has. -/
theorem ofResponse_classifies_throttling :
    (ofResponse 400 [] (Bytes.ofString
        "\x7b\"at\":[1],\"__type\":\"a#b#ThrottlingException\",\"Message\":\"slow\"\x7d")).kind =
      .throttling := by
  have hbody : Json.ofBytes? (Bytes.ofString
        "\x7b\"at\":[1],\"__type\":\"a#b#ThrottlingException\",\"Message\":\"slow\"\x7d") =
      some (.obj [("at", .arr [Json.ofInt 1]), ("__type", .str "a#b#ThrottlingException"),
        ("Message", .str "slow")]) := by cbv
  have hmessage : ErrorResponse.Readable [("at", .arr [Json.ofInt 1]),
      ("__type", .str "a#b#ThrottlingException"), ("Message", .str "slow")] :=
    .inr ⟨"Message", "slow", rfl⟩
  obtain ⟨-, hreadable, -⟩ := ofResponse_classifies 400 [] hbody rfl
  obtain ⟨-, hexception, hkind, -⟩ := hreadable hmessage
  have hlast : ErrorResponse.afterLastHash "a#b#ThrottlingException" = "ThrottlingException" := by
    decide
  rw [hkind, ← ErrorResponse.afterLastHash_eq_iff.mpr hexception, hlast]
  decide

/-- With null for its message, the answer of a throttled request says nothing: neither what the error
is, nor that the request may be sent again. -/
theorem ofResponse_null_message :
    Json.ofBytes? (Bytes.ofString
        "\x7b\"__type\":\"x#ThrottlingException\",\"message\":null\x7d") =
        some (.obj [("__type", .str "x#ThrottlingException"), ("message", .null)]) ∧
      ofResponse 400 [] (Bytes.ofString
          "\x7b\"__type\":\"x#ThrottlingException\",\"message\":null\x7d") =
        { kind := .unknown, errorType := "", exception := "", message := unreadable, status := 400
          requestBody := []
          responseBody := Bytes.ofString
            "\x7b\"__type\":\"x#ThrottlingException\",\"message\":null\x7d" } ∧
      IsException "x#ThrottlingException" "ThrottlingException" ∧
      ErrorKind.ofException "ThrottlingException" = .throttling := by
  have hbody : Json.ofBytes? (Bytes.ofString
      "\x7b\"__type\":\"x#ThrottlingException\",\"message\":null\x7d") =
        some (.obj [("__type", .str "x#ThrottlingException"), ("message", .null)]) := by cbv
  have hnone : ErrorResponse.ofBytes? (Bytes.ofString
      "\x7b\"__type\":\"x#ThrottlingException\",\"message\":null\x7d") = none := by
    rw [ErrorResponse.ofBytes?, Shape.ofBytes_eq_read hbody]
    rfl
  exact ⟨hbody, ofResponse_of_none hnone, ⟨by decide, .inr ⟨"x", by decide⟩⟩, by decide⟩

end ServiceError

end Dynamo
