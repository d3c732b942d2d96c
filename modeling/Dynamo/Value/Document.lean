import Dynamo.Time.Timestamp
import Dynamo.Value

/-! # Documents

Typed reading of attributes. A missing attribute and a null one are absent; one of another kind is
an error that says which kind was found.

* `Document.typed_eq_ok_none_iff`: absent means missing or null. -/

namespace Dynamo

/-- Why an attribute cannot be read as asked. -/
inductive DocumentError where
  | wrongKind (key : String) (expected found : ValueKind)
  | invalidTime (key : String) (text : String)
  deriving DecidableEq, Repr

/-- The message of the error. -/
def DocumentError.message : DocumentError → String
  | .wrongKind key expected found =>
    "attribute " ++ Text.quoted key ++ " is " ++ found.name ++ ", expected " ++ expected.name
  | .invalidTime key text =>
    "attribute " ++ Text.quoted key ++ " is not a timestamp: " ++ Text.quoted text

namespace Document

/-- The value of an attribute, null counted as missing. -/
def present? (m : Document) (key : String) : Option Value :=
  match Entries.get? key m with
  | some .null => none
  | v => v

/-- An attribute of the kind that `pick` takes. -/
def typed {α : Type} (expected : ValueKind) (pick : Value → Option α) (m : Document)
    (key : String) : Except DocumentError (Option α) :=
  match present? m key with
  | none => .ok none
  | some v =>
    match pick v with
    | some a => .ok (some a)
    | none => .error (.wrongKind key expected v.kind)

/-- The text of a string attribute. -/
def string : Document → String → Except DocumentError (Option String) :=
  typed .string Value.string?

/-- The number of a number attribute. -/
def number : Document → String → Except DocumentError (Option Number) :=
  typed .number Value.number?

/-- The items of a list attribute. -/
def list : Document → String → Except DocumentError (Option (List Value)) :=
  typed .list Value.list?

/-- The items of a string set attribute. -/
def stringSet : Document → String → Except DocumentError (Option (List String)) :=
  typed .stringSet Value.stringSet?

/-- The document of a document attribute. -/
def document : Document → String → Except DocumentError (Option Document) :=
  typed .document Value.document?

/-- What a value says as a truth value: bools themselves, and of numbers those whose nearest binary
number is not zero. -/
def truth? : Value → Option Bool
  | .bool b => some b
  | .number n => some !n.toDouble.isZero
  | _ => none

/-- The truth value of an attribute, false if it is absent. -/
def bool (m : Document) (key : String) : Except DocumentError Bool :=
  (typed .bool truth? m key).map (·.getD false)

/-- The instant of an attribute that holds a timestamp. -/
def time (m : Document) (key : String) : Except DocumentError (Option Instant) := do
  match ← string m key with
  | none => .ok none
  | some text =>
    match Instant.ofText? text with
    | some t => .ok (some t)
    | none => .error (.invalidTime key text)

/-- The document with one attribute. -/
def single (key : String) (v : Value) : Document := [(key, v)]

/-- The documents of a list; an item of another kind is called by its position. -/
def ofItems (items : List Value) : Except DocumentError (List Document) :=
  items.zipIdx.mapM fun (v, i) =>
    match v.document? with
    | some m => .ok m
    | none => .error (.wrongKind (Decimal.natText i) .document v.kind)

theorem typed_eq_ok_none_iff {α : Type} (expected : ValueKind) (pick : Value → Option α)
    (m : Document) (key : String) :
    typed expected pick m key = .ok none ↔
      Entries.get? key m = none ∨ Entries.get? key m = some .null := by
  have hpresent : present? m key = none ↔
      Entries.get? key m = none ∨ Entries.get? key m = some .null := by
    unfold present?
    split <;> simp_all
  rw [← hpresent]
  unfold typed
  split
  · simp_all
  · split <;> simp_all

end Document

/-- The timestamp of an instant as a value. -/
def Value.ofInstant (t : Instant) : Value := .string t.text

end Dynamo
