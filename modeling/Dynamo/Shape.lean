import Dynamo.Json.Reader
import Dynamo.Wire.Codec

/-! # Shapes of messages

A shape says how the values of a type are written as JSON and read back. Shapes are made from
smaller ones: of a list, of a dictionary, of a choice between names, and of a record with named
members.

* `Member`: a named part of a record, with what stands for it when it is missing.
* `Fields`: the members of a record, read from an object, where others are passed over, or from an
  array of their values in order. -/

namespace Dynamo

open Decimal

/-- **How a type is written and read.** -/
structure Shape (α : Type) where
  write : α → Except EncodeError Json
  read : Json → Except ReadError α

namespace Shape

variable {α β : Type}

/-- The value in a text. The first fault of the text counts. -/
def ofBytes (s : Shape α) (bs : Bytes) : Except ReadError α := do
  let r := Json.reading Json.maxDepth bs
  let a ← s.read r.value
  if r.complete then return a else .error .malformed

/-- A shape whose writing cannot fail. -/
def total (write : α → Json) (read : Json → Except ReadError α) : Shape α :=
  ⟨fun a => .ok (write a), read⟩

/-- A text. -/
def string : Shape String := total .str WireValue.stringOf

/-- A truth value. -/
def bool : Shape Bool := total .bool WireValue.boolOf

/-- A natural number of 64 bits; only an integer is one. -/
def nat64 : Shape UInt64 :=
  total (fun n => Json.ofInt n.toNat) fun
    | .num (.int i) =>
      if IntegerRange.nat64.contains i then .ok (UInt64.ofNat i.toNat) else .error .malformed
    | _ => .error .malformed

/-- A binary number; an integer stands for the nearest one. -/
def double : Shape Double :=
  total Json.ofDouble fun
    | .num (.float x) => .ok x
    | .num (.int i) => .ok (Double.ofInt i)
    | _ => .error .malformed

/-- A document, its values typed. -/
def document : Shape Document := ⟨Document.toJson, Document.ofTypedJson⟩

/-- A value or null. -/
def option (s : Shape α) : Shape (Option α) where
  write
    | none => .ok .null
    | some a => s.write a
  read
    | .null => .ok none
    | j => (s.read j).map some

/-- An array. -/
def list (s : Shape α) : Shape (List α) where
  write items := return .arr (← items.mapM s.write)
  read
    | .arr items => items.mapM s.read
    | _ => .error .malformed

/-- An object with any names; of several members of one name the last counts. -/
def dict (s : Shape α) : Shape (Dict α) where
  write m := return .obj (← m.entries.mapM fun e => return (e.1, ← s.write e.2))
  read
    | .obj members => return Dict.ofList (← members.mapM fun e => return (e.1, ← s.read e.2))
    | _ => .error .malformed

/-- A choice between names: the name itself, or an object with null under the name. -/
def choice (all : List α) (name : α → String) : Shape α :=
  let find (s : String) : Except ReadError α :=
    match all.find? fun a => name a = s with
    | some a => .ok a
    | none => .error .malformed
  total (fun a => .str (name a)) fun
    | .str s => find s
    | .obj [(s, .null)] => find s
    | _ => .error .malformed

end Shape

/-- What stands for a member that is missing. -/
inductive Absent (α : Type) where
  /-- Nothing: the member has to be there. -/
  | required
  /-- A value, in an object only. -/
  | inObject (a : α)
  /-- A value. -/
  | anywhere (a : α)

/-- A named part of a record. -/
structure Member (α : Type) where
  name : String
  shape : Shape α
  /-- Other names that are read. -/
  aliases : List String := []
  /-- Which values are left out in writing. -/
  leftOut : α → Bool := fun _ => false
  absent : Absent α := .required

namespace Member

variable {α : Type}

/-- A member that has to be there. -/
def required (name : String) (shape : Shape α) : Member α := { name, shape }

/-- A member that has a value when it is missing. -/
def defaulted (name : String) (shape : Shape α) (a : α) : Member α :=
  { name, shape, absent := .anywhere a }

/-- A member that is null when it is missing. -/
def nullable (name : String) (shape : Shape α) : Member (Option α) :=
  { name, shape := shape.option, absent := .anywhere none }

/-- A member that is left out in writing, instead of null. -/
def optional (name : String) (shape : Shape α) : Member (Option α) :=
  { nullable name shape with leftOut := Option.isNone }

/-- An array that is left out if it is empty. -/
def list (name : String) (shape : Shape α) : Member (List α) :=
  { name, shape := shape.list, leftOut := List.isEmpty, absent := .anywhere [] }

/-- A dictionary that is left out if it is empty. -/
def dict (name : String) (shape : Shape α) : Member (Dict α) :=
  { name, shape := shape.dict, leftOut := Dict.isEmpty, absent := .anywhere Dict.empty }

/-- A truth value that is left out if it is false. -/
def flag (name : String) : Member Bool :=
  { name, shape := .bool, leftOut := not, absent := .anywhere false }

/-- Is the member called so? -/
def answersTo (m : Member α) (name : String) : Bool := m.name = name || m.aliases.contains name

end Member

/-- **The members of a record.** -/
structure Fields (α : Type) where
  write : α → Except EncodeError (List (String × Json))
  ofMembers : List (String × Json) → Except ReadError α
  /-- Takes the members from the beginning of an array and leaves the rest. -/
  ofItems : List Json → Except ReadError (α × List Json)
  answersTo : String → Bool

namespace Fields

variable {α β : Type}

/-- A record with one member, which must not occur twice. -/
def one (m : Member α) : Fields α where
  write a := if m.leftOut a then .ok [] else return [(m.name, ← m.shape.write a)]
  ofMembers members :=
    match members.filter fun e => m.answersTo e.1 with
    | [] =>
      match m.absent with
      | .required => .error .malformed
      | .inObject a | .anywhere a => .ok a
    | [e] => m.shape.read e.2
    | _ => .error .malformed
  ofItems
    | [] =>
      match m.absent with
      | .anywhere a => .ok (a, [])
      | _ => .error .malformed
    | j :: js => return (← m.shape.read j, js)
  answersTo := m.answersTo

/-- The members of one record and then those of another. -/
def and (r : Fields α) (s : Fields β) : Fields (α × β) where
  write a := return (← r.write a.1) ++ (← s.write a.2)
  ofMembers members := return (← r.ofMembers members, ← s.ofMembers members)
  ofItems items := do
    let (a, items) ← r.ofItems items
    let (b, items) ← s.ofItems items
    return ((a, b), items)
  answersTo name := r.answersTo name || s.answersTo name

/-- One member and then those of a record. -/
def cons (m : Member α) (r : Fields β) : Fields (α × β) := (one m).and r

/-- The same members for a type with the same parts. -/
def iso (parts : β → α) (make : α → β) (r : Fields α) : Fields β where
  write b := r.write (parts b)
  ofMembers members := (r.ofMembers members).map make
  ofItems items := (r.ofItems items).map fun (a, rest) => (make a, rest)
  answersTo := r.answersTo

end Fields

namespace Shape

variable {α : Type}

/-- An object with the members of a record, or an array of their values. -/
def record (r : Fields α) : Shape α where
  write a := return .obj (← r.write a)
  read
    | .obj members => r.ofMembers members
    | .arr items => do
      let (a, rest) ← r.ofItems items
      if rest.isEmpty then .ok a else .error .malformed
    | _ => .error .malformed

/-- An object with the members of two records, the first of which is a part of its own in the type.
What is no member of the second is gathered before it is read, so it has to be legible. -/
def spliced {β : Type} (inner : Fields α) (outer : Fields β) : Shape (α × β) where
  write a := return .obj (← (inner.and outer).write a)
  read
    | .obj members =>
      if members.all fun e => outer.answersTo e.1 || e.2.legible then
        (inner.and outer).ofMembers members
      else .error .malformed
    | _ => .error .malformed

/-- The same shape for a type with the same parts. -/
def iso {β : Type} (parts : β → α) (make : α → β) (s : Shape α) : Shape β where
  write b := s.write (parts b)
  read j := (s.read j).map make

end Shape

end Dynamo
