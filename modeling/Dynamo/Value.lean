import Dynamo.Number
import Dynamo.Text.Utf8
import Dynamo.Dict

/-! # Values

What an attribute of an item may hold. A document is a dictionary of values; inside a value it is a
bare list of entries, and `Value.WellFormed` says that all of them ascend strictly by name.

* `Value.isEmptyCollection`: the lists and sets that cannot travel.
* `Value.beq_iff`: equality is decided structurally. -/

namespace Dynamo

/-- **A value.** The entries of a document are kept in the order of their names. -/
inductive Value where
  | string (s : String)
  | number (n : Number)
  | binary (bytes : Bytes)
  | bool (b : Bool)
  | null
  | stringSet (items : List String)
  | numberSet (items : List Number)
  | binarySet (items : List Bytes)
  | list (items : List Value)
  | document (entries : List (String × Value))
  deriving Inhabited

/-- A document: named values. -/
abbrev Document := Entries Value

/-- The kinds of values. -/
inductive ValueKind where
  | string
  | number
  | binary
  | bool
  | null
  | stringSet
  | numberSet
  | binarySet
  | list
  | document
  deriving DecidableEq, Repr, Inhabited

/-- The name of a kind in messages. -/
def ValueKind.name : ValueKind → String
  | .string => "string"
  | .number => "number"
  | .binary => "binary"
  | .bool => "bool"
  | .null => "null"
  | .stringSet => "string set"
  | .numberSet => "number set"
  | .binarySet => "binary set"
  | .list => "list"
  | .document => "document"

namespace Value

/-- The kind of a value. -/
def kind : Value → ValueKind
  | .string _ => .string
  | .number _ => .number
  | .binary _ => .binary
  | .bool _ => .bool
  | .null => .null
  | .stringSet _ => .stringSet
  | .numberSet _ => .numberSet
  | .binarySet _ => .binarySet
  | .list _ => .list
  | .document _ => .document

/-- Is the value a list or a set without items? A document without entries is none of these. -/
def isEmptyCollection : Value → Bool
  | .stringSet items => items.isEmpty
  | .numberSet items => items.isEmpty
  | .binarySet items => items.isEmpty
  | .list items => items.isEmpty
  | _ => false

/-- Is the value null? -/
def isNull : Value → Bool
  | .null => true
  | _ => false

/-- The text of a string. -/
def string? : Value → Option String
  | .string s => some s
  | _ => none

/-- The number of a number value. -/
def number? : Value → Option Number
  | .number n => some n
  | _ => none

/-- The bytes of a binary value. -/
def binary? : Value → Option Bytes
  | .binary bytes => some bytes
  | _ => none

/-- The truth value of a bool. -/
def bool? : Value → Option Bool
  | .bool b => some b
  | _ => none

/-- The items of a list. -/
def list? : Value → Option (List Value)
  | .list items => some items
  | _ => none

/-- The texts of a string set. -/
def stringSet? : Value → Option (List String)
  | .stringSet items => some items
  | _ => none

/-- The document that the value is. -/
def document? : Value → Option Document
  | .document m => some m
  | _ => none

/-- The value of an integer. -/
def ofInt (i : Int) : Value := .number (Number.ofInt i)

/-! ### Equality -/

mutual

/-- Are two values the same? -/
def beq : Value → Value → Bool
  | .string s, .string t => s = t
  | .number n, .number k => n = k
  | .binary a, .binary b => a = b
  | .bool a, .bool b => a = b
  | .null, .null => true
  | .stringSet xs, .stringSet ys => xs = ys
  | .numberSet xs, .numberSet ys => xs = ys
  | .binarySet xs, .binarySet ys => xs = ys
  | .list xs, .list ys => beqItems xs ys
  | .document m, .document k => beqEntries m k
  | _, _ => false

/-- Are two lists of values the same? -/
def beqItems : List Value → List Value → Bool
  | [], [] => true
  | x :: xs, y :: ys => beq x y && beqItems xs ys
  | _, _ => false

/-- Are two lists of named values the same? -/
def beqEntries : List (String × Value) → List (String × Value) → Bool
  | [], [] => true
  | (k, v) :: m, (k', v') :: m' => k = k' && (beq v v' && beqEntries m m')
  | _, _ => false

end

mutual

theorem eq_of_beq : ∀ a b : Value, beq a b = true → a = b
  | .string _, b, h => by cases b <;> simp_all [beq]
  | .number _, b, h => by cases b <;> simp_all [beq]
  | .binary _, b, h => by cases b <;> simp_all [beq]
  | .bool _, b, h => by cases b <;> simp_all [beq]
  | .null, b, h => by cases b <;> simp_all [beq]
  | .stringSet _, b, h => by cases b <;> simp_all [beq]
  | .numberSet _, b, h => by cases b <;> simp_all [beq]
  | .binarySet _, b, h => by cases b <;> simp_all [beq]
  | .list xs, b, h => by
    cases b with
    | list ys => rw [eq_of_beqItems xs ys (by simpa [beq] using h)]
    | _ => simp [beq] at h
  | .document m, b, h => by
    cases b with
    | document m' => rw [eq_of_beqEntries m m' (by simpa [beq] using h)]
    | _ => simp [beq] at h

theorem eq_of_beqItems : ∀ xs ys : List Value, beqItems xs ys = true → xs = ys
  | [], ys, h => by cases ys <;> simp_all [beqItems]
  | x :: xs, ys, h => by
    cases ys with
    | nil => simp [beqItems] at h
    | cons y ys =>
      obtain ⟨h₁, h₂⟩ := (Bool.and_eq_true _ _).mp (by simpa [beqItems] using h)
      rw [eq_of_beq x y h₁, eq_of_beqItems xs ys h₂]

theorem eq_of_beqEntries : ∀ m m' : List (String × Value), beqEntries m m' = true → m = m'
  | [], m', h => by cases m' <;> simp_all [beqEntries]
  | (k, v) :: m, m', h => by
    cases m' with
    | nil => simp [beqEntries] at h
    | cons e m' =>
      obtain ⟨k', v'⟩ := e
      simp only [beqEntries, Bool.and_eq_true, decide_eq_true_eq] at h
      rw [h.1, eq_of_beq v v' h.2.1, eq_of_beqEntries m m' h.2.2]

end

mutual

theorem beq_refl : ∀ a : Value, beq a a = true
  | .string _ | .number _ | .binary _ | .bool _ | .null => by simp [beq]
  | .stringSet _ | .numberSet _ | .binarySet _ => by simp [beq]
  | .list xs => by simpa [beq] using beqItems_refl xs
  | .document m => by simpa [beq] using beqEntries_refl m

theorem beqItems_refl : ∀ xs : List Value, beqItems xs xs = true
  | [] => rfl
  | x :: xs => by simp [beqItems, beq_refl x, beqItems_refl xs]

theorem beqEntries_refl : ∀ m : List (String × Value), beqEntries m m = true
  | [] => rfl
  | (_, v) :: m => by simp [beqEntries, beq_refl v, beqEntries_refl m]

end

theorem beq_iff {a b : Value} : beq a b = true ↔ a = b :=
  ⟨eq_of_beq a b, fun h => h ▸ beq_refl a⟩

instance : DecidableEq Value := fun a b =>
  if h : beq a b = true then isTrue (beq_iff.1 h) else isFalse fun hab => h (beq_iff.2 hab)

/-! ### Well-formed values -/

mutual

/-- Are the entries of all documents in the value in strict order? -/
def WellFormed : Value → Prop
  | .list items => WellFormedItems items
  | .document m => Entries.Sorted m ∧ WellFormedEntries m
  | _ => True

/-- The same for all items of a list. -/
def WellFormedItems : List Value → Prop
  | [] => True
  | v :: vs => WellFormed v ∧ WellFormedItems vs

/-- The same for the values of all entries of a document. -/
def WellFormedEntries : List (String × Value) → Prop
  | [] => True
  | (_, v) :: m => WellFormed v ∧ WellFormedEntries m

end

end Value

end Dynamo
