import Dynamo.Json.Token

/-! # Reading JSON

A text is read from left to right, with a stack of the arrays and objects that are open. Arrays and
objects inside too many others are illegible.

Where a text stops being JSON, reading stops too, and gives what was read so far: something
illegible stands where a value had to come. So whoever looks at the value finds the first fault of
the text, be it one of form or one of content.

* `Json.reading` reads a text as far as it goes.
* `Json.ofBytes?` is the value of a text that is JSON to its end. -/

namespace Dynamo.Json

/-- An array or object that is open, with what it holds so far in reverse. The name of a member is
missing if it is illegible. -/
inductive Frame where
  | items (before : List Json)
  | members (before : List (Option String × Json)) (name : Option String)

/-- What may come next. -/
inductive Focus where
  | value
  | itemOrEnd
  | nameOrEnd
  | name
  | colon
  | separator
  | finished (j : Json)

/-- The open arrays and objects, the innermost first, and what may come next. -/
structure Reader where
  stack : List Frame
  focus : Focus

namespace Reader

/-- Puts a complete value where it belongs. -/
def put (j : Json) : List Frame → Reader
  | [] => ⟨[], .finished j⟩
  | .items before :: fs => ⟨.items (j :: before) :: fs, .separator⟩
  | .members before name :: fs => ⟨.members ((name, j) :: before) none :: fs, .separator⟩

/-- An array or object inside the given others, if it is not nested too deeply. No more of them are
counted than it takes to know that. -/
def within (depth : Nat) (j : Json) (fs : List Frame) : Json :=
  if (fs.take depth).length < depth then j else .illegible

/-- Puts a complete array or object where it belongs. -/
def close (depth : Nat) (j : Json) (fs : List Frame) : Reader := put (within depth j fs) fs

/-- The object with these members, given in reverse. -/
def objectOf (before : List (Option String × Json)) : Json :=
  match before.reverse.mapM fun m => m.1.map (·, m.2) with
  | some members => .obj members
  | none => .illegible

/-- The beginning of a value. -/
def begin? (fs : List Frame) : Token → Option Reader
  | .beginObject => some ⟨.members [] none :: fs, .nameOrEnd⟩
  | .beginArray => some ⟨.items [] :: fs, .itemOrEnd⟩
  | .text (some s) => some (put (.str s) fs)
  | .text none => some (put .illegible fs)
  | .scalar j => some (put j fs)
  | _ => none

/-- **Reads one token.** -/
def step? (depth : Nat) (r : Reader) (t : Token) : Option Reader :=
  match r.focus, r.stack, t with
  | .itemOrEnd, .items before :: fs, .endArray => some (close depth (.arr before.reverse) fs)
  | .value, fs, t => begin? fs t
  | .itemOrEnd, fs, t => begin? fs t
  | .nameOrEnd, .members before _ :: fs, .endObject => some (close depth (objectOf before) fs)
  | .nameOrEnd, .members before _ :: fs, .text s => some ⟨.members before s :: fs, .colon⟩
  | .name, .members before _ :: fs, .text s => some ⟨.members before s :: fs, .colon⟩
  | .colon, fs, .colon => some ⟨fs, .value⟩
  | .separator, .items before :: fs, .comma => some ⟨.items before :: fs, .value⟩
  | .separator, .items before :: fs, .endArray => some (close depth (.arr before.reverse) fs)
  | .separator, .members before name :: fs, .comma => some ⟨.members before name :: fs, .name⟩
  | .separator, .members before _ :: fs, .endObject => some (close depth (objectOf before) fs)
  | _, _, _ => none

/-- Reads tokens as far as possible. -/
def feed (depth : Nat) (r : Reader) : List Token → Reader × Bool
  | [] => (r, true)
  | t :: ts =>
    match r.step? depth t with
    | none => (r, false)
    | some r => feed depth r ts

/-- Closes what is open, with a last value in the innermost array or object. -/
def closeAll (depth : Nat) : Option Json → List Frame → Json
  | j, [] => j.getD .illegible
  | j, .items before :: fs =>
    closeAll depth (some (within depth (.arr (before.reverse ++ j.toList)) fs)) fs
  | j, .members before name :: fs =>
    let before := match j with
      | some j => (name, j) :: before
      | none => before
    closeAll depth (some (within depth (objectOf before) fs)) fs

/-- The value of a text that stops here. -/
def stop (depth : Nat) (r : Reader) : Json :=
  match r.focus with
  | .finished j => j
  | .value | .itemOrEnd | .colon => closeAll depth (some .illegible) r.stack
  | .nameOrEnd => closeAll depth (some .illegible) r.stack.tail
  | .name | .separator => closeAll depth none r.stack

end Reader

/-- What reading a text gave. -/
structure Reading where
  value : Json
  /-- Is the text JSON to its end? -/
  complete : Bool

/-- Reads the bytes that follow. -/
def readFrom (depth : Nat) (e : Ending) (r : Reader) (bs : Bytes) : Reading :=
  match r.focus, bs with
  | .finished j, bs => ⟨j, e.isComplete && bs.all isSpace⟩
  | _, [] =>
    let r := (r.feed depth e.finish.1).1
    match r.focus with
    | .finished j => ⟨j, true⟩
    | _ => ⟨r.stop depth, false⟩
  | _, b :: bs =>
    let (ts, e') := e.step b
    match r.feed depth ts, e' with
    | (r, true), some e' => readFrom depth e' r bs
    | (r, _), _ => ⟨r.stop depth, false⟩

/-- **Reads a text as far as it is JSON**, and arrays and objects up to the given depth. -/
def reading (depth : Nat) (bs : Bytes) : Reading := readFrom depth .complete ⟨[], .value⟩ bs

/-- How deeply arrays and objects may be nested in a text from the service. -/
def maxDepth : Nat := 127

/-- The value of a text that is JSON to its end. -/
def ofBytes? (bs : Bytes) : Option Json :=
  let r := reading maxDepth bs
  if r.complete then some r.value else none

/-- The value of a text. -/
def ofString? (s : String) : Option Json := ofBytes? (Bytes.ofString s)

end Dynamo.Json
