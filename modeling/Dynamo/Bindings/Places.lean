import Dynamo.Bindings

/-! # Where bindings are kept

Bindings made from others share with them each dictionary that no parameter of theirs changed. Each
of the two dictionaries has a place, a number; binding gives a new place to those it changes.
Bindings share a dictionary if and only if its places are equal, as long as each step brings a new
place. -/

namespace Dynamo

/-- The places of the values and of the names. -/
structure Places where
  values : Nat
  names : Nat
  deriving DecidableEq, Repr, Inhabited

namespace Places

/-- The places of new bindings. -/
def new (place : Nat) : Places := ⟨place, place⟩

/-- The places after parameters were bound, with a place for what they changed. -/
def bind (place : Nat) (params : List Param) (p : Places) : Places :=
  { values := if params.any (!·.isName) then place else p.values
    names := if params.any Param.isName then place else p.names }

end Places

/-- **Bindings and their places.** -/
structure KeptBindings where
  bindings : Bindings
  places : Places

namespace KeptBindings

/-- New bindings. -/
def new (place : Nat) : KeptBindings := ⟨.empty, .new place⟩

/-- The bindings with more parameters, in a new place. -/
def bind (place : Nat) (params : List Param) (k : KeptBindings) :
    Except ParamError KeptBindings := do
  return ⟨← k.bindings.bind params, k.places.bind place params⟩

end KeptBindings

/-- Bindings that were made from one another, the first of them empty. The place of each is its
position. -/
abbrev Family := List KeptBindings

namespace Family

/-- The family of empty bindings. -/
def root : Family := [.new 0]

/-- The family with one more member, made by binding parameters to the member at a position. -/
def bind (origin : Nat) (params : List Param) (family : Family) : Except ParamError Family := do
  match family[origin]? with
  | some k => return family ++ [← k.bind family.length params]
  | none => return family

end Family

end Dynamo
