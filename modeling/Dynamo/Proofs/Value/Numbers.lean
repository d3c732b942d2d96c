import Dynamo.Proofs.Decimal.Printed
import Dynamo.Proofs.Json.Normal
import Dynamo.Proofs.Wire.Reencoding
import Dynamo.Value.Plain

/-! # How numbers are made

Numbers are read from texts, printed from integers and binary numbers, and taken over from typed and
from plain JSON. Only texts that are read are looked at; that the others are decimal texts too is a
matter of how they are printed.

* `Value.numbersFrom_ofJson`: the numbers of a value of plain JSON are those of the JSON value.
* `Number.texts_decimal`: whichever way a number is made, its text is a decimal text. -/

namespace Dynamo

open Decimal Dynamo.Except

theorem Number.ofString?_eq_error {s : String} :
    ofString? s = .error (.invalid s) ↔ ¬ IsText s.toList := by
  rw [← Literal.isSome_ofChars?_iff]
  unfold ofString?
  split_ifs with h
  · exact iff_of_false (by simp) (not_not_intro h)
  · exact iff_of_true rfl h

/-! ### Binary numbers -/

/-- **Binary numbers are written without an exponent**, if they are finite. -/
theorem Number.ofParts?_cases (p : Parts) :
    (p.IsFinite ∧ ∃ n, ofParts? p = .ok n ∧ IsFixed n.text.toList) ∨
      (¬ p.IsFinite ∧ ∃ text, ofParts? p = .error (.nonFinite text)) := by
  cases p with
  | finite negative m q narrow =>
    refine .inl ⟨⟨negative, m, q, narrow, rfl⟩, _, rfl, ?_⟩
    rw [ofDecimalChars, String.toList_ofList]
    exact isFixed_signed (fixed_positional _) negative
  | infinite negative => exact .inr ⟨nofun, _, rfl⟩
  | nan => exact .inr ⟨nofun, _, rfl⟩

/-! ### Plain JSON -/

theorem Value.ofJson_num {k : JsonNumber} (h : IsText k.chars) :
    ∃ n, ofJson (.num k) = .ok (.number n) ∧ n.text = k.text := by
  have htext : IsText k.text.toList := by
    rw [JsonNumber.text, String.toList_ofList]
    exact h
  obtain ⟨n, hn⟩ := Number.exists_ofString?_iff.mpr htext
  refine ⟨n, ?_, (Number.ofString?_eq_ok.mp hn).symm⟩
  rw [ofJson, hn]
  rfl

namespace Value

theorem ofJson_arr {js : List Json} {v : Value} :
    ofJson (.arr js) = .ok v ↔
      ∃ vs, List.Forall₂ (fun j v => ofJson j = .ok v) js vs ∧ .list vs = v := by
  have hmapM : itemsOfJson js = js.mapM ofJson := by
    induction js with
    | nil => rfl
    | cons j js ih => rw [itemsOfJson, ih, List.mapM_cons]
  rw [ofJson, map_eq_ok, hmapM]
  simp only [mapM_eq_ok]

theorem entriesOfJson_eq_mapM (ms : List (String × Json)) :
    entriesOfJson ms = ms.mapM fun e => do return (e.1, ← ofJson e.2) := by
  induction ms with
  | nil => rfl
  | cons e ms ih =>
    rw [entriesOfJson, ih, List.mapM_cons]
    cases ofJson e.2 <;> rfl

theorem ofJson_obj {ms : List (String × Json)} {v : Value} :
    ofJson (.obj ms) = .ok v ↔
      ∃ m, List.Forall₂ (fun e f => e.1 = f.1 ∧ ofJson e.2 = .ok f.2) ms m ∧
        .document (Entries.ofList m) = v := by
  rw [ofJson, map_eq_ok, entriesOfJson_eq_mapM]
  simp only [mapM_entries_eq_ok]

/-- All numbers of the value, at any depth, are written as numbers of the JSON value. -/
def NumbersFrom (j : Json) (v : Value) : Prop :=
  ∀ x, Within x v → ∀ text ∈ x.written.numerals, ∃ k, Json.Within (.num k) j ∧ k.text = text

theorem numbersFrom_leaf {j : Json} {v : Value} (hv : ∀ x, Within x v → x = v)
    (hnone : v.written.numerals = []) : NumbersFrom j v := by
  intro x hx text htext
  rw [hv x hx, hnone] at htext
  exact absurd htext List.not_mem_nil

theorem numbersFrom_ofJson {j : Json} {v : Value} (h : ofJson j = .ok v) : NumbersFrom j v := by
  induction j using Json.ind generalizing v with
  | null | bool b | str s =>
    obtain rfl := Except.ok.inj h
    exact numbersFrom_leaf (by rintro x ⟨⟩; rfl) rfl
  | num k =>
    obtain ⟨n, hn, rfl⟩ := map_eq_ok.mp (mapError_eq_ok.mp h)
    rintro x ⟨⟩ text htext
    obtain rfl := List.mem_singleton.mp htext
    exact ⟨k, .self, Number.ofString?_eq_ok.mp hn⟩
  | arr items ih =>
    obtain ⟨vs, hvs, rfl⟩ := ofJson_arr.mp h
    rintro x (_ | ⟨hmem, hx⟩) text htext
    · exact absurd htext List.not_mem_nil
    · obtain ⟨j, hj, hjv⟩ := exists_of_forall₂_right hvs hmem
      obtain ⟨k, hk, htext⟩ := ih j hj hjv x hx text htext
      exact ⟨k, .item hj hk, htext⟩
  | obj members ih =>
    obtain ⟨m, hm, rfl⟩ := ofJson_obj.mp h
    rintro x (_ | _ | ⟨hmem, hx⟩) text htext
    · exact absurd htext List.not_mem_nil
    · obtain ⟨e, he, -, hev⟩ := exists_of_forall₂_right hm (Entries.mem_of_mem_ofList hmem)
      obtain ⟨k, hk, htext⟩ := ih e he hev x hx text htext
      exact ⟨k, .member he hk, htext⟩
  | illegible => cases h

end Value

/-! ### All numbers -/

/-- **The texts of numbers are the decimal texts.** A text is read as a number if and only if it is a
decimal text, and kept as it is. Integers are printed as such texts; so are finite binary numbers,
without an exponent, and no others. A typed value is read if and only if all its numbers are decimal
texts, and they are kept; and of a value of plain JSON, each number has the text of a number of the
JSON value, where all that can be are decimal texts. -/
theorem Number.texts_decimal :
    (∀ s, (∀ n, ofString? s = .ok n ↔ s = n.text) ∧
      ((∃ n, ofString? s = .ok n) ↔ IsText s.toList) ∧
      (ofString? s = .error (.invalid s) ↔ ¬ IsText s.toList)) ∧
    (∀ i, IsInteger (ofInt i).text.toList) ∧
    (∀ x : Double, (x.parts.IsFinite ∧ ∃ n, ofDouble? x = .ok n ∧ IsFixed n.text.toList) ∨
      (¬ x.parts.IsFinite ∧ ∃ text, ofDouble? x = .error (.nonFinite text))) ∧
    (∀ x : Single, (x.parts.IsFinite ∧ ∃ n, ofSingle? x = .ok n ∧ IsFixed n.text.toList) ∨
      (¬ x.parts.IsFinite ∧ ∃ text, ofSingle? x = .error (.nonFinite text))) ∧
    (∀ cs, IsInteger cs ∨ IsFixed cs → IsText cs) ∧
    (∀ w : WireValue, ((∃ v, Value.ofWire w = .ok v) ↔
        ∀ u, WireValue.Within u w → ∀ text ∈ u.numerals, IsText text.toList) ∧
      ∀ v, Value.ofWire w = .ok v → w = v.written) ∧
    (∀ k : JsonNumber, k.IsFinite → IsText k.text.toList ∧
      ∃ n, Value.ofJson (.num k) = .ok (.number n) ∧ n.text = k.text) ∧
    ∀ j v, Value.ofJson j = .ok v → ∀ x, Value.Within x v → ∀ text ∈ x.written.numerals,
      ∃ k, Json.Within (.num k) j ∧ k.text = text := by
  refine ⟨fun s => ⟨fun n => ofString?_eq_ok, exists_ofString?_iff, ofString?_eq_error⟩,
    fun i => ?_, fun x => ofParts?_cases x.parts, fun x => ofParts?_cases x.parts, ?_,
    fun w => ⟨WireValue.exists_ofWire_iff, fun v => Value.ofWire_eq_ok_iff.mp⟩,
    fun k hk => ?_, fun j v h => Value.numbersFrom_ofJson h⟩
  · rw [ofInt, ofDecimalChars, String.toList_ofList]
    exact isInteger_intText i
  · rintro cs (h | h)
    · exact h.isFixed.isText
    · exact h.isText
  · have htext := JsonNumber.isText_chars hk
    refine ⟨?_, Value.ofJson_num htext⟩
    rw [JsonNumber.text, String.toList_ofList]
    exact htext

end Dynamo
