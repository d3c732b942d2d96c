import Dynamo.Proofs.Text.Utf8
import Dynamo.Signing.Headers
import Mathlib

/-! # What headers hold

Removing, adding and setting headers, said of the values of a name. The name of a header is a token in
lower case (`Headers.Named`); a value is signed only if it is one line (`Headers.newline_notMem`), and
printable characters may stand in every value (`Headers.value?_of_printable`). -/

namespace Dynamo.Headers

/-! ### Names -/

/-- May the character stand in the name of a header? -/
def isNameChar (c : Char) : Bool :=
  let n := c.toNat
  n = 33 || (35 ≤ n && n ≤ 39) || n = 42 || n = 43 || n = 45 || n = 46 || (48 ≤ n && n ≤ 57) ||
    (94 ≤ n && n ≤ 122) || n = 124 || n = 126

/-- **The names of the headers are tokens**, in lower case, as the names of all headers are. -/
def Named (hs : Headers) : Prop := ∀ h ∈ hs, h.1 ≠ "" ∧ ∀ c ∈ h.1.toList, isNameChar c = true

instance (hs : Headers) : Decidable hs.Named :=
  decidable_of_iff (hs.all fun h => h.1 ≠ "" && h.1.toList.all isNameChar) (by simp [Named])

theorem ne_of_isNameChar {c d : Char} (hc : isNameChar c = true) (hd : isNameChar d = false) :
    c ≠ d := by
  rintro rfl
  rw [hc] at hd
  exact absurd hd nofun

theorem toLower_of_isNameChar {c : Char} (h : isNameChar c = true) : c.toLower = c := by
  have hupper : c.isUpper = false := by
    rw [Bool.eq_false_iff]
    intro hup
    have hle : 65 ≤ c.toNat ∧ c.toNat ≤ 90 := by
      simpa [Char.isUpper, UInt32.le_iff_toNat_le] using hup
    simp only [isNameChar, Bool.or_eq_true, Bool.and_eq_true, decide_eq_true_eq] at h
    omega
  unfold Char.isUpper at hupper
  unfold Char.toLower
  rw [dif_neg (by simpa using hupper)]

theorem lowerAscii_of_named {s : String} (h : ∀ c ∈ s.toList, isNameChar c = true) :
    lowerAscii s = s := by
  have hmap : s.toList.map Char.toLower = s.toList :=
    (List.map_congr_left fun c hc => toLower_of_isNameChar (h c hc)).trans (List.map_id _)
  rw [lowerAscii, hmap, String.ofList_toList]

/-- Each name stands among the names once, whatever stood there before. -/
theorem nodup_fold_names (hs : Headers) {ns : List String} (h : ns.Nodup) :
    (hs.foldl (fun ns h => if ns.contains h.1 then ns else ns ++ [h.1]) ns).Nodup ∧
      ∀ n, n ∈ hs.foldl (fun ns h => if ns.contains h.1 then ns else ns ++ [h.1]) ns ↔
        n ∈ ns ∨ ∃ h ∈ hs, h.1 = n := by
  induction hs generalizing ns with
  | nil => exact ⟨h, fun n => by simp⟩
  | cons e hs ih =>
    rw [List.foldl_cons]
    by_cases hmem : e.1 ∈ ns
    · rw [if_pos (by simpa using hmem)]
      refine ⟨(ih h).1, fun n => ((ih h).2 n).trans ?_⟩
      constructor
      · rintro (hn | ⟨f, hf, rfl⟩)
        · exact .inl hn
        · exact .inr ⟨f, List.mem_cons_of_mem _ hf, rfl⟩
      · rintro (hn | ⟨f, hf, rfl⟩)
        · exact .inl hn
        · rcases List.mem_cons.mp hf with rfl | hf
          · exact .inl hmem
          · exact .inr ⟨f, hf, rfl⟩
    · rw [if_neg (by simpa using hmem)]
      have hns : (ns ++ [e.1]).Nodup := by
        rw [List.nodup_append]
        refine ⟨h, List.nodup_singleton _, fun a ha b hb => ?_⟩
        rw [List.mem_singleton.mp hb]
        exact fun heq => hmem (heq ▸ ha)
      refine ⟨(ih hns).1, fun n => ((ih hns).2 n).trans ?_⟩
      rw [List.mem_append, List.mem_singleton, List.exists_mem_cons_iff, or_assoc,
        @eq_comm _ n e.1]

theorem nodup_names (hs : Headers) : hs.names.Nodup := (nodup_fold_names hs List.nodup_nil).1

theorem mem_names {hs : Headers} {n : String} : n ∈ hs.names ↔ ∃ h ∈ hs, h.1 = n := by
  rw [names, (nodup_fold_names hs List.nodup_nil).2]
  simp

theorem Named.of_mem_names {hs : Headers} (hn : hs.Named) {n : String} (h : n ∈ hs.names) :
    n ≠ "" ∧ ∀ c ∈ n.toList, isNameChar c = true := by
  obtain ⟨e, he, rfl⟩ := mem_names.mp h
  exact hn e he

/-! ### The values of a name -/

/-- The values of all headers with the name, in their order. -/
def valuesOf (name : String) (hs : Headers) : List Bytes :=
  (hs.filter fun h => h.1 = name).map (·.2)

theorem valuesOf_append (name : String) (hs hs' : Headers) :
    valuesOf name (hs ++ hs') = valuesOf name hs ++ valuesOf name hs' := by
  rw [valuesOf, List.filter_append, List.map_append]
  rfl

theorem first?_eq_head? (name : String) (hs : Headers) :
    hs.first? name = (hs.valuesOf (lowerAscii name)).head? := by
  unfold first? valuesOf
  induction hs with
  | nil => rfl
  | cons h hs ih =>
    obtain ⟨k, v⟩ := h
    rw [List.lookup_cons, List.filter_cons]
    by_cases hk : k = lowerAscii name
    · simp [hk]
    · have hbeq : (lowerAscii name == k) = false := by simpa using Ne.symm hk
      simpa [hk, hbeq] using ih

theorem valuesOf_remove_self (name : String) (hs : Headers) :
    (hs.remove name).valuesOf (lowerAscii name) = [] := by
  rw [valuesOf, List.map_eq_nil_iff, remove, List.filter_filter, List.filter_eq_nil_iff]
  simp

theorem valuesOf_remove_of_ne {name n : String} (hne : n ≠ lowerAscii name) (hs : Headers) :
    (hs.remove name).valuesOf n = hs.valuesOf n := by
  rw [valuesOf, valuesOf, remove, List.filter_filter]
  congr 1
  refine List.filter_congr fun e _ => ?_
  by_cases he : e.1 = n
  · simp [he, hne]
  · simp [he]

theorem valuesOf_insert_self (name : String) (value : Bytes) (hs : Headers) :
    (hs.insert name value).valuesOf (lowerAscii name) = [value] := by
  rw [insert, append, valuesOf_append, valuesOf_remove_self]
  simp [valuesOf]

theorem valuesOf_insert_of_ne {name n : String} (hne : n ≠ lowerAscii name) (value : Bytes)
    (hs : Headers) : (hs.insert name value).valuesOf n = hs.valuesOf n := by
  rw [insert, append, valuesOf_append, valuesOf_remove_of_ne hne]
  simp [valuesOf, Ne.symm hne]

/-! ### Headers without a name -/

theorem mem_map_remove {name n : String} {hs : Headers} :
    n ∈ (hs.remove name).map (·.1) ↔ n ≠ lowerAscii name ∧ n ∈ hs.map (·.1) := by
  simp only [remove, List.mem_map, List.mem_filter, decide_eq_true_eq]
  constructor
  · rintro ⟨e, ⟨he, hne⟩, rfl⟩
    exact ⟨hne, e, he, rfl⟩
  · rintro ⟨hne, e, he, rfl⟩
    exact ⟨e, ⟨he, hne⟩, rfl⟩

theorem remove_remove (name : String) (hs : Headers) :
    (hs.remove name).remove name = hs.remove name := by
  rw [remove, remove, List.filter_filter]
  simp

theorem remove_insert_self (name : String) (value : Bytes) (hs : Headers) :
    (hs.insert name value).remove name = hs.remove name := by
  have hlast : remove name [(lowerAscii name, value)] = [] := by simp [remove]
  rw [insert, append, remove, List.filter_append, ← remove, ← remove, hlast, List.append_nil,
    remove_remove]

theorem remove_insert_of_ne {name other : String} (hne : lowerAscii name ≠ lowerAscii other)
    (value : Bytes) (hs : Headers) :
    (hs.insert other value).remove name = (hs.remove name).insert other value := by
  have hlast : remove name [(lowerAscii other, value)] = [(lowerAscii other, value)] := by
    simp [remove, Ne.symm hne]
  have hcomm : (hs.remove other).remove name = (hs.remove name).remove other := by
    rw [remove, remove, remove, remove, List.filter_filter, List.filter_filter]
    exact List.filter_congr fun e _ => Bool.and_comm _ _
  rw [insert, insert, append, append, remove, List.filter_append, ← remove, ← remove, hlast, hcomm]

theorem Named.remove {hs : Headers} (hn : hs.Named) (name : String) : (hs.remove name).Named :=
  fun e he => hn e (List.mem_of_mem_filter he)

theorem Named.insert {hs : Headers} (hn : hs.Named) {name : String} (value : Bytes)
    (hname : lowerAscii name ≠ "" ∧ ∀ c ∈ (lowerAscii name).toList, isNameChar c = true) :
    (hs.insert name value).Named := by
  intro e he
  rcases List.mem_append.mp he with he | he
  · exact hn.remove name e he
  · rw [List.mem_singleton.mp he]
    exact hname

/-! ### Values that are signed -/

theorem newline_notMem {value : Bytes} {text : String} (h : visibleText? value = some text) :
    '\n' ∉ text.toList := by
  intro hmem
  unfold visibleText? at h
  split at h
  · next hvisible =>
    have hbyte : (10 : UInt8) ∈ Bytes.ofString text :=
      Bytes.mem_ofString_of_mem hmem (by decide)
    rw [Bytes.ofString_of_text? h] at hbyte
    exact absurd (List.all_eq_true.mp hvisible 10 hbyte) (by decide)
  · exact absurd h nofun

/-- A printable character of ASCII. -/
def Printable (c : Char) : Prop := 32 ≤ c.toNat ∧ c.toNat < 127

instance (c : Char) : Decidable (Printable c) := by
  unfold Printable
  infer_instance

theorem printable_of_isNameChar {c : Char} (h : isNameChar c = true) : Printable c := by
  simp only [isNameChar, Bool.or_eq_true, Bool.and_eq_true, decide_eq_true_eq] at h
  unfold Printable
  omega

theorem printable_of_isDigit {c : Char} (h : c.isDigit = true) : Printable c := by
  have hdigit : 48 ≤ c.toNat ∧ c.toNat ≤ 57 := by
    simpa [Char.isDigit, UInt32.le_iff_toNat_le] using h
  unfold Printable
  omega

theorem value?_of_printable {s : String} (h : ∀ c ∈ s.toList, Printable c) :
    value? s = some (.ofString s) := by
  have hall : (Bytes.ofString s).all isAllowed = true := by
    rw [List.all_eq_true, Bytes.ofString_eq_flatMap]
    intro b hb
    obtain ⟨c, hc, hb⟩ := List.mem_flatMap.mp hb
    obtain ⟨hlow, hhigh⟩ := h c hc
    have hbyte : b = UInt8.ofNat c.toNat := by
      unfold String.utf8EncodeChar at hb
      rw [if_pos (show c.val.toNat ≤ 127 from Nat.le_of_lt hhigh)] at hb
      exact List.mem_singleton.mp hb
    have hnat : b.toNat = c.toNat := by
      rw [hbyte, UInt8.toNat_ofNat']
      omega
    have hge : 32 ≤ b := by
      rw [UInt8.le_iff_toNat_le, hnat]
      exact hlow
    have hne : b ≠ 127 := by
      rintro rfl
      exact absurd hnat (Nat.ne_of_gt hhigh)
    simp [isAllowed, hge, hne]
  rw [value?]
  exact if_pos hall

end Dynamo.Headers
