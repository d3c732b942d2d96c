import Dynamo.Proofs.Dict
import Dynamo.Table.Definition
import Mathlib.Data.List.Nodup

/-! # The attributes that a definition declares

A table is defined by a chain of settings, each of which mentions an attribute with a type. An
attribute may be mentioned again, also with another type, and for the key or not. It is declared once,
at the place of its first mention and with the type it had there; the key has what the settings of the
key say, one after the other.

* `TableDefinition.Describes`: the invariant, kept by each setting (`Describes.set`) and so by each
  chain (`describes_chain`).
* `TableDefinition.chain_declares`: what a chain declares. -/

namespace Dynamo

/-- **A setting in the definition of a table**: an attribute of its key, or one that only indexes
need. -/
inductive TableSetting where
  | hashKey (name : String) (type : AttributeType)
  | rangeKey (name : String) (type : AttributeType)
  | declare (name : String) (type : AttributeType)
  deriving DecidableEq

namespace TableSetting

/-- The attribute that the setting mentions, with its type. -/
def mentioned : TableSetting → AttributeDefinition
  | .hashKey name type | .rangeKey name type | .declare name type => ⟨name, type⟩

/-- The name that the setting mentions. -/
def name (s : TableSetting) : String := s.mentioned.attributeName

/-- The part of the key that the setting adds, if it adds one. -/
def keyElement? : TableSetting → Option KeySchemaElement
  | .hashKey name _ => some ⟨name, .hash⟩
  | .rangeKey name _ => some ⟨name, .range⟩
  | .declare _ _ => none

theorem attributeName_of_keyElement? {s : TableSetting} {e : KeySchemaElement}
    (h : s.keyElement? = some e) : e.attributeName = s.name := by
  cases s with
  | hashKey name type | rangeKey name type =>
    obtain rfl := Option.some.inj h
    rfl
  | declare name type => exact absurd h nofun

end TableSetting

namespace TableDefinition

/-- The names of the declared attributes. -/
def attributeNames (d : TableDefinition) : List String :=
  d.attributeDefinitions.map (·.attributeName)

/-- The definition with one more setting. -/
def set (d : TableDefinition) : TableSetting → TableDefinition
  | .hashKey name type => d.hashKey name type
  | .rangeKey name type => d.rangeKey name type
  | .declare name type => d.declare name type

/-- **The definition that a chain of settings makes** of one without a key. -/
def chain (tableName : String) (settings : List TableSetting) : TableDefinition :=
  settings.foldl set (new tableName)

theorem chain_concat (tableName : String) (settings : List TableSetting) (s : TableSetting) :
    chain tableName (settings ++ [s]) = (chain tableName settings).set s :=
  List.foldl_concat set (new tableName) s settings

/-! ### One setting -/

theorem declares_iff {d : TableDefinition} {name : String} :
    d.declares name = true ↔ name ∈ d.attributeNames := by
  rw [declares, List.any_eq_true, attributeNames, List.mem_map]
  simp only [decide_eq_true_eq]

theorem declare_eq (d : TableDefinition) (name : String) (type : AttributeType) :
    d.declare name type = { d with
      attributeDefinitions :=
        if name ∈ d.attributeNames then d.attributeDefinitions
        else d.attributeDefinitions ++ [⟨name, type⟩] } := by
  simp only [declare, declares_iff]
  split_ifs
  · rfl
  · rfl

/-- **What a setting changes**: it declares the attribute that it mentions, unless the name is
declared, and comes last in the key if it belongs there. -/
theorem set_eq (d : TableDefinition) (s : TableSetting) :
    d.set s = { d with
      attributeDefinitions :=
        if s.name ∈ d.attributeNames then d.attributeDefinitions
        else d.attributeDefinitions ++ [s.mentioned]
      keySchema := d.keySchema ++ s.keyElement?.toList } := by
  cases s with
  | hashKey name type =>
    rw [set, hashKey, key, declare_eq]
    rfl
  | rangeKey name type =>
    rw [set, rangeKey, key, declare_eq]
    rfl
  | declare name type =>
    rw [set, declare_eq, TableSetting.keyElement?, Option.toList_none, List.append_nil]
    rfl

/-! ### The invariant of chains -/

/-- **What a definition has of the settings that made it**: each name once, in the order of first
mention, with the type that it was first mentioned with, and of the key what they add to it. -/
structure Describes (tableName : String) (settings : List TableSetting) (d : TableDefinition) :
    Prop where
  names : d.attributeNames = (settings.map TableSetting.name).eraseDups
  first : ∀ a ∈ d.attributeDefinitions,
    (settings.map TableSetting.mentioned).find? (·.attributeName = a.attributeName) = some a
  keySchema : d.keySchema = settings.filterMap TableSetting.keyElement?
  rest : d = { new tableName with
    attributeDefinitions := d.attributeDefinitions, keySchema := d.keySchema }

theorem describes_new (tableName : String) : (new tableName).Describes tableName [] :=
  ⟨rfl, fun _ ha => absurd ha List.not_mem_nil, rfl, rfl⟩

section Describes

variable {tableName : String} {settings : List TableSetting} {d : TableDefinition}
  (h : d.Describes tableName settings)
include h

theorem Describes.mem_attributeNames {name : String} :
    name ∈ d.attributeNames ↔ ∃ s ∈ settings, s.name = name := by
  rw [h.names, List.mem_eraseDups, List.mem_map]

/-- What is declared stays the first mention of its name; what is not declared was not mentioned. -/
theorem Describes.first_concat (s : TableSetting) {a : AttributeDefinition}
    (ha : a ∈ d.attributeDefinitions ∨ s.name ∉ d.attributeNames ∧ a = s.mentioned) :
    ((settings ++ [s]).map TableSetting.mentioned).find? (·.attributeName = a.attributeName) =
      some a := by
  rw [List.map_append, List.find?_append]
  rcases ha with ha | ⟨hnew, rfl⟩
  · rw [h.first a ha, Option.some_or]
  · have hnone : (settings.map TableSetting.mentioned).find?
        (·.attributeName = s.mentioned.attributeName) = none := by
      refine List.find?_eq_none.mpr fun b hb heq => hnew ?_
      obtain ⟨t, ht, rfl⟩ := List.mem_map.mp hb
      exact h.mem_attributeNames.mpr ⟨t, ht, of_decide_eq_true heq⟩
    rw [hnone, Option.none_or, List.map_singleton, List.find?_singleton,
      if_pos (decide_eq_true rfl)]

/-- **Each setting keeps the invariant.** -/
theorem Describes.set (s : TableSetting) : (d.set s).Describes tableName (settings ++ [s]) := by
  have hmentioned : s.name ∈ settings.map TableSetting.name ↔ s.name ∈ d.attributeNames := by
    rw [h.names, List.mem_eraseDups]
  rw [set_eq]
  refine ⟨?_, fun a ha => h.first_concat s ?_, ?_, ?_⟩
  · rw [List.map_append, List.map_singleton, eraseDups_concat, ← h.names, attributeNames]
    simp only [hmentioned]
    split_ifs
    · rfl
    · exact List.map_append
  · dsimp only at ha
    split_ifs at ha with hdeclared
    · exact .inl ha
    · rcases List.mem_append.mp ha with ha | ha
      · exact .inl ha
      · exact .inr ⟨hdeclared, List.mem_singleton.mp ha⟩
  · rw [h.keySchema, filterMap_concat]
  · rw [h.rest]

end Describes

/-- A chain keeps the invariant. -/
theorem describes_chain (tableName : String) (settings : List TableSetting) :
    (chain tableName settings).Describes tableName settings := by
  induction settings using List.reverseRecOn with
  | nil => exact describes_new tableName
  | append_singleton settings s ih =>
    rw [chain_concat]
    exact ih.set s

/-! ### What chains declare -/

/-- **What a chain of settings declares.** The names of the declared attributes are those that the
settings mention, each once and in the order of first mention, and each has the type that it was first
mentioned with. The key has what the settings add to it, one after the other, and each of its
attributes is declared exactly once. All else is as in a definition without settings. -/
theorem chain_declares (tableName : String) (settings : List TableSetting) :
    let d := chain tableName settings
    (d.attributeDefinitions.map (·.attributeName)).Nodup ∧
    d.attributeDefinitions.map (·.attributeName) = (settings.map TableSetting.name).eraseDups ∧
    (∀ a ∈ d.attributeDefinitions,
      (settings.map TableSetting.mentioned).find? (·.attributeName = a.attributeName) = some a) ∧
    d.keySchema = settings.filterMap TableSetting.keyElement? ∧
    (∀ e ∈ d.keySchema,
      d.attributeDefinitions.countP (·.attributeName = e.attributeName) = 1) ∧
    d = { new tableName with
      attributeDefinitions := d.attributeDefinitions, keySchema := d.keySchema } := by
  intro d
  have h : d.Describes tableName settings := describes_chain tableName settings
  have hnodup : d.attributeNames.Nodup := h.names ▸ nodup_eraseDups _
  refine ⟨hnodup, h.names, h.first, h.keySchema, fun e he => ?_, h.rest⟩
  rw [h.keySchema] at he
  obtain ⟨s, hs, hkey⟩ := List.mem_filterMap.mp he
  have hmem : e.attributeName ∈ d.attributeNames :=
    h.mem_attributeNames.mpr ⟨s, hs, (TableSetting.attributeName_of_keyElement? hkey).symm⟩
  have hcount : d.attributeNames.count e.attributeName = 1 :=
    List.count_eq_one_of_mem hnodup hmem
  rwa [attributeNames, List.count_eq_countP, List.countP_map] at hcount

/-- A type that is given at a later mention does not count. -/
example :
    (chain "t" [.declare "b" .number, .hashKey "a" .binary, .rangeKey "b" .string]).attributeDefinitions =
      [⟨"b", .number⟩, ⟨"a", .binary⟩] := by decide

end TableDefinition

end Dynamo
