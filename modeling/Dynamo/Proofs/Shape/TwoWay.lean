import Dynamo.Catalogue
import Dynamo.Proofs.Shape.ReadBack

/-! # Messages that go both ways

Responses, entries of batches, and descriptions of tables and streams are written as well as read.
Which members are left out in writing, and what stands for a member that is missing, is said of each
of them on its own; that they fit together is one theorem for each type (`carries`), from the smallest
to whole responses. In each of them `decide` says that no later member has the name of a member.

* `TwoWay.all`: the types, with what their messages hold.
* `TwoWay.reads_back`: all of them are read back. -/

namespace Dynamo

open Dynamo.Except

/-! ### Tables -/

theorem KeyType.carries (t : KeyType) : shape.Carries t t :=
  Shape.carries_choice (by cases t <;> rfl)

theorem AttributeType.carries (t : AttributeType) : shape.Carries t t :=
  Shape.carries_choice (by cases t <;> rfl)

theorem ProjectionType.carries (t : ProjectionType) : shape.Carries t t :=
  Shape.carries_choice (by cases t <;> rfl)

theorem StreamViewType.carries (t : StreamViewType) : shape.Carries t t :=
  Shape.carries_choice (by cases t <;> rfl)

theorem KeySchemaElement.carries (e : KeySchemaElement) : shape.Carries e e := by
  refine Shape.carries_record (.iso_self ?_ rfl)
  refine .cons (Member.carries_required (Shape.carries_string _)) ?_ (by decide)
  exact Fields.carries_one (Member.carries_required e.keyType.carries)

theorem AttributeDefinition.carries (d : AttributeDefinition) : shape.Carries d d := by
  refine Shape.carries_record (.iso_self ?_ rfl)
  refine .cons (Member.carries_required (Shape.carries_string _)) ?_ (by decide)
  exact Fields.carries_one (Member.carries_required d.attributeType.carries)

theorem ProvisionedThroughput.carries (t : ProvisionedThroughput) : shape.Carries t t := by
  refine Shape.carries_record (.iso_self ?_ rfl)
  refine .cons (Member.carries_required (Shape.carries_nat64 _)) ?_ (by decide)
  exact Fields.carries_one (Member.carries_required (Shape.carries_nat64 _))

theorem Projection.carries (p : Projection) : shape.Carries p p := by
  refine Shape.carries_record (.iso_self ?_ rfl)
  refine .cons (Member.carries_required p.projectionType.carries) ?_ (by decide)
  exact Fields.carries_one (Member.carries_list
    (List.forall₂_same.mpr fun text _ => Shape.carries_string text))

theorem SecondaryIndex.carries (x : SecondaryIndex) : shape.Carries x x := by
  refine Shape.carries_record (.iso_self ?_ rfl)
  refine .cons (Member.carries_required (Shape.carries_string _)) ?_ (by decide)
  refine .cons (Member.carries_required (Shape.carries_list_self fun e _ => e.carries)) ?_
    (by decide)
  refine .cons (Member.carries_required x.projection.carries) ?_ (by decide)
  exact Fields.carries_one (Member.carries_optional rfl (rel_same fun t _ => t.carries)
    fun t _ => Shape.write_record_ne_null t)

theorem StreamSpecification.carries (s : StreamSpecification) : shape.Carries s s := by
  refine Shape.carries_record (.iso_self ?_ rfl)
  refine .cons (Member.carries_required (Shape.carries_bool _)) ?_ (by decide)
  exact Fields.carries_one (Member.carries_optional rfl (rel_same fun t _ => t.carries)
    fun _ _ => nofun)

theorem Member.carries_text (name : String) (o : Option String) :
    (nullable name .string).Carries o o :=
  carries_nullable (rel_same fun text _ => Shape.carries_string text)
    fun text _ => Shape.write_string_ne_null text

theorem SecondaryIndexDescription.carries (d : SecondaryIndexDescription) : shape.Carries d d := by
  have hkeySchema := Shape.carries_list_self fun e (_ : e ∈ d.keySchema) => e.carries
  refine Shape.carries_record (.iso_self ?_ rfl)
  refine .cons (Member.carries_defaulted (Shape.carries_string _)) ?_ (by decide)
  refine .cons (Member.carries_defaulted hkeySchema) ?_ (by decide)
  refine .cons (Member.carries_nullable (rel_same fun p _ => p.carries)
    fun p _ => Shape.write_record_ne_null p) ?_ (by decide)
  refine .cons (Member.carries_text _ _) ?_ (by decide)
  refine .cons (Member.carries_nullable (rel_same fun b _ => Shape.carries_bool b)
    fun _ _ => nofun) ?_ (by decide)
  refine .cons (Member.carries_nullable (rel_same fun n _ => Shape.carries_nat64 n)
    fun _ _ => nofun) ?_ (by decide)
  exact Fields.carries_one (Member.carries_nullable (rel_same fun n _ => Shape.carries_nat64 n)
    fun _ _ => nofun)

/-- The numbers of a description that need not be integers. -/
def TableDescription.numbers (t : TableDescription) : List Decimal.Double := [t.creationDateTime]

theorem TableDescription.carries {t : TableDescription}
    (hnumbers : ∀ x ∈ t.numbers, x.isFinite = true) : shape.Carries t t := by
  have hdefinitions := Shape.carries_list_self fun d (_ : d ∈ t.attributeDefinitions) => d.carries
  have hglobal := Shape.carries_list_self fun d (_ : d ∈ t.globalSecondaryIndexes) => d.carries
  have hlocal := Shape.carries_list_self fun d (_ : d ∈ t.localSecondaryIndexes) => d.carries
  have hkeySchema := Shape.carries_list_self fun e (_ : e ∈ t.keySchema) => e.carries
  have htime := Shape.carries_double (hnumbers _ List.mem_cons_self)
  refine Shape.carries_record (.iso_self ?_ rfl)
  refine .cons (Member.carries_defaulted (Shape.carries_string _)) ?_ (by decide)
  refine .cons (Member.carries_defaulted (Shape.carries_string _)) ?_ (by decide)
  refine .cons (Member.carries_defaulted (Shape.carries_nat64 _)) ?_ (by decide)
  refine .cons (Member.carries_defaulted (Shape.carries_nat64 _)) ?_ (by decide)
  refine .cons (Member.carries_defaulted htime) ?_ (by decide)
  refine .cons (Member.carries_text _ _) ?_ (by decide)
  refine .cons (Member.carries_defaulted hkeySchema) ?_ (by decide)
  refine .cons (Member.carries_defaulted hdefinitions) ?_ (by decide)
  refine .cons (Member.carries_defaulted hglobal) ?_ (by decide)
  refine .cons (Member.carries_defaulted hlocal) ?_ (by decide)
  refine .cons (Member.carries_nullable (rel_same fun s _ => s.carries)
    fun s _ => Shape.write_record_ne_null s) ?_ (by decide)
  exact Fields.carries_one (Member.carries_text _ _)

/-! ### Capacity -/

theorem Capacity.carries {c : Capacity} (h : c.capacityUnits.isFinite = true) :
    shape.Carries c c := by
  refine Shape.carries_record (.iso_self ?_ rfl)
  exact Fields.carries_one (Member.carries_defaulted (Shape.carries_double h))

namespace ConsumedCapacity

/-- The capacities of the table and of its indexes. -/
def parts (c : ConsumedCapacity) : List Capacity :=
  c.table.toList ++ c.globalSecondaryIndexes.values ++ c.localSecondaryIndexes.values

/-- All numbers of consumed capacities. -/
def numbers (c : ConsumedCapacity) : List Decimal.Double :=
  c.capacityUnits :: c.parts.map (·.capacityUnits)

theorem carries {c : ConsumedCapacity} (hnumbers : ∀ x ∈ c.numbers, x.isFinite = true) :
    shape.Carries c c := by
  have hunits := Shape.carries_double (hnumbers _ List.mem_cons_self)
  have hpart : ∀ p ∈ c.parts, Capacity.shape.Carries p p := fun p hp =>
    Capacity.carries (hnumbers _ (List.mem_cons_of_mem _ (List.mem_map_of_mem hp)))
  simp only [parts, List.mem_append, Option.mem_toList] at hpart
  refine Shape.carries_record (.iso_self ?_ rfl)
  refine .cons (Member.carries_defaulted (Shape.carries_string _)) ?_ (by decide)
  refine .cons (Member.carries_defaulted hunits) ?_ (by decide)
  refine .cons (Member.carries_optional rfl (rel_same fun p hp => hpart p (.inl (.inl hp)))
    fun p _ => Shape.write_record_ne_null p) ?_ (by decide)
  refine .cons (Member.carries_dict (Dict.forall₂_same fun p hp => hpart p (.inl (.inr hp)))) ?_
    (by decide)
  exact Fields.carries_one (Member.carries_dict (Dict.forall₂_same fun p hp => hpart p (.inr hp)))

end ConsumedCapacity

/-! ### Responses

Of a message, `documents` are all documents within it, `numbers` all numbers that need not be
integers, and `prune` puts pruned documents in the places of the documents. -/

theorem Member.carries_optional_document {name : String} {o : Option Document}
    (h : ∀ m ∈ o, m.CanTravel) : (optional name .document).Carries o (o.map Document.prune) :=
  carries_optional rfl (rel_map fun m hm => (h m hm).carries) fun m _ => m.write_ne_null

/-- What a response says of the capacity that was consumed. -/
theorem Member.carries_consumed {name : String} {o : Option ConsumedCapacity}
    (h : ∀ x ∈ o.toList.flatMap ConsumedCapacity.numbers, x.isFinite = true) :
    (optional name ConsumedCapacity.shape).Carries o o :=
  carries_optional rfl
    (rel_same fun c hc => ConsumedCapacity.carries fun x hx =>
      h x (List.mem_flatMap.mpr ⟨c, Option.mem_toList.mpr hc, hx⟩))
    fun c _ => Shape.write_record_ne_null c

/-- The answers about one item are a document, if there is one, and what was consumed. -/
theorem Fields.carries_answer {name : String} {o : Option Document} {c : Option ConsumedCapacity}
    (hname : (Fields.one (.optional "ConsumedCapacity" ConsumedCapacity.shape)).answersTo name = false)
    (hdocuments : ∀ m ∈ o.toList, m.CanTravel)
    (hnumbers : ∀ x ∈ c.toList.flatMap ConsumedCapacity.numbers, x.isFinite = true) :
    (Fields.cons (.optional name .document)
      (.one (.optional "ConsumedCapacity" ConsumedCapacity.shape))).Carries (o, c)
        (o.map Document.prune, c) := by
  refine .cons (Member.carries_optional_document fun m hm =>
    hdocuments m (Option.mem_toList.mpr hm)) ?_ hname
  exact carries_one (Member.carries_consumed hnumbers)

namespace GetOutput

def documents (o : GetOutput) : List Document := o.item.toList

def numbers (o : GetOutput) : List Decimal.Double :=
  o.consumedCapacity.toList.flatMap ConsumedCapacity.numbers

def prune (o : GetOutput) : GetOutput := { o with item := o.item.map Document.prune }

theorem carries {o : GetOutput} (hdocuments : ∀ m ∈ o.documents, m.CanTravel)
    (hnumbers : ∀ x ∈ o.numbers, x.isFinite = true) : shape.Carries o o.prune :=
  Shape.carries_record (.iso (b := (o.prune.item, o.consumedCapacity))
    (Fields.carries_answer (by decide) hdocuments hnumbers))

theorem prune_of_filled {o : GetOutput} (h : ∀ m ∈ o.documents, (Value.document m).Filled) :
    o.prune = o := by
  rw [prune, Document.option_map_prune_of_filled h]

end GetOutput

namespace WriteOutput

def documents (o : WriteOutput) : List Document := o.attributes.toList

def numbers (o : WriteOutput) : List Decimal.Double :=
  o.consumedCapacity.toList.flatMap ConsumedCapacity.numbers

def prune (o : WriteOutput) : WriteOutput :=
  { o with attributes := o.attributes.map Document.prune }

theorem carries {o : WriteOutput} (hdocuments : ∀ m ∈ o.documents, m.CanTravel)
    (hnumbers : ∀ x ∈ o.numbers, x.isFinite = true) : shape.Carries o o.prune :=
  Shape.carries_record (.iso (b := (o.prune.attributes, o.consumedCapacity))
    (Fields.carries_answer (by decide) hdocuments hnumbers))

theorem prune_of_filled {o : WriteOutput} (h : ∀ m ∈ o.documents, (Value.document m).Filled) :
    o.prune = o := by
  rw [prune, Document.option_map_prune_of_filled h]

end WriteOutput

namespace PageOutput

def documents (o : PageOutput) : List Document := o.items ++ o.lastEvaluatedKey.toList

def numbers (o : PageOutput) : List Decimal.Double :=
  o.consumedCapacity.toList.flatMap ConsumedCapacity.numbers

def prune (o : PageOutput) : PageOutput :=
  { o with
    items := o.items.map Document.prune
    lastEvaluatedKey := o.lastEvaluatedKey.map Document.prune }

theorem carries {o : PageOutput} (hdocuments : ∀ m ∈ o.documents, m.CanTravel)
    (hnumbers : ∀ x ∈ o.numbers, x.isFinite = true) : shape.Carries o o.prune := by
  obtain ⟨hitems, hkey⟩ := List.forall_mem_append.mp hdocuments
  refine Shape.carries_record (.iso (b := (o.prune.items, o.count, o.scannedCount,
    o.prune.lastEvaluatedKey, o.consumedCapacity)) ?_)
  refine .cons (Member.carries_defaulted (Shape.carries_list_map fun m hm =>
    (hitems m hm).carries)) ?_ (by decide)
  refine .cons (Member.carries_defaulted (Shape.carries_nat64 _)) ?_ (by decide)
  refine .cons (Member.carries_defaulted (Shape.carries_nat64 _)) ?_ (by decide)
  refine .cons (Member.carries_optional_document fun m hm =>
    hkey m (Option.mem_toList.mpr hm)) ?_ (by decide)
  exact Fields.carries_one (Member.carries_consumed hnumbers)

theorem prune_of_filled {o : PageOutput} (h : ∀ m ∈ o.documents, (Value.document m).Filled) :
    o.prune = o := by
  obtain ⟨hitems, hkey⟩ := List.forall_mem_append.mp h
  rw [prune, Document.map_prune_of_filled hitems, Document.option_map_prune_of_filled hkey]

end PageOutput

namespace BatchGetOutput

def documents (o : BatchGetOutput) : List Document :=
  o.responses.values.flatten ++ o.unprocessedKeys.values.flatMap (·.keys)

def numbers (o : BatchGetOutput) : List Decimal.Double :=
  o.consumedCapacity.flatMap ConsumedCapacity.numbers

def prune (o : BatchGetOutput) : BatchGetOutput :=
  { o with
    responses := o.responses.mapValues (·.map Document.prune)
    unprocessedKeys := o.unprocessedKeys.mapValues KeysAndAttributes.prune }

theorem carries {o : BatchGetOutput} (hdocuments : ∀ m ∈ o.documents, m.CanTravel)
    (hnumbers : ∀ x ∈ o.numbers, x.isFinite = true) : shape.Carries o o.prune := by
  obtain ⟨hresponses, hleft⟩ := List.forall_mem_append.mp hdocuments
  refine Shape.carries_record (.iso (b := (o.prune.responses, o.prune.unprocessedKeys,
    o.consumedCapacity)) ?_)
  refine .cons (Member.carries_defaulted (Shape.carries_dict (Dict.forall₂_mapValues
    fun items hitems => Shape.carries_list_map fun m hm =>
      (hresponses m (List.mem_flatten.mpr ⟨items, hitems, hm⟩)).carries))) ?_ (by decide)
  refine .cons (Member.carries_dict (Dict.forall₂_mapValues fun k hk =>
    KeysAndAttributes.carries fun m hm => hleft m (List.mem_flatMap.mpr ⟨k, hk, hm⟩))) ?_
    (by decide)
  exact Fields.carries_one (Member.carries_list (List.forall₂_same.mpr fun c hc =>
    ConsumedCapacity.carries fun x hx => hnumbers x (List.mem_flatMap.mpr ⟨c, hc, hx⟩)))

theorem prune_of_filled {o : BatchGetOutput} (h : ∀ m ∈ o.documents, (Value.document m).Filled) :
    o.prune = o := by
  obtain ⟨hresponses, hleft⟩ := List.forall_mem_append.mp h
  rw [prune, Dict.mapValues_eq_self fun items hitems => Document.map_prune_of_filled fun m hm =>
      hresponses m (List.mem_flatten.mpr ⟨items, hitems, hm⟩),
    Dict.mapValues_eq_self fun k hk => KeysAndAttributes.prune_of_filled fun m hm =>
      hleft m (List.mem_flatMap.mpr ⟨k, hk, hm⟩)]

end BatchGetOutput

namespace BatchWriteOutput

def documents (o : BatchWriteOutput) : List Document :=
  o.unprocessedItems.values.flatten.map WriteRequest.document

def numbers (o : BatchWriteOutput) : List Decimal.Double :=
  o.consumedCapacity.flatMap ConsumedCapacity.numbers

def prune (o : BatchWriteOutput) : BatchWriteOutput :=
  { o with unprocessedItems := o.unprocessedItems.mapValues (·.map WriteRequest.prune) }

theorem carries {o : BatchWriteOutput} (hdocuments : ∀ m ∈ o.documents, m.CanTravel)
    (hnumbers : ∀ x ∈ o.numbers, x.isFinite = true) : shape.Carries o o.prune := by
  refine Shape.carries_record (.iso (b := (o.prune.unprocessedItems, o.consumedCapacity)) ?_)
  refine .cons (Member.carries_dict (Dict.forall₂_mapValues fun ws hws =>
    Shape.carries_list_map fun w hw => WriteRequest.carries
      (hdocuments _ (List.mem_map_of_mem (List.mem_flatten.mpr ⟨ws, hws, hw⟩))))) ?_ (by decide)
  exact Fields.carries_one (Member.carries_list (List.forall₂_same.mpr fun c hc =>
    ConsumedCapacity.carries fun x hx => hnumbers x (List.mem_flatMap.mpr ⟨c, hc, hx⟩)))

theorem prune_of_filled {o : BatchWriteOutput}
    (h : ∀ m ∈ o.documents, (Value.document m).Filled) : o.prune = o := by
  have hwrites : ∀ ws ∈ o.unprocessedItems.values, ws.map WriteRequest.prune = ws := by
    intro ws hws
    rw [List.map_congr_left fun w hw => WriteRequest.prune_of_filled
      (h _ (List.mem_map_of_mem (List.mem_flatten.mpr ⟨ws, hws, hw⟩))), List.map_id']
  rw [prune, Dict.mapValues_eq_self hwrites]

end BatchWriteOutput

theorem ListTablesOutput.carries (o : ListTablesOutput) : shape.Carries o o := by
  refine Shape.carries_record (.iso_self ?_ rfl)
  refine .cons (Member.carries_defaulted (Shape.carries_list_self fun text _ =>
    Shape.carries_string text)) ?_ (by decide)
  exact Fields.carries_one (Member.carries_optional rfl
    (rel_same fun text _ => Shape.carries_string text)
    fun text _ => Shape.write_string_ne_null text)

/-! ### Streams -/

theorem Stream.carries_fields (s : Stream) : fields.Carries s s := by
  refine .iso_self ?_ rfl
  refine .cons (Member.carries_defaulted (Shape.carries_string _)) ?_ (by decide)
  refine .cons (Member.carries_defaulted (Shape.carries_string _)) ?_ (by decide)
  exact Fields.carries_one (Member.carries_defaulted (Shape.carries_string _))

theorem SequenceNumberRange.carries (r : SequenceNumberRange) : shape.Carries r r := by
  refine Shape.carries_record (.iso_self ?_ rfl)
  refine .cons (Member.carries_defaulted (Shape.carries_string _)) ?_ (by decide)
  exact Fields.carries_one (Member.carries_text _ _)

theorem Shard.carries (s : Shard) : shape.Carries s s := by
  refine Shape.carries_record (.iso_self ?_ rfl)
  refine .cons (Member.carries_defaulted (Shape.carries_string _)) ?_ (by decide)
  refine .cons (Member.carries_text _ _) ?_ (by decide)
  exact Fields.carries_one (Member.carries_defaulted s.sequenceNumberRange.carries)

namespace StreamDescription

def numbers (d : StreamDescription) : List Decimal.Double := [d.creationRequestDateTime]

/-- The members of the stream have other names than those beside them. -/
theorem answersTo_ownFields {name : String} (h : Stream.fields.answersTo name = true) :
    ownFields.answersTo name = false := by
  have hname : name = "StreamArn" ∨ name = "StreamLabel" ∨ name = "TableName" := by
    change ((Fields.one _).answersTo name || ((Fields.one _).answersTo name ||
      (Fields.one _).answersTo name)) = true at h
    rw [Fields.answersTo_one rfl, Fields.answersTo_one rfl, Fields.answersTo_one rfl] at h
    simp only [Bool.or_eq_true, decide_eq_true_eq] at h
    exact h
  rcases hname with rfl | rfl | rfl
  all_goals decide

theorem carries_ownFields {d : StreamDescription} (hnumbers : ∀ x ∈ d.numbers, x.isFinite = true) :
    let parts := (d.keySchema, d.shards, d.streamStatus, d.streamViewType,
      d.creationRequestDateTime, d.lastEvaluatedShardId)
    ownFields.Carries parts parts := by
  have htime := Shape.carries_double (hnumbers _ List.mem_cons_self)
  refine .cons (Member.carries_defaulted (Shape.carries_list_self fun e _ => e.carries)) ?_
    (by decide)
  refine .cons (Member.carries_defaulted (Shape.carries_list_self fun s _ => s.carries)) ?_
    (by decide)
  refine .cons (Member.carries_defaulted (Shape.carries_string _)) ?_ (by decide)
  refine .cons (Member.carries_nullable (rel_same fun t _ => t.carries) fun _ _ => nofun) ?_
    (by decide)
  refine .cons (Member.carries_defaulted htime) ?_ (by decide)
  exact Fields.carries_one (Member.carries_text _ _)

theorem carries {d : StreamDescription} (hnumbers : ∀ x ∈ d.numbers, x.isFinite = true) :
    shape.Carries d d := by
  have hspliced := Shape.carries_spliced (a := (d.stream, _)) (b := (d.stream, _))
    d.stream.carries_fields (carries_ownFields hnumbers) (fun _ => answersTo_ownFields) fun ms h => by
      obtain rfl := Except.ok.inj h
      simp [Json.isScalar]
  exact Shape.carries_iso (c := d) (b := (d.stream, d.keySchema, d.shards, d.streamStatus,
    d.streamViewType, d.creationRequestDateTime, d.lastEvaluatedShardId)) hspliced

end StreamDescription

namespace Change

def documents (c : Change) : List Document := c.keys :: (c.oldImage.toList ++ c.newImage.toList)

def numbers (c : Change) : List Decimal.Double := c.approximateCreationDateTime.toList

def prune (c : Change) : Change :=
  { c with
    keys := c.keys.prune
    oldImage := c.oldImage.map Document.prune
    newImage := c.newImage.map Document.prune }

theorem carries {c : Change} (hdocuments : ∀ m ∈ c.documents, m.CanTravel)
    (hnumbers : ∀ x ∈ c.numbers, x.isFinite = true) : shape.Carries c c.prune := by
  obtain ⟨hkeys, himages⟩ := List.forall_mem_cons.mp hdocuments
  obtain ⟨hold, hnew⟩ := List.forall_mem_append.mp himages
  simp only [Option.mem_toList] at hold hnew
  have himage : ∀ {name : String} {o : Option Document}, (∀ m ∈ o, m.CanTravel) →
      (Member.nullable name .document).Carries o (o.map Document.prune) := fun h =>
    Member.carries_nullable (rel_map fun m hm => (h m hm).carries) fun m _ => m.write_ne_null
  have hfinite : ∀ x ∈ c.approximateCreationDateTime, x.isFinite = true := fun x hx =>
    hnumbers x (Option.mem_toList.mpr hx)
  refine Shape.carries_record (.iso (b := (c.prune.keys, c.prune.oldImage, c.prune.newImage,
    c.sequenceNumber, c.sizeBytes, c.streamViewType, c.approximateCreationDateTime)) ?_)
  refine .cons (Member.carries_defaulted hkeys.carries) ?_ (by decide)
  refine .cons (himage hold) ?_ (by decide)
  refine .cons (himage hnew) ?_ (by decide)
  refine .cons (Member.carries_defaulted (Shape.carries_string _)) ?_ (by decide)
  refine .cons (Member.carries_defaulted (Shape.carries_nat64 _)) ?_ (by decide)
  refine .cons (Member.carries_nullable (rel_same fun t _ => t.carries) fun _ _ => nofun) ?_
    (by decide)
  refine Fields.carries_one (Member.carries_nullable
    (rel_same fun x hx => Shape.carries_double (hfinite x hx)) fun x hx hnull => ?_)
  rw [Shape.write_double (hfinite x hx)] at hnull
  exact absurd hnull nofun

theorem prune_of_filled {c : Change} (h : ∀ m ∈ c.documents, (Value.document m).Filled) :
    c.prune = c := by
  obtain ⟨hkeys, himages⟩ := List.forall_mem_cons.mp h
  obtain ⟨hold, hnew⟩ := List.forall_mem_append.mp himages
  rw [prune, Document.prune_of_filled hkeys, Document.option_map_prune_of_filled hold,
    Document.option_map_prune_of_filled hnew]

end Change

namespace ChangeRecord

def prune (r : ChangeRecord) : ChangeRecord := { r with change := r.change.prune }

theorem carries {r : ChangeRecord} (hdocuments : ∀ m ∈ r.change.documents, m.CanTravel)
    (hnumbers : ∀ x ∈ r.change.numbers, x.isFinite = true) : shape.Carries r r.prune := by
  refine Shape.carries_record (.iso (b := (r.awsRegion, r.eventId, r.eventName, r.eventSource,
    r.eventVersion, r.change.prune)) ?_)
  refine .cons (Member.carries_defaulted (Shape.carries_string _)) ?_ (by decide)
  refine .cons (Member.carries_defaulted (Shape.carries_string _)) ?_ (by decide)
  refine .cons (Member.carries_defaulted (Shape.carries_string _)) ?_ (by decide)
  refine .cons (Member.carries_defaulted (Shape.carries_string _)) ?_ (by decide)
  refine .cons (Member.carries_defaulted (Shape.carries_string _)) ?_ (by decide)
  exact Fields.carries_one (Member.carries_defaulted (Change.carries hdocuments hnumbers))

theorem prune_of_filled {r : ChangeRecord}
    (h : ∀ m ∈ r.change.documents, (Value.document m).Filled) : r.prune = r := by
  rw [prune, Change.prune_of_filled h]

end ChangeRecord

/-! ### All of them -/

/-- **A type of messages that go both ways**, and what its messages hold: documents, and numbers that
need not be integers. -/
structure TwoWay extends MessageType where
  documents : Message → List Document := fun _ => []
  numbers : Message → List Decimal.Double := fun _ => []
  /-- The message with its documents pruned. -/
  prune : Message → Message := id

namespace TwoWay

/-- The entries of batches, and the parts of tables. -/
def parts : List TwoWay :=
  [{ name := "KeysAndAttributes", Message := KeysAndAttributes, shape := KeysAndAttributes.shape
     documents := KeysAndAttributes.keys, prune := KeysAndAttributes.prune },
    { name := "WriteRequest", Message := WriteRequest, shape := WriteRequest.shape
      documents := fun w => [w.document], prune := WriteRequest.prune },
    { name := "ConsumedCapacity", Message := ConsumedCapacity, shape := ConsumedCapacity.shape
      numbers := ConsumedCapacity.numbers },
    { name := "Projection", Message := Projection, shape := Projection.shape },
    { name := "SecondaryIndex", Message := SecondaryIndex, shape := SecondaryIndex.shape },
    { name := "SecondaryIndexDescription", Message := SecondaryIndexDescription
      shape := SecondaryIndexDescription.shape },
    { name := "StreamSpecification", Message := StreamSpecification
      shape := StreamSpecification.shape },
    { name := "TableDescription", Message := TableDescription, shape := TableDescription.shape
      numbers := TableDescription.numbers }]

/-- Whole responses. -/
def outputs : List TwoWay :=
  [{ name := "GetOutput", Message := GetOutput, shape := GetOutput.shape
     documents := GetOutput.documents, numbers := GetOutput.numbers, prune := GetOutput.prune },
    { name := "WriteOutput", Message := WriteOutput, shape := WriteOutput.shape
      documents := WriteOutput.documents, numbers := WriteOutput.numbers
      prune := WriteOutput.prune },
    { name := "PageOutput", Message := PageOutput, shape := PageOutput.shape
      documents := PageOutput.documents, numbers := PageOutput.numbers
      prune := PageOutput.prune },
    { name := "BatchGetOutput", Message := BatchGetOutput, shape := BatchGetOutput.shape
      documents := BatchGetOutput.documents, numbers := BatchGetOutput.numbers
      prune := BatchGetOutput.prune },
    { name := "BatchWriteOutput", Message := BatchWriteOutput, shape := BatchWriteOutput.shape
      documents := BatchWriteOutput.documents, numbers := BatchWriteOutput.numbers
      prune := BatchWriteOutput.prune },
    { name := "ListTablesOutput", Message := ListTablesOutput, shape := ListTablesOutput.shape }]

/-- What streams are made of. -/
def streams : List TwoWay :=
  [{ name := "Shard", Message := Shard, shape := Shard.shape },
    { name := "StreamDescription", Message := StreamDescription, shape := StreamDescription.shape
      numbers := StreamDescription.numbers },
    { name := "Change", Message := Change, shape := Change.shape
      documents := Change.documents, numbers := Change.numbers, prune := Change.prune },
    { name := "ChangeRecord", Message := ChangeRecord, shape := ChangeRecord.shape
      documents := fun r => r.change.documents, numbers := fun r => r.change.numbers
      prune := ChangeRecord.prune }]

/-- **The types of messages that go both ways.** -/
def all : List TwoWay := parts ++ outputs ++ streams

example : all.map (·.name) ⊆ MessageType.all.map (·.name) := by decide

/-- The messages of the type are read back, pruned; and pruning changes only what holds empty lists
and sets. -/
structure ReadsBack (t : TwoWay) : Prop where
  carries {x : t.Message} (hdocuments : ∀ m ∈ t.documents x, m.CanTravel)
    (hnumbers : ∀ y ∈ t.numbers x, y.isFinite = true) : t.shape.Carries x (t.prune x)
  prune_of_filled {x : t.Message} (h : ∀ m ∈ t.documents x, (Value.document m).Filled) :
    t.prune x = x

theorem readsBack_all : ∀ t ∈ all, t.ReadsBack := by
  have hparts : ∀ t ∈ parts, t.ReadsBack := by
    simp only [parts, List.forall_mem_cons]
    exact ⟨⟨fun h _ => KeysAndAttributes.carries h, KeysAndAttributes.prune_of_filled⟩,
      ⟨fun h _ => WriteRequest.carries (h _ List.mem_cons_self),
        fun h => WriteRequest.prune_of_filled (h _ List.mem_cons_self)⟩,
      ⟨fun _ h => ConsumedCapacity.carries h, fun _ => rfl⟩,
      ⟨fun _ _ => Projection.carries _, fun _ => rfl⟩,
      ⟨fun _ _ => SecondaryIndex.carries _, fun _ => rfl⟩,
      ⟨fun _ _ => SecondaryIndexDescription.carries _, fun _ => rfl⟩,
      ⟨fun _ _ => StreamSpecification.carries _, fun _ => rfl⟩,
      ⟨fun _ h => TableDescription.carries h, fun _ => rfl⟩, nofun⟩
  have houtputs : ∀ t ∈ outputs, t.ReadsBack := by
    simp only [outputs, List.forall_mem_cons]
    exact ⟨⟨GetOutput.carries, GetOutput.prune_of_filled⟩,
      ⟨WriteOutput.carries, WriteOutput.prune_of_filled⟩,
      ⟨PageOutput.carries, PageOutput.prune_of_filled⟩,
      ⟨BatchGetOutput.carries, BatchGetOutput.prune_of_filled⟩,
      ⟨BatchWriteOutput.carries, BatchWriteOutput.prune_of_filled⟩,
      ⟨fun _ _ => ListTablesOutput.carries _, fun _ => rfl⟩, nofun⟩
  have hstreams : ∀ t ∈ streams, t.ReadsBack := by
    simp only [streams, List.forall_mem_cons]
    exact ⟨⟨fun _ _ => Shard.carries _, fun _ => rfl⟩,
      ⟨fun _ h => StreamDescription.carries h, fun _ => rfl⟩,
      ⟨Change.carries, Change.prune_of_filled⟩,
      ⟨ChangeRecord.carries, ChangeRecord.prune_of_filled⟩, nofun⟩
  exact List.forall_mem_append.mpr ⟨List.forall_mem_append.mpr ⟨hparts, houtputs⟩, hstreams⟩

/-- **Messages read back what they write.** A message whose documents can travel and whose numbers are
finite is written, with no name twice in an object, and read again off all that says the same, with
its documents pruned; so it is read as it was if they hold no empty lists and sets. -/
theorem reads_back {t : TwoWay} (ht : t ∈ all) {x : t.Message}
    (hdocuments : ∀ m ∈ t.documents x, (Value.document m).WellFormed ∧ m.HasWireForm)
    (hnumbers : ∀ y ∈ t.numbers x, y.isFinite = true) :
    ∃ j, t.shape.write x = .ok j ∧ j.Unrepeated ∧ t.shape.read j = .ok (t.prune x) ∧
      (∀ j', j'.Restates j → t.shape.read j' = .ok (t.prune x) ∧
        ∀ text, Json.ofBytes? text = some j' → t.shape.ofBytes text = .ok (t.prune x)) ∧
      ((∀ m ∈ t.documents x, (Value.document m).Filled) → t.shape.read j = .ok x) := by
  have hback := readsBack_all t ht
  obtain ⟨j, hwrite, hunrepeated, hread⟩ := hback.carries hdocuments hnumbers
  have hself := hread hunrepeated.restates
  refine ⟨j, hwrite, hunrepeated, hself, fun j' hj => ⟨hread hj, fun text htext => ?_⟩,
    fun hfilled => ?_⟩
  · rw [Shape.ofBytes_eq_read htext, hread hj]
  · rw [hself, hback.prune_of_filled hfilled]

/-- A change whose keys hold an empty list. -/
theorem reads_back_change :
    ∃ j, Change.shape.write
        { keys := [("a", .null), ("b", .list [])], newImage := some [("c", .bool true)]
          streamViewType := some .keysOnly
          approximateCreationDateTime := some ⟨0x3FF8000000000000⟩ } = .ok j ∧
      Change.shape.read j = .ok
        { keys := [("a", .null)], newImage := some [("c", .bool true)]
          streamViewType := some .keysOnly
          approximateCreationDateTime := some ⟨0x3FF8000000000000⟩ } := by
  have ht : { name := "Change", Message := Change, shape := Change.shape
              documents := Change.documents, numbers := Change.numbers
              prune := Change.prune } ∈ all := by simp [all, streams]
  obtain ⟨j, hwrite, -, hread, -⟩ := reads_back ht
    (x := { keys := [("a", .null), ("b", .list [])], newImage := some [("c", .bool true)]
            streamViewType := some .keysOnly
            approximateCreationDateTime := some ⟨0x3FF8000000000000⟩ })
    (by
      refine List.forall_mem_cons.mpr ⟨?_, List.forall_mem_cons.mpr ⟨?_, nofun⟩⟩
      · exact ⟨⟨by decide, trivial, trivial, trivial⟩, _, rfl⟩
      · exact ⟨⟨by decide, trivial, trivial⟩, _, rfl⟩)
    (List.forall_mem_cons.mpr ⟨by decide, nofun⟩)
  exact ⟨j, hwrite, hread⟩

end TwoWay

end Dynamo
