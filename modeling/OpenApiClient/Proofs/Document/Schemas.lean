import OpenApiClient.Document.Parse
import OpenApiClient.Proofs.Document.Fields

set_option autoImplicit false

namespace OpenApiClient

open Checked

theorem smallerField?_located (fields : List (Scalar × Value)) (written plain : String) :
    (smallerField? fields written plain).map (fun found => (found.1, found.2.val)) =
      located? fields written plain := by
  rw [smallerField?, located?]
  split
  next value found => simp only [found, Option.map_some]
  next missing =>
    split
    next value found => simp only [missing, found, Option.map_some]
    next absent => simp only [missing, absent, Option.map_none]

theorem fieldOr_smaller {α : Type} (absent : α) (fields : List (Scalar × Value))
    (written plain : String) (read : Value → Checked α) :
    fieldOr absent fields written plain read =
      match smallerField? fields written plain with
      | none => .valid absent
      | some (name, ⟨item, _⟩) => within (.key name) (read item) := by
  rw [fieldOr, ← smallerField?_located]
  cases smallerField? fields written plain <;> rfl

theorem Schema.readProperties_eq (properties : List (Scalar × Value)) :
    Schema.readProperties properties = entries Subschema.read properties := by
  induction properties with
  | nil => rw [Schema.readProperties, entries]
  | cons property rest ih => rw [Schema.readProperties, entries, ih]

theorem Items.readList_eq (position : Nat) (items : List Value) :
    Items.readList position items = listFrom Subschema.read position items := by
  induction items generalizing position with
  | nil => rw [Items.readList, listFrom]
  | cons item rest ih => rw [Items.readList, listFrom, ih]

theorem Items.dumpList_eq (items : List Subschema) :
    Items.dumpList items = items.map Subschema.dump := by
  induction items with
  | nil => rw [Items.dumpList, List.map_nil]
  | cons item rest ih => rw [Items.dumpList, List.map_cons, ih]

theorem Schema.dumpProperties_eq (properties : List (String × Subschema)) :
    Schema.dumpProperties properties =
      properties.map fun property => (property.1, property.2.dump) := by
  induction properties with
  | nil => rw [Schema.dumpProperties, List.map_nil]
  | cons property rest ih => rw [Schema.dumpProperties, List.map_cons, ih]

theorem Schema.read_object (fields : List (Scalar × Value)) :
    Schema.read (.object fields) =
      Schema.mk
        <$> fieldOr none fields "format" "format" (optional text)
        <*> fieldOr none fields "type" "instance_type" (optional TypeChoice.read)
        <*> fieldOr none fields "$ref" "reference" (optional text)
        <*> fieldOr none fields "items" "array_items" (optional Items.read)
        <*> fieldOr none fields "properties" "properties" (optional (mapping Subschema.read))
        <*> fieldOr [] fields "required" "required" (list text)
        <*> fieldOr none fields "title" "title" (optional text)
        <*> fieldOr none fields "description" "description" (optional text)
        <*> fieldOr none fields "enum" "enum" (optional (list any)) := by
  rw [Schema.read, fieldOr_smaller none fields "items", fieldOr_smaller none fields "properties"]
  -- The reader of properties is the reader of mappings, written out so that it recurs.
  rcases smallerField? fields "properties" "properties" with _ | ⟨name, item, smaller⟩
  · rfl
  · cases item with
    | scalar scalar => cases scalar <;> rfl
    | array items => rfl
    | object properties =>
      simp only [Schema.readProperties_eq]
      rfl

theorem Schema.dump_eq (schema : Schema) :
    schema.dump = .record
      (setField "format" schema.format .text
        ++ setField "type" schema.type TypeChoice.dump
        ++ setField "$ref" schema.reference .text
        ++ setField "items" schema.items Items.dump
        ++ setField "properties" schema.properties (dumpEntries Subschema.dump)
        ++ filledField "required" schema.required .texts
        ++ setField "title" schema.title .text
        ++ setField "description" schema.description .text
        ++ setField "enum" schema.enum .array) := by
  obtain ⟨format, type, reference, items, properties, required, title, description, enum⟩ := schema
  cases items <;> cases properties <;>
    simp [Schema.dump, setField, dumpEntries, Schema.dumpProperties_eq]

theorem TypeChoice.read_dump (choice : TypeChoice) :
    TypeChoice.read choice.dump = .valid choice := by
  have single (type : InstanceType) : InstanceType.read (.text type.name) = .valid type := by
    rw [InstanceType.read, InstanceType.ofName?_name]
  cases choice with
  | one type => exact firstOf_valid (map_valid (single type))
  | several types =>
    have written : (TypeChoice.several types).dump =
        .array (types.map fun type => .text type.name) := by
      simp [TypeChoice.dump]
    rw [written]
    exact firstOf_faulty rfl (firstOf_valid (map_valid (list_written fun type _ => single type)))

theorem Schema.dump_plain : Plain Schema.dump := by
  intro schema
  rw [Schema.dump_eq]
  rfl

theorem Subschema.dump_plain : Plain Subschema.dump := by
  intro item
  cases item with
  | schema schema =>
    rw [Subschema.dump]
    exact Schema.dump_plain schema
  | boolean admitted => simp [Subschema.dump, Value.isNull]

theorem Items.dump_plain : Plain Items.dump := by
  intro items
  cases items with
  | every item =>
    rw [Items.dump]
    exact Subschema.dump_plain item
  | positional items => simp [Items.dump, Value.isNull]

theorem TypeChoice.dump_plain : Plain TypeChoice.dump := by
  intro choice
  cases choice <;> rfl

theorem Schema.read_bool (admitted : Bool) :
    Schema.read (.bool admitted) = .faulty [⟨[], .notRecord⟩] := by
  rw [Schema.read]
  · rfl
  · simp

theorem Schema.read_array (items : List Value) :
    Schema.read (.array items) = .faulty [⟨[], .notRecord⟩] := by
  rw [Schema.read]
  · rfl
  · simp

mutual

theorem Schema.read_dump : (schema : Schema) → Schema.read schema.dump = .valid schema
  | ⟨format, type, reference, items, properties, required, title, description, enum⟩ => by
    -- Only these two fields hold schemas; the others are read back without the induction.
    have itemsRead : ∀ entry ∈ items, Items.read entry.dump = .valid entry :=
      match items with
      | none => fun _ absent => nomatch absent
      | some items => fun _ same => Option.some.inj same ▸ Items.read_dump items
    have propertiesRead : ∀ entries ∈ properties,
        mapping Subschema.read (dumpEntries Subschema.dump entries) = .valid entries :=
      match properties with
      | none => fun _ absent => nomatch absent
      | some properties => fun _ same =>
          Option.some.inj same ▸ mapping_written (Schema.readProperties_dump properties)
    rw [Schema.dump_eq, Value.record, Schema.read_object]
    refine seq_valid (seq_valid (seq_valid (seq_valid (seq_valid (seq_valid (seq_valid (seq_valid
      (map_valid ?format) ?type) ?reference) ?items) ?properties) ?required) ?title)
        ?description) ?enum
    case format => exact fieldOr_written (by simpa using Recorded.text format)
    case type =>
      exact fieldOr_written
        (by simpa using Recorded.set TypeChoice.dump_plain fun choice _ => choice.read_dump)
    case reference => exact fieldOr_written (by simpa using Recorded.text reference)
    case items =>
      exact fieldOr_written (by simpa using Recorded.set Items.dump_plain itemsRead)
    case properties =>
      exact fieldOr_written (by simpa using Recorded.set (dumpEntries_plain _) propertiesRead)
    case required =>
      exact fieldOr_written (by simpa using Recorded.filled (list_texts required))
    case title => exact fieldOr_written (by simpa using Recorded.text title)
    case description => exact fieldOr_written (by simpa using Recorded.text description)
    case enum =>
      exact fieldOr_written
        (by simpa using Recorded.set array_plain fun values _ => list_any values)

theorem Subschema.read_dump : (item : Subschema) → Subschema.read item.dump = .valid item
  | .schema schema => by
    rw [Subschema.dump, Subschema.read]
    exact firstOf_valid (map_valid (Schema.read_dump schema))
  | .boolean admitted => by
    -- A schema is tried first, and none is read from a boolean.
    rw [Subschema.dump, Subschema.read, Schema.read_bool]
    rfl

theorem Items.read_dump : (items : Items) → Items.read items.dump = .valid items
  | .every (.schema schema) => by
    rw [Items.dump, Subschema.dump, Items.read.eq_def]
    exact firstOf_valid (map_valid (Schema.read_dump schema))
  | .every (.boolean admitted) => by
    rw [Items.dump, Subschema.dump, Items.read.eq_def, Schema.read_bool]
    rfl
  | .positional items => by
    rw [Items.dump, Items.read, Schema.read_array, Items.dumpList_eq]
    simp only [Items.readList_eq, listFrom_written (Items.readList_dump items)]
    rfl

theorem Items.readList_dump :
    (items : List Subschema) → ∀ item ∈ items, Subschema.read item.dump = .valid item
  | [] => fun _ absent => nomatch absent
  | item :: rest =>
      List.forall_mem_cons.mpr ⟨Subschema.read_dump item, Items.readList_dump rest⟩

theorem Schema.readProperties_dump :
    (properties : List (String × Subschema)) →
      ∀ property ∈ properties, Subschema.read property.2.dump = .valid property.2
  | [] => fun _ absent => nomatch absent
  | (_, property) :: rest =>
      List.forall_mem_cons.mpr ⟨Subschema.read_dump property, Schema.readProperties_dump rest⟩

end

theorem Schema.prune_eq (schema : Schema) :
    schema.prune =
      { schema with
        properties := schema.properties.map Schema.pruneProperties
        required := schema.required.filter fun name => schema.declared.contains name } := by
  obtain ⟨format, type, reference, items, properties, required, title, description, enum⟩ := schema
  cases properties <;> rw [Schema.prune] <;> rfl

theorem Schema.pruneWarnings_eq (name : String) (schema : Schema) :
    schema.pruneWarnings name =
      schema.properties.elim [] (Schema.propertyWarnings name) ++
        schema.undeclaredWarning name := by
  obtain ⟨format, type, reference, items, properties, required, title, description, enum⟩ := schema
  cases properties <;> rw [Schema.pruneWarnings] <;> rfl

theorem Schema.names_pruneProperties (properties : List (String × Subschema)) :
    (Schema.pruneProperties properties).map Prod.fst = properties.map Prod.fst := by
  induction properties with
  | nil => rw [Schema.pruneProperties]
  | cons property rest ih => rw [Schema.pruneProperties, List.map_cons, List.map_cons, ih]

theorem Schema.declared_prune (schema : Schema) : schema.prune.declared = schema.declared := by
  rw [Schema.prune_eq]
  cases properties : schema.properties with
  | none => simp [Schema.declared, properties]
  | some entries => simp [Schema.declared, properties, Schema.names_pruneProperties]

theorem Schema.undeclared_prune (schema : Schema) : schema.prune.undeclared = [] := by
  have required : schema.prune.required =
      schema.required.filter fun name => schema.declared.contains name := by
    rw [Schema.prune_eq]
  rw [Schema.undeclared, Schema.declared_prune, required, List.filter_filter]
  simp

mutual

theorem Schema.prune_prune : (schema : Schema) → schema.prune.prune = schema.prune
  | ⟨format, type, reference, items, properties, required, title, description, enum⟩ => by
    have again : ∀ entries ∈ properties,
        Schema.pruneProperties (Schema.pruneProperties entries) = Schema.pruneProperties entries :=
      match properties with
      | none => fun _ absent => nomatch absent
      | some properties => fun _ same =>
          Option.some.inj same ▸ Schema.pruneProperties_pruneProperties properties
    rw [Schema.prune_eq (Schema.prune _), Schema.declared_prune, Schema.prune_eq]
    cases properties with
    | none => simp
    | some entries => simp [again entries rfl]

theorem Subschema.prune_prune : (item : Subschema) → item.prune.prune = item.prune
  | .schema schema => by rw [Subschema.prune, Subschema.prune, Schema.prune_prune schema]
  | .boolean admitted => by rw [Subschema.prune, Subschema.prune]

theorem Schema.pruneProperties_pruneProperties :
    (properties : List (String × Subschema)) →
      Schema.pruneProperties (Schema.pruneProperties properties) =
        Schema.pruneProperties properties
  | [] => by rw [Schema.pruneProperties, Schema.pruneProperties]
  | (name, property) :: rest => by
    rw [Schema.pruneProperties, Schema.pruneProperties, Subschema.prune_prune property,
      Schema.pruneProperties_pruneProperties rest]

end

mutual

theorem Schema.pruneWarnings_prune (name : String) :
    (schema : Schema) → schema.prune.pruneWarnings name = []
  | ⟨format, type, reference, items, properties, required, title, description, enum⟩ => by
    have quiet : ∀ entries ∈ properties,
        Schema.propertyWarnings name (Schema.pruneProperties entries) = [] :=
      match properties with
      | none => fun _ absent => nomatch absent
      | some properties => fun _ same =>
          Option.some.inj same ▸ Schema.propertyWarnings_pruneProperties name properties
    rw [Schema.pruneWarnings_eq, Schema.undeclaredWarning, Schema.undeclared_prune,
      Schema.prune_eq]
    cases properties with
    | none => rfl
    | some entries => simpa using quiet entries rfl

theorem Subschema.pruneWarnings_prune (name : String) :
    (item : Subschema) → item.prune.pruneWarnings name = []
  | .schema schema => by
    rw [Subschema.prune, Subschema.pruneWarnings, Schema.pruneWarnings_prune name schema]
  | .boolean admitted => by rw [Subschema.prune, Subschema.pruneWarnings]

theorem Schema.propertyWarnings_pruneProperties (name : String) :
    (properties : List (String × Subschema)) →
      Schema.propertyWarnings name (Schema.pruneProperties properties) = []
  | [] => by rw [Schema.pruneProperties, Schema.propertyWarnings]
  | (field, property) :: rest => by
    rw [Schema.pruneProperties, Schema.propertyWarnings,
      Subschema.pruneWarnings_prune (name ++ "." ++ field) property,
      Schema.propertyWarnings_pruneProperties name rest, List.nil_append]

end

end OpenApiClient
