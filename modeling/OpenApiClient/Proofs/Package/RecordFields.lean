import OpenApiClient.Client.Models
import OpenApiClient.Proofs.Code.Types
import OpenApiClient.Proofs.Name.Numbering
import OpenApiClient.Proofs.Package.Keeping

set_option autoImplicit false

namespace OpenApiClient

namespace Name

structure IsFieldName (name : String) : Prop where
  identifier : IsIdentifier name
  visible : name.toList.head? ≠ some '_'
  notKeyword : name ∉ keywords
  notAttribute : name ∉ recordAttributes
  notBound : name ∉ recordModuleNames

theorem isFieldName_of_word {name : String} (word : IsFoldedWord name)
    (free : isReserved name recordModuleNames = false) : IsFieldName name := by
  simp only [isReserved, isKeyword, Bool.or_eq_false_iff, List.contains_eq_mem,
    decide_eq_false_iff_not] at free
  refine ⟨word.isIdentifier, ?_, free.1.1, free.1.2, free.2⟩
  obtain ⟨first, rest, text, lower, _⟩ := word
  rw [text]
  rintro ⟨⟩
  exact absurd lower (by decide)

theorem isFieldName_identifier (name : String) :
    IsFieldName (identifier name recordModuleNames) := by
  have closed : ∀ word ∈ recordModuleNames, ¬ EndsOpen word := by decide +kernel
  exact isFieldName_of_word (identifier_word name _) (isReserved_identifier closed name)

def EndsNumbered (word : String) : Prop :=
  (word.toList.rdropWhile Text.isAsciiDigit).getLast? = some '_'

instance (word : String) : Decidable (EndsNumbered word) :=
  inferInstanceAs (Decidable ((word.toList.rdropWhile Text.isAsciiDigit).getLast? = some '_'))

theorem endsNumbered_numbered (base : String) (index : Nat) :
    EndsNumbered (numbered base index) := by
  have digits : ∀ c ∈ (Nat.toDigits 10 index).reverse, Text.isAsciiDigit c = true :=
    fun c member => isAsciiDigit_of_mem_toDigits (List.mem_reverse.mp member)
  have stem : (numbered base index).toList.rdropWhile Text.isAsciiDigit =
      base.toList ++ ['_'] := by
    rw [toList_numbered, List.append_cons, List.rdropWhile, List.reverse_append,
      List.dropWhile_append_of_pos digits]
    simp [Text.isAsciiDigit]
  rw [EndsNumbered, stem, List.getLast?_append]
  rfl

theorem isReserved_numbered (base : String) (index : Nat) :
    isReserved (numbered base index) recordModuleNames = false := by
  have closed : ∀ word ∈ keywords ++ recordAttributes ++ recordModuleNames,
      ¬ EndsNumbered word := by decide +kernel
  have free : numbered base index ∉ keywords ++ recordAttributes ++ recordModuleNames :=
    fun member => closed _ member (endsNumbered_numbered base index)
  rw [List.mem_append, List.mem_append, not_or, not_or] at free
  obtain ⟨⟨noKeyword, noAttribute⟩, noModuleName⟩ := free
  simp only [isReserved, isKeyword, Bool.or_eq_false_iff, List.contains_eq_mem,
    decide_eq_false_iff_not]
  exact ⟨⟨noKeyword, noAttribute⟩, noModuleName⟩

end Name

def Subschema.type? : Subschema → Option MappedType
  | .boolean _ => none
  | .schema written => (MappedType.ofSchema written .owned none).toOption

theorem Subschema.mapped_of_type? {schema : Schema} {type : MappedType}
    (typed : (Subschema.schema schema).type? = some type) (field : Option String) :
    MappedType.ofSchema schema .owned field = .ok type := by
  rw [type?, MappedType.toOption_ofSchema schema .owned none field] at typed
  cases made : MappedType.ofSchema schema .owned field with
  | error failure =>
    rw [made] at typed
    cases typed
  | ok mapped =>
    rw [made] at typed
    exact congrArg Except.ok (Option.some.inj typed)

theorem Subschema.written_of_type? {property : Subschema} {type : MappedType}
    (typed : property.type? = some type) : type.Written := by
  cases property with
  | boolean value => cases typed
  | schema schema => exact MappedType.ofSchema_written (mapped_of_type? typed none)

namespace Models

variable {model : String} {required : List String}

def foldedField (required : List String) (wireName : String) (type : MappedType) : Field :=
  ⟨Name.identifier wireName Name.recordModuleNames, wireName, type, required.contains wireName⟩

theorem name_foldedField (required : List String) (wireName : String) (type : MappedType) :
    (foldedField required wireName type).name =
      Name.identifier (foldedField required wireName type).wireName Name.recordModuleNames := by
  rw [foldedField]

theorem fieldOf_of_type (model wireName : String) (required : List String) {property : Subschema}
    {type : MappedType} (typed : property.type? = some type) :
    fieldOf model wireName property required =
      .ok (foldedField required wireName type) := by
  cases property with
  | boolean value => cases typed
  | schema schema =>
    simp only [fieldOf, Subschema.mapped_of_type? typed, foldedField]

structure Placed (taken : Entries String String) (field placed : Field) : Prop where
  wireName : placed.wireName = field.wireName
  type : placed.type = field.type
  required : placed.required = field.required
  free : placed.name ∉ taken.keys
  legal : Name.IsFieldName placed.name

theorem distinct_placed (model : String) (taken : Entries String String) {field : Field}
    (name : field.name = Name.identifier field.wireName Name.recordModuleNames) :
    ∃ placed, (distinct model taken field).outcome = .ok placed ∧ Placed taken field placed := by
  rw [distinct]
  split
  next unused =>
    exact ⟨field, rfl, rfl, rfl, rfl, (Entries.get?_eq_none_iff _ _).mp unused,
      name ▸ Name.isFieldName_identifier field.wireName⟩
  next =>
    obtain ⟨index, _, same, free⟩ := Name.firstFree_spec taken.keys field.name 2
    have word : Name.IsFoldedWord field.name := name ▸ Name.identifier_word field.wireName _
    have legal := Name.isFieldName_of_word (word.numbered index)
      (Name.isReserved_numbered field.name index)
    rw [← same] at legal
    generalize Name.firstFree taken.keys field.name 2 = renamed at free legal
    exact ⟨{ field with name := renamed }, rfl, rfl, rfl, rfl, free, legal⟩

structure Keeps (required : List String) (property : String × Subschema) (field : Field) :
    Prop where
  wireName : field.wireName = property.1
  type : property.2.type? = some field.type
  required : field.required = required.contains property.1
  legal : Name.IsFieldName field.name

theorem fieldsFrom_keeps (model : String) (required : List String)
    (taken : Entries String String) {properties : List (String × Subschema)}
    (apart : taken.keys.Nodup) (typed : ∀ property ∈ properties, property.2.type?.isSome) :
    (fieldsFrom model required taken properties).failure = none ∧
      List.Forall₂ (Keeps required) properties
        (fieldsFrom model required taken properties).items ∧
      (taken.keys ++ (fieldsFrom model required taken properties).items.map Field.name).Nodup := by
  -- The names before a property are those that are taken, and its own is none of them.
  induction properties generalizing taken with
  | nil => exact ⟨rfl, .nil, by simpa [fieldsFrom, Collected.empty] using apart⟩
  | cons property rest ih =>
    obtain ⟨wireName, property⟩ := property
    obtain ⟨type, found⟩ := Option.isSome_iff_exists.mp (typed _ List.mem_cons_self)
    obtain ⟨placed, done, here⟩ :=
      distinct_placed model taken (name_foldedField required wireName type)
    have keys := Entries.keys_put_of_not_mem taken placed.name wireName here.free
    obtain ⟨complete, later, distinct⟩ := ih _ (Entries.nodup_keys_put apart placed.name wireName)
      (fun other member => typed other (List.mem_cons_of_mem _ member))
    simp only [fieldsFrom, fieldOf_of_type model wireName required found, done]
    refine ⟨complete, .cons ?_ later, ?_⟩
    · exact ⟨here.wireName, found.trans (congrArg some here.type.symm), here.required, here.legal⟩
    · rw [keys] at distinct
      simpa [Collected.cons] using distinct

theorem fieldsFrom_append (taken : Entries String String)
    (properties more : List (String × Subschema)) :
    ∃ later, (fieldsFrom model required taken (properties ++ more)).items =
      (fieldsFrom model required taken properties).items ++ later := by
  -- A property sees only the names before it, and the same ones are taken in both runs.
  induction properties generalizing taken with
  | nil => exact ⟨_, rfl⟩
  | cons property rest ih =>
    obtain ⟨wireName, property⟩ := property
    simp only [List.cons_append, fieldsFrom]
    split
    next => exact ⟨[], rfl⟩
    next field _ =>
      split
      next => exact ⟨[], rfl⟩
      next placed _ =>
        obtain ⟨later, same⟩ := ih (taken.put placed.name wireName)
        exact ⟨later, by simp [Collected.cons, same]⟩

theorem render_default (field : Field) :
    field.toParameter.default.map Code.Expression.render =
      some (if field.required then "Field(alias=" ++ Json.literal field.wireName ++ ")"
        else "Field(default=None, alias=" ++ Json.literal field.wireName ++ ")") := by
  simp [Field.toParameter, Field.default]

theorem render_type {field : Field} (written : field.type.Written) :
    field.toParameter.type.map Code.Expression.render =
      some (if field.required then field.type.expression.render
        else "Optional[" ++ field.type.expression.render ++ "]") := by
  simp [Field.toParameter, written.render_wrapOptional]

def Opens (opening : String) (written : Option Code.Expression) : Prop :=
  ∃ rest, written.map Code.Expression.render = some (opening ++ rest)

structure Declares (required : List String) (property : String × Subschema)
    (parameter : Code.Parameter) : Prop where
  legal : Name.IsFieldName parameter.name
  type : ∃ mapped, property.2.type? = some mapped ∧ parameter.type.map Code.Expression.render =
    some (if property.1 ∈ required then mapped.expression.render
      else "Optional[" ++ mapped.expression.render ++ "]")
  plain : ¬ Opens "Optional[" parameter.type ↔ property.1 ∈ required
  sent : parameter.default.map Code.Expression.render =
    some (if property.1 ∈ required then "Field(alias=" ++ Json.literal property.1 ++ ")"
      else "Field(default=None, alias=" ++ Json.literal property.1 ++ ")")
  given : ¬ Opens "Field(default=None, " parameter.default ↔ property.1 ∈ required

theorem Keeps.declares {property : String × Subschema} {field : Field}
    (keeps : Keeps required property field) : Declares required property field.toParameter := by
  have flag : field.required = true ↔ property.1 ∈ required := by
    rw [keeps.required, List.contains_eq_mem, decide_eq_true_iff]
  have written := Subschema.written_of_type? keeps.type
  have type := render_type written
  have default := render_default field
  simp only [keeps.wireName, flag] at type default
  refine ⟨keeps.legal, ⟨field.type, keeps.type, type⟩, ?_, default, ?_⟩
  · rw [Opens, type]
    split
    next present =>
      -- A type that is written for a schema is not an optional one itself.
      refine iff_of_true ?_ present
      rintro ⟨rest, same⟩
      refine written.opens ?_
      rw [Option.some.inj same]
      simp [String.toList_append]
    next absent =>
      refine iff_of_false (not_not_intro ⟨field.type.expression.render ++ "]", ?_⟩) absent
      rw [String.append_assoc]
  · rw [Opens, default]
    split
    next present =>
      refine iff_of_true ?_ present
      rintro ⟨rest, same⟩
      have chars := congrArg String.toList (Option.some.inj same)
      simp [String.toList_append] at chars
    next absent =>
      refine iff_of_false (not_not_intro ⟨"alias=" ++ Json.literal property.1 ++ ")", ?_⟩) absent
      simp [← String.append_assoc]

def Model.parameters (model : Model) : List Code.Parameter :=
  model.file.classes.values.flatMap Code.Class.parameters

/-- A record with one line for each property, under names that differ from each other. -/
structure Complete (name : String) (schema : Schema) (model : Model) : Prop where
  done : (fields name schema).failure = none
  declared : List.Forall₂ (Declares schema.required) (schema.properties.getD []) model.parameters
  distinct : (model.parameters.map Code.Parameter.name).Nodup

theorem parameters_recordFile (folder name : String) (schema : Schema) (fields : List Field) :
    Model.parameters ⟨modelName name, recordFile folder (modelName name) schema fields⟩ =
      fields.map Field.toParameter := by
  simp [Model.parameters, recordFile, recordClass, Entries.values]

theorem modelsFrom_at {folder name : String} {earlier : List ModelName} {schema : Schema}
    {before after : List (String × Schema)} {model : Model} :
    (modelsFrom folder earlier (before ++ (name, schema) :: after)).items[before.length]? =
        some model ↔
      ((modelsFrom folder earlier before).failure = none ∧
        isTaken (earlier ++ before.map fun entry => modelName entry.1) (modelName name) = false) ∧
      ⟨modelName name, recordFile folder (modelName name) schema (fields name schema).items⟩ =
        model := by
  induction before generalizing earlier with
  | nil =>
    simp only [List.nil_append, List.map_nil, List.append_nil, List.length_nil, modelsFrom]
    cases isTaken earlier (modelName name) with
    | true => simp [Collected.stop]
    | false => cases (fields name schema).failure <;> simp [Collected.cons, Collected.empty]
  | cons first before ih =>
    obtain ⟨other, others⟩ := first
    rw [modelsFrom_cons_done]
    simp only [List.cons_append, modelsFrom]
    cases isTaken earlier (modelName other) with
    | true => simp [Collected.stop]
    | false =>
      cases (fields other others).failure with
      | some failure => simp
      | none => simpa [Collected.cons] using @ih (earlier ++ [modelName other])

theorem fields_complete (name : String) {schema : Schema}
    (typed : ∀ property ∈ schema.properties.getD [], property.2.type?.isSome) :
    (fields name schema).failure = none ∧
      List.Forall₂ (Keeps schema.required) (schema.properties.getD []) (fields name schema).items ∧
      ((fields name schema).items.map Field.name).Nodup := by
  cases written : schema.properties with
  | none => simp [fields, written]
  | some properties =>
    rw [written] at typed
    simpa [fields, written, Entries.keys] using
      fieldsFrom_keeps name schema.required [] List.nodup_nil typed

theorem fields_append (name : String) (schema : Schema) (more : List (String × Subschema)) :
    ∃ later, (fields name { schema with
        properties := some (schema.properties.getD [] ++ more) }).items =
      (fields name schema).items ++ later := by
  cases written : schema.properties with
  | none => simp [fields, written]
  | some properties => simpa [fields, written] using fieldsFrom_append [] properties more

/-- Every record of a schema whose properties have types is complete, and more properties at the end
of the schema leave its lines as they are. -/
theorem models_fields (folder name : String) {schema : Schema}
    (before after : List (String × Schema))
    (typed : ∀ property ∈ schema.properties.getD [], property.2.type?.isSome) :
    ((∃ model, (models folder (before ++ (name, schema) :: after)).items[before.length]? =
        some model) ↔
      (models folder before).failure = none ∧
        isTaken (before.map fun entry => modelName entry.1) (modelName name) = false) ∧
    ∀ model, (models folder (before ++ (name, schema) :: after)).items[before.length]? =
        some model →
      Complete name schema model ∧
        ∀ (folder : String) (before after : List (String × Schema))
          (more : List (String × Subschema)) (longer : Model),
          (models folder (before ++ (name, { schema with
            properties := some (schema.properties.getD [] ++ more) }) :: after)).items[
              before.length]? = some longer →
            ∃ later, longer.parameters = model.parameters ++ later := by
  obtain ⟨done, keeps, distinct⟩ := fields_complete name typed
  refine ⟨?_, ?_⟩
  · simp only [models, modelsFrom_at, List.nil_append, exists_and_left, exists_eq', and_true]
  · intro model here
    obtain ⟨_, rfl⟩ := modelsFrom_at.mp here
    refine ⟨⟨done, ?_, ?_⟩, ?_⟩
    · rw [parameters_recordFile, List.forall₂_map_right_iff]
      exact keeps.imp fun _ _ => Keeps.declares
    · rw [parameters_recordFile, List.map_map]
      exact distinct
    · intro folder before after more longer there
      obtain ⟨_, rfl⟩ := modelsFrom_at.mp there
      obtain ⟨later, same⟩ := fields_append name schema more
      rw [parameters_recordFile, parameters_recordFile, same, List.map_append]
      exact ⟨_, rfl⟩

def crowdedSchema : Schema :=
  let text : Subschema :=
    .schema ⟨none, some (.one .string), none, none, none, [], none, none, none⟩
  ⟨none, some (.one .object), none, none,
    some [("userName", text), ("user_name", text), ("user_name_2", text), ("class", text)],
    ["class"], none, none, none⟩

theorem models_fields_crowded :
    (∀ property ∈ crowdedSchema.properties.getD [], property.2.type?.isSome) ∧
      ∃ model, (models "shop" [("User", crowdedSchema)]).items[0]? = some model ∧
        model.parameters.map Code.Parameter.name =
          ["user_name", "user_name_2", "user_name_2_2", "class_"] ∧
        Complete "User" crowdedSchema model := by
  have typed : ∀ property ∈ crowdedSchema.properties.getD [], property.2.type?.isSome := by decide
  obtain ⟨made, complete⟩ := models_fields "shop" "User" [] [] typed
  obtain ⟨model, here⟩ := made.mpr ⟨rfl, rfl⟩
  have names : ((models "shop" [("User", crowdedSchema)]).items[0]?.map fun model =>
      model.parameters.map Code.Parameter.name) =
        some ["user_name", "user_name_2", "user_name_2_2", "class_"] := by
    decide +kernel
  have made : (models "shop" [("User", crowdedSchema)]).items[0]? = some model := here
  rw [made] at names
  exact ⟨typed, model, made, Option.some.inj names, (complete model here).1⟩

end Models
end OpenApiClient
