import OpenApiClient.Checked
import OpenApiClient.Document.Basic

set_option autoImplicit false

namespace OpenApiClient

open Checked

def InstanceType.read : Value → Checked InstanceType
  | .scalar (.text s) =>
      match InstanceType.ofName? s with
      | some t => .valid t
      | none => fault .notMember
  | _ => fault .notMember

def TypeChoice.read (value : Value) : Checked TypeChoice :=
  firstOf
    [("str-enum[InstanceType]", TypeChoice.one <$> InstanceType.read value),
      ("list[str-enum[InstanceType]]", TypeChoice.several <$> list InstanceType.read value)]

def smallerField? (fields : List (Scalar × Value)) (written plain : String) :
    Option (String × { value : Value // sizeOf value < sizeOf fields }) :=
  match h : Value.field? fields written with
  | some value => some (written, ⟨value, Value.sizeOf_field?_lt h⟩)
  | none =>
      match h : Value.field? fields plain with
      | some value => some (plain, ⟨value, Value.sizeOf_field?_lt h⟩)
      | none => none

mutual

def Schema.read (value : Value) : Checked Schema :=
  match value with
  | .object fields =>
      Schema.mk
        <$> fieldOr none fields "format" "format" (optional text)
        <*> fieldOr none fields "type" "instance_type" (optional TypeChoice.read)
        <*> fieldOr none fields "$ref" "reference" (optional text)
        <*> (match smallerField? fields "items" "array_items" with
            | none => .valid none
            | some (name, ⟨item, _⟩) =>
                within (.key name)
                  (if item.isNull then .valid none else some <$> Items.read item))
        <*> (match smallerField? fields "properties" "properties" with
            | none => .valid none
            | some (name, ⟨item, _⟩) =>
                within (.key name)
                  (match item with
                  | .scalar .null => .valid none
                  | .object properties => some <$> Schema.readProperties properties
                  | _ => fault .notMapping))
        <*> fieldOr [] fields "required" "required" (list text)
        <*> fieldOr none fields "title" "title" (optional text)
        <*> fieldOr none fields "description" "description" (optional text)
        <*> fieldOr none fields "enum" "enum" (optional (list any))
  | _ => fault .notRecord
termination_by (sizeOf value, 0)
decreasing_by all_goals (simp_all; apply Prod.Lex.left; omega)

def Subschema.read (value : Value) : Checked Subschema :=
  firstOf
    [("Schema", Subschema.schema <$> Schema.read value),
      ("bool", Subschema.boolean <$> flag value)]
termination_by (sizeOf value, 1)
decreasing_by exact Prod.Lex.right _ (by omega)

def Items.read (value : Value) : Checked Items :=
  firstOf
    [("Schema", (Items.every ∘ Subschema.schema) <$> Schema.read value),
      ("bool", (Items.every ∘ Subschema.boolean) <$> flag value),
      ("list[union[...,bool]]", match value with
        | .array items => Items.positional <$> Items.readList 0 items
        | _ => fault .notList)]
termination_by (sizeOf value, 1)
decreasing_by
  · exact Prod.Lex.right _ (by omega)
  · apply Prod.Lex.left
    simp_all

def Items.readList (position : Nat) (items : List Value) : Checked (List Subschema) :=
  match items with
  | [] => .valid []
  | item :: rest =>
      List.cons <$> within (.index position) (Subschema.read item)
        <*> Items.readList (position + 1) rest
termination_by (sizeOf items, 0)
decreasing_by
  all_goals
    apply Prod.Lex.left
    simp only [List.cons.sizeOf_spec]
    omega

def Schema.readProperties (properties : List (Scalar × Value)) :
    Checked (List (String × Subschema)) :=
  match properties with
  | [] => .valid []
  | (key, value) :: rest =>
      (fun name property more => (name, property) :: more) <$> textKey key
        <*> within (.key (Json.keyName key)) (Subschema.read value)
        <*> Schema.readProperties rest
termination_by (sizeOf properties, 0)
decreasing_by
  all_goals
    apply Prod.Lex.left
    simp only [List.cons.sizeOf_spec, Prod.mk.sizeOf_spec]
    omega

end

def MediaType.read : Value → Checked MediaType :=
  object fun fields =>
    MediaType.mk <$> fieldOr none fields "schema" "schema_" (optional Schema.read)

def Content.read : Value → Checked Content := mapping MediaType.read

def Parameter.read : Value → Checked Parameter :=
  object fun fields =>
    Parameter.mk
      <$> field fields "name" "name" text
      <*> field fields "in" "location" text
      <*> fieldOr false fields "required" "required" flag
      <*> fieldOr none fields "description" "description" (optional text)
      <*> fieldOr false fields "deprecated" "deprecated" flag
      <*> fieldOr none fields "schema" "schema_" (optional Schema.read)
      <*> fieldOr none fields "content" "content" (optional Content.read)

def RequestBody.read : Value → Checked RequestBody :=
  object fun fields =>
    RequestBody.mk
      <$> field fields "content" "content" Content.read
      <*> fieldOr none fields "description" "description" (optional text)
      <*> fieldOr false fields "required" "required" flag

def Response.read : Value → Checked Response :=
  object fun fields =>
    Response.mk
      <$> fieldOr none fields "description" "description" (optional text)
      <*> fieldOr [] fields "content" "content" Content.read

def readReference : Value → Checked String :=
  object fun fields => field fields "$ref" "reference" text

def Handle.read {α : Type} (read : Value → Checked α) (value : Value) : Checked (Handle α) :=
  if (value.get? "$ref").isSome then within (.key "ref") (Handle.reference <$> readReference value)
  else within (.key "object") (Handle.inline <$> read value)

def plainText : Scalar → String
  | .text s => s
  | .null => "None"
  | .bool b => if b then "True" else "False"
  | .int n => toString n
  | .float x => x.text
  | .timestamp t => t.text " "
  | .time clock => clock.text

def readResponses (value : Value) : Checked (List (String × Handle Response)) :=
  match value with
  | .object fields =>
      -- A status code may be a number, so that two keys may be written alike; then the later one
      -- wins at the place of the first.
      mapping (Handle.read Response.read)
        (.object ((Entries.ofPairs (fields.map fun field => (plainText field.1, field.2))).map
          fun field => (.text field.1, field.2)))
  | value => mapping (Handle.read Response.read) value

def Operation.read : Value → Checked Operation :=
  object fun fields =>
    Operation.mk
      <$> fieldOr none fields "operationId" "operation_id" (optional text)
      <*> fieldOr none fields "summary" "summary" (optional text)
      <*> fieldOr none fields "description" "description" (optional text)
      <*> fieldOr [] fields "tags" "tags" (list text)
      <*> fieldOr false fields "deprecated" "deprecated" flag
      <*> fieldOr [] fields "parameters" "parameters" (list (Handle.read Parameter.read))
      <*> fieldOr none fields "requestBody" "request_body"
            (optional (Handle.read RequestBody.read))
      <*> fieldOr [] fields "responses" "responses" readResponses

def PathItem.read : Value → Checked PathItem :=
  object fun fields =>
    let operation (method : Method) :=
      fieldOr none fields method.key method.key (optional Operation.read)
    PathItem.mk
      <$> fieldOr none fields "summary" "summary" (optional text)
      <*> fieldOr none fields "description" "description" (optional text)
      <*> fieldOr [] fields "parameters" "parameters" (list (Handle.read Parameter.read))
      <*> operation .get
      <*> operation .put
      <*> operation .post
      <*> operation .delete
      <*> operation .patch
      <*> operation .head
      <*> operation .options
      <*> operation .trace

def Components.read : Value → Checked Components :=
  object fun fields =>
    Components.mk
      <$> fieldOr [] fields "schemas" "schemas" (mapping Schema.read)
      <*> fieldOr [] fields "parameters" "parameters" (mapping (Handle.read Parameter.read))
      <*> fieldOr [] fields "responses" "responses" (mapping (Handle.read Response.read))
      <*> fieldOr [] fields "requestBodies" "request_bodies"
            (mapping (Handle.read RequestBody.read))

def ServerVariable.read : Value → Checked ServerVariable :=
  object fun fields =>
    ServerVariable.mk
      <$> field fields "default" "default" text
      <*> fieldOr none fields "enum" "enum" (optional (list text))
      <*> fieldOr none fields "description" "description" (optional text)

def Server.read : Value → Checked Server :=
  object fun fields =>
    Server.mk
      <$> field fields "url" "url" text
      <*> fieldOr none fields "description" "description" (optional text)
      <*> fieldOr [] fields "variables" "variables" (mapping ServerVariable.read)

def Info.read : Value → Checked Info :=
  object fun fields =>
    Info.mk
      <$> fieldOr Info.standard.title fields "title" "title" text
      <*> fieldOr Info.standard.version fields "version" "version" text
      <*> fieldOr none fields "description" "description" (optional text)

def Document.read : Value → Checked Document :=
  object fun fields =>
    Document.mk
      <$> fieldOr Document.standardVersion fields "openapi" "openapi" text
      <*> fieldOr Info.standard fields "info" "info" Info.read
      <*> fieldOr [] fields "servers" "servers" (list Server.read)
      <*> fieldOr [] fields "paths" "paths" (mapping PathItem.read)
      <*> fieldOr Components.empty fields "components" "components" Components.read

end OpenApiClient
