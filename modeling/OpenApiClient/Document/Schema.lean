import OpenApiClient.Value

set_option autoImplicit false

namespace OpenApiClient

inductive InstanceType where
  | null
  | boolean
  | object
  | array
  | number
  | string
  | integer
  deriving DecidableEq

namespace InstanceType

def all : List InstanceType := [.null, .boolean, .object, .array, .number, .string, .integer]

def name : InstanceType → String
  | .null => "null"
  | .boolean => "boolean"
  | .object => "object"
  | .array => "array"
  | .number => "number"
  | .string => "string"
  | .integer => "integer"

def ofName? (name : String) : Option InstanceType :=
  all.find? fun t => t.name == name

theorem ofName?_name (t : InstanceType) : ofName? t.name = some t := by
  cases t <;> decide

end InstanceType

inductive TypeChoice where
  | one (type : InstanceType)
  | several (types : List InstanceType)
  deriving DecidableEq

mutual

structure Schema where
  format : Option String
  type : Option TypeChoice
  reference : Option String
  items : Option Items
  properties : Option (List (String × Subschema))
  required : List String
  title : Option String
  description : Option String
  enum : Option (List Value)

inductive Subschema where
  | schema (schema : Schema)
  | boolean (admitted : Bool)

inductive Items where
  | every (item : Subschema)
  | positional (items : List Subschema)

end

namespace Schema

def isPointer (schema : Schema) : Bool :=
  schema.reference.isSome && schema.format.isNone && schema.type.isNone &&
    schema.items.isNone && schema.properties.isNone && schema.required.isEmpty &&
    schema.title.isNone && schema.description.isNone && schema.enum.isNone

def singleType? (schema : Schema) : Option InstanceType :=
  match schema.type with
  | some (.one t) => some t
  | _ => none

end Schema
end OpenApiClient
