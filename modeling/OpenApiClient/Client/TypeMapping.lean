import OpenApiClient.Code.Expression
import OpenApiClient.Failure
import OpenApiClient.Name.Reserved

set_option autoImplicit false

namespace OpenApiClient

inductive TypeKind where
  | identifier
  | integer
  | float
  | bytes
  | timestamp
  | secret
  | unit
  | boolean
  | map
  | list
  | string
  | record
  deriving DecidableEq

def TypeKind.name : TypeKind → String
  | .identifier => "identifier"
  | .integer => "integer"
  | .float => "float"
  | .bytes => "bytes"
  | .timestamp => "timestamp"
  | .secret => "secret"
  | .unit => "unit"
  | .boolean => "boolean"
  | .map => "map"
  | .list => "list"
  | .string => "string"
  | .record => "record"

inductive Usage where
  | owned
  | borrowedParameter
  deriving DecidableEq

structure MappedType where
  expression : Code.Expression
  kind : TypeKind
  owned : Bool
  optional : Bool

namespace MappedType

open Code

def formatType? (format : String) : Option (String × TypeKind) :=
  Entries.get?
    [("base64uuid", ("Base64Uuid", TypeKind.identifier)),
      ("int32", ("Int32", .integer)),
      ("int64", ("Int64", .integer)),
      ("float", ("Float32", .float)),
      ("double", ("Float64", .float)),
      ("byte", ("bytes", .bytes)),
      ("binary", ("bytes", .bytes)),
      ("date", ("datetime", .timestamp)),
      ("date-time", ("datetime", .timestamp)),
      ("password", ("SecureString", .secret))]
    format

def instanceType : InstanceType → Expression × TypeKind
  | .null => (.ofText "None", .unit)
  | .boolean => (.ofText "bool", .boolean)
  | .object => (⟨[.text "str", .text "str"], some "Dict"⟩, .map)
  | .array => (.wrapText "List" "Any", .list)
  | .number => (.ofText "Int64", .integer)
  | .string => (.ofText "str", .string)
  | .integer => (.ofText "Int32", .integer)

def record (reference : String) : MappedType :=
  ⟨.ofText (Name.modelPath reference), .record, true, false⟩

def ofInstanceType (type : InstanceType) (reference : Option String) (usage : Usage) :
    MappedType :=
  let pointer := reference.getD ""
  if type = .array ∧ pointer ≠ "" then
    ⟨.wrapText "List" (Name.modelPath pointer), .list, true, false⟩
  else
    let (expression, kind) := instanceType type
    ⟨expression, kind, !(kind == .string && usage == .borrowedParameter), false⟩

def ofReference (reference : Option String) (field : Option String) (schema : Shown) :
    Except Failure MappedType :=
  let pointer := reference.getD ""
  if pointer ≠ "" then .ok (record pointer) else .error (.typeMapping field schema)

/-- The type for the three parts of a schema that decide it. The schema as a whole is only shown
when there is none. -/
def ofParts (format : Option String) (type : Option TypeChoice) (reference : Option String)
    (usage : Usage) (field : Option String) (schema : Shown) : Except Failure MappedType :=
  -- A format that is not known decides nothing.
  match format.bind formatType? with
  | some (name, kind) => .ok ⟨.ofText name, kind, true, false⟩
  | none =>
      match type with
      | some (.one single) => .ok (ofInstanceType single reference usage)
      | _ => ofReference reference field schema

/-- The reference that decides the type of a schema: for an array without one of its own, that of
its items. -/
def decidingReference (schema : Schema) : Option String :=
  match schema.reference with
  | some pointer => some pointer
  | none =>
      match schema.singleType?, schema.items with
      | some .array, some (.every (.schema item)) => item.reference
      | _, _ => none

def ofSchema (schema : Schema) (usage : Usage) (field : Option String) :
    Except Failure MappedType :=
  ofParts schema.format schema.type (decidingReference schema) usage field schema.outline

def wrapOptional (mapped : MappedType) (required : Bool) : MappedType :=
  if required || mapped.optional then mapped
  else { mapped with expression := .wrap "Optional" mapped.expression, optional := true }

def listOf (item : MappedType) : MappedType :=
  ⟨.wrap "List" item.expression, .list, item.owned, false⟩

end MappedType
end OpenApiClient
