import OpenApiClient.Checked
import OpenApiClient.Document.Shown

set_option autoImplicit false

namespace OpenApiClient

/-- Where the reason of a failure was written by a reader of some format, only its place in the
sentence is kept. -/
inductive Reason where
  | stated (text : String)
  | detail (introduction : String)

def detailMark : String := "<detail>"

def Reason.text : Reason → String
  | .stated text => text
  | .detail introduction => introduction ++ detailMark

inductive Failure where
  | documentLoad (source : String) (reason : Reason) (faults : Option (List Fault))
  | config (reason : Reason)
  | missingOperationId (method path : String)
  | duplicateOperation (operationId method path : String)
  | invalidReference (reference reason : String)
  | unresolvedReference (reference location : String)
  | referenceCycle (chain : List String)
  | taxonomyMismatch (expected actual : String) (location : Option String)
  | typeMapping (field : Option String) (schema : Shown)
  | unsupportedSchema (reason location : String)
  | unsupportedMediaType (location : String) (mediaTypes : List String)
  | serverConfig (server : Shown)

namespace Failure

def message : Failure → String
  | .documentLoad source reason _ =>
      "Не удалось загрузить спецификацию из " ++ source ++ ": " ++ reason.text
  | .config reason => reason.text
  | .missingOperationId method path =>
      "\"" ++ method ++ " " ++ path ++ "\" does not have operationId"
  | .duplicateOperation operationId method path =>
      "operationId \"" ++ operationId ++ "\" of \"" ++ method ++ " " ++ path ++
        "\" is already used"
  | .invalidReference reference reason => reason ++ " in \"" ++ reference ++ "\""
  | .unresolvedReference reference location =>
      location ++ ": reference \"" ++ reference ++ "\" does not point to an existing component"
  | .referenceCycle chain => "cyclic reference: " ++ String.intercalate " -> " chain
  | .taxonomyMismatch expected actual location =>
      (match location with
        | none => ""
        | some place => place ++ ": ") ++
        "resolved to unexpected type " ++ actual ++ ", expected `" ++ expected ++ "`"
  | .typeMapping field schema =>
      let subject :=
        match field with
        | none | some "" => "anonymous schema"
        | some name => name
      "Failed to map type for " ++ subject ++
        ". Unsupported instance_type and reference is None. Schema: " ++ schema.toText
  | .unsupportedSchema reason location => location ++ ": " ++ reason
  | .unsupportedMediaType location mediaTypes =>
      location ++ ": unknown media type(s) " ++ (Shown.texts mediaTypes).toText ++
        ", expected json, form data or octet stream"
  | .serverConfig server => "Server " ++ server.toText ++ " does not have `description`"

end Failure
end OpenApiClient
