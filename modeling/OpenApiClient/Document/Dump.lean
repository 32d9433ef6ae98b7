import OpenApiClient.Document.Basic

set_option autoImplicit false

namespace OpenApiClient

def setField {α : Type} (name : String) (value : Option α) (write : α → Value) :
    List (String × Value) :=
  match value with
  | none => []
  | some a => [(name, write a)]

def filledField {α : Type} (name : String) (items : List α) (write : List α → Value) :
    List (String × Value) :=
  if items.isEmpty then [] else [(name, write items)]

def trueField (name : String) (flag : Bool) : List (String × Value) :=
  if flag then [(name, .bool true)] else []

def TypeChoice.dump : TypeChoice → Value
  | .one t => .text t.name
  | .several types => .texts (types.map InstanceType.name)

mutual

def Schema.dump : Schema → Value
  | ⟨format, type, reference, items, properties, required, title, description, enum⟩ =>
      .record
        (setField "format" format .text
          ++ setField "type" type TypeChoice.dump
          ++ setField "$ref" reference .text
          ++ (match items with
              | none => []
              | some items => [("items", items.dump)])
          ++ (match properties with
              | none => []
              | some properties => [("properties", .record (Schema.dumpProperties properties))])
          ++ filledField "required" required .texts
          ++ setField "title" title .text
          ++ setField "description" description .text
          ++ setField "enum" enum .array)

def Subschema.dump : Subschema → Value
  | .schema schema => schema.dump
  | .boolean admitted => .bool admitted

def Items.dump : Items → Value
  | .every item => item.dump
  | .positional items => .array (Items.dumpList items)

def Items.dumpList : List Subschema → List Value
  | [] => []
  | item :: rest => item.dump :: Items.dumpList rest

def Schema.dumpProperties : List (String × Subschema) → List (String × Value)
  | [] => []
  | (name, property) :: rest => (name, property.dump) :: Schema.dumpProperties rest

end

def dumpEntries {α : Type} (write : α → Value) (entries : List (String × α)) : Value :=
  .record (entries.map fun entry => (entry.1, write entry.2))

def MediaType.dump (media : MediaType) : Value :=
  .record (setField "schema" media.schema Schema.dump)

def Content.dump (content : Content) : Value := dumpEntries MediaType.dump content

def Parameter.dump (parameter : Parameter) : Value :=
  .record
    ([("name", .text parameter.name), ("in", .text parameter.location)]
      ++ trueField "required" parameter.required
      ++ setField "description" parameter.description .text
      ++ trueField "deprecated" parameter.deprecated
      ++ setField "schema" parameter.schema Schema.dump
      ++ setField "content" parameter.content Content.dump)

def RequestBody.dump (body : RequestBody) : Value :=
  .record
    ([("content", Content.dump body.content)]
      ++ setField "description" body.description .text
      ++ trueField "required" body.required)

def Response.dump (response : Response) : Value :=
  .record
    (setField "description" response.description .text
      ++ filledField "content" response.content Content.dump)

def dumpReference (pointer : String) : Value := .record [("$ref", .text pointer)]

def Handle.dump {α : Type} (write : α → Value) : Handle α → Value
  | .reference pointer => dumpReference pointer
  | .inline entity => write entity

def dumpParameters (parameters : List (Handle Parameter)) : Value :=
  .array (parameters.map (Handle.dump Parameter.dump))

def Operation.dump (operation : Operation) : Value :=
  .record
    (setField "operationId" operation.operationId .text
      ++ setField "summary" operation.summary .text
      ++ setField "description" operation.description .text
      ++ filledField "tags" operation.tags .texts
      ++ trueField "deprecated" operation.deprecated
      ++ filledField "parameters" operation.parameters dumpParameters
      ++ setField "requestBody" operation.requestBody (Handle.dump RequestBody.dump)
      ++ filledField "responses" operation.responses
          (dumpEntries (Handle.dump Response.dump)))

def PathItem.dump (item : PathItem) : Value :=
  .record
    (setField "summary" item.summary .text
      ++ setField "description" item.description .text
      ++ filledField "parameters" item.parameters dumpParameters
      ++ Method.all.flatMap fun method =>
          setField method.key (item.operation? method) Operation.dump)

def Components.dump (components : Components) : Value :=
  .record
    (filledField "schemas" components.schemas (dumpEntries Schema.dump)
      ++ filledField "parameters" components.parameters
          (dumpEntries (Handle.dump Parameter.dump))
      ++ filledField "responses" components.responses (dumpEntries (Handle.dump Response.dump))
      ++ filledField "requestBodies" components.requestBodies
          (dumpEntries (Handle.dump RequestBody.dump)))

def ServerVariable.dump (choice : ServerVariable) : Value :=
  .record
    ([("default", .text choice.default)]
      ++ setField "enum" choice.enum .texts
      ++ setField "description" choice.description .text)

def Server.dump (server : Server) : Value :=
  .record
    ([("url", .text server.url)]
      ++ setField "description" server.description .text
      ++ filledField "variables" server.serverVariables (dumpEntries ServerVariable.dump))

def Info.dump (info : Info) : Value :=
  .record
    ((if info.title = Info.standard.title then [] else [("title", .text info.title)])
      ++ (if info.version = Info.standard.version then [] else [("version", .text info.version)])
      ++ setField "description" info.description .text)

def Document.dump (document : Document) : Value :=
  .record
    ((if document.version = Document.standardVersion then []
        else [("openapi", .text document.version)])
      ++ (if document.info = Info.standard then [] else [("info", document.info.dump)])
      ++ filledField "servers" document.servers (fun servers => .array (servers.map Server.dump))
      ++ filledField "paths" document.paths (dumpEntries PathItem.dump)
      ++ (if document.components.isEmpty then []
          else [("components", document.components.dump)]))

end OpenApiClient
