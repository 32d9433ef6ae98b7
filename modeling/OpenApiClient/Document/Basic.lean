import OpenApiClient.Document.Schema
import OpenApiClient.Entries

set_option autoImplicit false

namespace OpenApiClient

structure MediaType where
  schema : Option Schema

abbrev Content := List (String × MediaType)

structure Parameter where
  name : String
  location : String
  required : Bool
  description : Option String
  deprecated : Bool
  schema : Option Schema
  content : Option Content

structure RequestBody where
  content : Content
  description : Option String
  required : Bool

structure Response where
  description : Option String
  content : Content

inductive Handle (α : Type) where
  | reference (pointer : String)
  | inline (entity : α)

structure Operation where
  operationId : Option String
  summary : Option String
  description : Option String
  tags : List String
  deprecated : Bool
  parameters : List (Handle Parameter)
  requestBody : Option (Handle RequestBody)
  responses : List (String × Handle Response)

inductive Method where
  | get
  | put
  | post
  | delete
  | patch
  | head
  | options
  | trace
  deriving DecidableEq

namespace Method

def generated : List Method := [.get, .put, .post, .delete, .patch]

def ignored : List Method := [.head, .options, .trace]

def all : List Method := generated ++ ignored

def name : Method → String
  | .get => "GET"
  | .put => "PUT"
  | .post => "POST"
  | .delete => "DELETE"
  | .patch => "PATCH"
  | .head => "HEAD"
  | .options => "OPTIONS"
  | .trace => "TRACE"

def key : Method → String
  | .get => "get"
  | .put => "put"
  | .post => "post"
  | .delete => "delete"
  | .patch => "patch"
  | .head => "head"
  | .options => "options"
  | .trace => "trace"

def ofName? (name : String) : Option Method :=
  all.find? fun method => method.name == name

end Method

structure PathItem where
  summary : Option String
  description : Option String
  parameters : List (Handle Parameter)
  get : Option Operation
  put : Option Operation
  post : Option Operation
  delete : Option Operation
  patch : Option Operation
  head : Option Operation
  options : Option Operation
  trace : Option Operation

namespace PathItem

def operation? (item : PathItem) : Method → Option Operation
  | .get => item.get
  | .put => item.put
  | .post => item.post
  | .delete => item.delete
  | .patch => item.patch
  | .head => item.head
  | .options => item.options
  | .trace => item.trace

def operations (item : PathItem) : List (Method × Operation) :=
  Method.generated.filterMap fun method =>
    (item.operation? method).map fun operation => (method, operation)

end PathItem

structure Components where
  schemas : List (String × Schema)
  parameters : List (String × Handle Parameter)
  responses : List (String × Handle Response)
  requestBodies : List (String × Handle RequestBody)

def Components.empty : Components := ⟨[], [], [], []⟩

def Components.isEmpty (components : Components) : Bool :=
  components.schemas.isEmpty && components.parameters.isEmpty &&
    components.responses.isEmpty && components.requestBodies.isEmpty

structure ServerVariable where
  default : String
  enum : Option (List String)
  description : Option String

structure Server where
  url : String
  description : Option String
  serverVariables : List (String × ServerVariable)

structure Info where
  title : String
  version : String
  description : Option String
  deriving DecidableEq

def Info.standard : Info := ⟨"API", "0.1.0", none⟩

structure Document where
  version : String
  info : Info
  servers : List Server
  paths : List (String × PathItem)
  components : Components

def Document.standardVersion : String := "3.0.0"

def Document.operations (document : Document) :
    List (String × PathItem × Method × Operation) :=
  document.paths.flatMap fun (path, item) =>
    item.operations.map fun (method, operation) => (path, item, method, operation)

end OpenApiClient
