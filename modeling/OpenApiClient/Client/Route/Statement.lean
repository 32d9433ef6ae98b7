import OpenApiClient.Client.Route.Bodies
import OpenApiClient.Client.Route.Parameters
import OpenApiClient.Code.Function
import OpenApiClient.Text.Placeholder

set_option autoImplicit false

namespace OpenApiClient

open Code

structure Route where
  name : String
  description : Option String
  method : String
  path : String
  named : List Route.Named
  arguments : List Route.Argument
  payload : Option Route.Payload
  answer : Route.Answer

namespace Route

inductive Statement where
  | request (method : String) (path : Text.Template)
  | query (wireName identifier : String) (kind : TypeKind) (required : Bool)
  | attach (format : BodyFormat)
  | send
  | returnDecoded (type : Expression)
  | returnText
  | returnOctets

def converted (kind : TypeKind) (identifier : String) : String :=
  match kind with
  | .timestamp => identifier ++ ".isoformat()"
  | .map | .boolean => "json.dumps(" ++ identifier ++ ")"
  | .integer | .float => "str(" ++ identifier ++ ")"
  | .secret => identifier ++ ".get_secret_value()"
  | .record => identifier ++ ".model_dump_json(by_alias=True)"
  | .bytes => identifier ++ ".decode()"
  | .identifier | .unit | .list | .string => identifier

def queryText (wireName identifier : String) (kind : TypeKind) : String :=
  "builder.query(" ++ Json.literal wireName ++ ", " ++ converted kind identifier ++ ")"

def Statement.render : Statement → String
  | .request method path =>
      "builder = client.request(" ++ Json.literal method ++ ", " ++ path.literal ++ ")"
  | .query wireName identifier kind required =>
      if required then queryText wireName identifier kind
      else "if " ++ identifier ++ " is not None:\n\t" ++ queryText wireName identifier kind
  | .attach .json => "builder.json(payload)"
  | .attach .form => "builder.form(payload)"
  | .attach .octets => "builder.body(payload)"
  | .send => "response = await builder.send()"
  | .returnDecoded type =>
      "return TypeAdapter(" ++ type.render ++ ").validate_json(response.content)"
  | .returnText => "return response.text"
  | .returnOctets => "return response.content"

def Answer.type : Answer → Expression
  | .nothing => .ofText "None"
  | .decoded type => type.expression
  | .text => .ofText "str"
  | .octets => .ofText "bytes"

def Answer.statements : Answer → List Statement
  | .nothing => []
  | .decoded type => [.returnDecoded type.expression]
  | .text => [.returnText]
  | .octets => [.returnOctets]

/-- The argument for a placeholder of the path: that of the path parameter with this name, or the
name itself made into an identifier. -/
def placeholderName (named : List Named) (placeholder : String) : String :=
  match named.find? fun entry => parameterKey entry.parameter == (placeholder, "path") with
  | some entry => entry.identifier
  | none => Name.parameter placeholder

def pathTemplate (route : Route) : Text.Template :=
  Text.Template.ofText (placeholderName route.named) route.path

def queryStatements (arguments : List Argument) : List Statement :=
  (arguments.filter fun argument => argument.parameter.location = "query").map fun argument =>
    .query argument.parameter.name argument.identifier argument.type.kind
      argument.parameter.required

def statements (route : Route) : List Statement :=
  [.request route.method route.pathTemplate] ++ queryStatements route.arguments ++
    (match route.payload with
      | none => []
      | some payload => [.attach payload.format]) ++
    [.send] ++ route.answer.statements

def Argument.toParameter (argument : Argument) : Code.Parameter :=
  { name := argument.identifier
    default := if argument.parameter.required then none else some (.ofText "None")
    type := some (argument.type.wrapOptional argument.parameter.required).expression
    description := argument.parameter.description
    order := 0 }

def plainParameter (name : String) (type : Expression) : Code.Parameter :=
  { name := name, default := none, type := some type, description := none, order := 0 }

def signature (route : Route) : List Code.Parameter :=
  [plainParameter "client" (.ofText "ApiClient")] ++
    route.arguments.map Argument.toParameter ++
    match route.payload with
    | none => []
    | some payload => [plainParameter "payload" payload.type.expression]

def toFunction (route : Route) (order : Int) : Function :=
  { name := route.name
    parameters := route.signature
    response := route.answer.type.render
    asynchronous := true
    decorators := []
    description := route.description
    code := ⟨0, String.intercalate "\n" (route.statements.map Statement.render)⟩
    order := order }

end Route
end OpenApiClient
