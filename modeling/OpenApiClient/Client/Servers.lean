import OpenApiClient.Client.Collected
import OpenApiClient.Client.Templates
import OpenApiClient.Code.File
import OpenApiClient.Name.Reserved
import OpenApiClient.Text.Placeholder

set_option autoImplicit false

namespace OpenApiClient

def ServerVariable.outline (choice : ServerVariable) : Shown :=
  .named
    ([("default", .text choice.default)] ++ setShown "enum" choice.enum Shown.texts ++
      setShown "description" choice.description .text)

def Server.outline (server : Server) : Shown :=
  .named
    ([("url", .text server.url)] ++ setShown "description" server.description .text ++
      if server.serverVariables.isEmpty then []
      else
        [("variables", .named (server.serverVariables.map fun entry =>
          (entry.1, entry.2.outline)))])

namespace Servers

open Code

structure Argument where
  wireName : String
  choice : ServerVariable
  identifier : String

structure ServerClient where
  name : String
  url : String
  arguments : List Argument

inductive Statement where
  | standard (identifier value : String)
  | url (template : Text.Template)
  | config
  | returnClient

def timeoutText : String := "30.0"

def Statement.render : Statement → String
  | .standard identifier value =>
      "if " ++ identifier ++ " is None:\n\t" ++ identifier ++ " = " ++ Json.literal value
  | .url template => "url = " ++ template.literal
  | .config => "config = default_config(" ++ timeoutText ++ ", None, None)"
  | .returnClient => "return ApiClient(config, url)"

/-- The argument for a placeholder of the address: that of the variable with this name, or the name
itself made into an identifier. -/
def placeholderName (arguments : List Argument) (placeholder : String) : String :=
  match arguments.find? fun argument => argument.wireName == placeholder with
  | some argument => argument.identifier
  | none => Name.identifier placeholder []

namespace ServerClient

def urlTemplate (client : ServerClient) : Text.Template :=
  Text.Template.ofText (placeholderName client.arguments) client.url

def statements (client : ServerClient) : List Statement :=
  client.arguments.map (fun argument => .standard argument.identifier argument.choice.default) ++
    [.url client.urlTemplate, .config, .returnClient]

def signature (client : ServerClient) : List Code.Parameter :=
  client.arguments.map fun argument =>
    { name := argument.identifier
      default := some (.ofText "None")
      type := some (.wrapText "Optional" "str")
      description := argument.choice.description
      order := 0 }

def toFunction (client : ServerClient) (order : Int) : Function :=
  { name := client.name
    parameters := client.signature
    response := "ApiClient"
    asynchronous := false
    decorators := []
    description := some client.url
    code := ⟨0, String.intercalate "\n" (client.statements.map Statement.render)⟩
    order := order }

end ServerClient

def suggestedName (description : String) : String :=
  let shortened := String.ofList (Text.eraseFirst "servers".toList description.toList)
  let folded := Name.snakeOr "server" shortened
  (if Name.beginsWithDigit folded then "server_" ++ folded else folded) ++ "_client"

def distinctName (earlier routes : List String) (name : String) : Logged String :=
  if earlier.contains name || routes.contains name then do
    let reason := if earlier.contains name then "is defined twice" else "clashes with an operation"
    -- Numbers begin at the count of the servers before this one.
    let renamed := Name.firstFree (earlier ++ routes) name (max earlier.length 1)
    Logged.warn .servers
      ("Server client " ++ name ++ " " ++ reason ++ ", renamed to " ++ renamed)
    pure renamed
  else pure name

def argumentOf (entry : String × ServerVariable) : Argument :=
  ⟨entry.1, entry.2, Name.identifier entry.1 ["url", "config"]⟩

def serverClient (earlier routes : List String) (server : Server) : Logged ServerClient :=
  match server.description with
  | none | some "" => Logged.fail (.serverConfig server.outline)
  | some description => do
      let name ← distinctName earlier routes (suggestedName description)
      pure ⟨name, server.url, server.serverVariables.map argumentOf⟩

def clientsFrom (routes earlier : List String) : List Server → Collected ServerClient
  | [] => .empty
  | server :: rest =>
      let client := serverClient earlier routes server
      match client.outcome with
      | .error failure => .stop failure client.log
      | .ok made => .cons made client.log (clientsFrom routes (earlier ++ [made.name]) rest)

def clients (routes : List String) (servers : List Server) : Collected ServerClient :=
  clientsFrom routes [] servers

def functionsFrom (order : Int) (clients : List ServerClient) : List Function :=
  Function.numberedDown ServerClient.toFunction order clients

def primitivesFile (folder : String) : File :=
  (File.named (folder ++ "/primitives.py")).addBlock ⟨0, Templates.primitives⟩

def packageName (folder : String) : String :=
  String.ofList (Name.afterLastSlash folder.toList)

def clientsFile (folder : String) (count : Nat) (clients : List ServerClient) : File :=
  let userAgent := Json.literal (packageName folder ++ " Python API client")
  (functionsFrom count clients).foldl File.addFunction
    ((File.named (folder ++ "/clients.py")).addBlock ⟨count + 1, Templates.clients userAgent⟩)

def builderFile (folder : String) : File :=
  (File.named (folder ++ "/builder.py")).addBlock ⟨0, Templates.builder⟩

def importLine (module : String) (names : List String) : String :=
  if names.length ≤ 3 then
    "from " ++ module ++ " import " ++ String.intercalate ", " names
  else
    "from " ++ module ++ " import (\n" ++
      String.join (names.map fun name => "    " ++ name ++ ",\n") ++ ")"

def exports (clients routes : List String) : List String :=
  ["models", "ApiClient", "ApiClientBuilder", "RequestBuilder", "default_config"] ++ clients ++
    routes

def indexFile (folder : String) (clients routes : List String) : File :=
  { File.named (folder ++ "/__init__.py") with
    imports :=
      ["# Auto-generated API client",
        "from . import models",
        "from .builder import ApiClientBuilder",
        importLine ".clients" (["ApiClient", "RequestBuilder", "default_config"] ++ clients)] ++
        (if routes.isEmpty then [] else [importLine ".routes" routes])
    blocks := [⟨0, "__all__ = " ++ Json.literalList (exports clients routes)⟩] }

structure Generated where
  files : Project
  names : List String
  failure : Option Failure
  log : List LogEntry

def generate (folder : String) (servers : List Server) (routes : List String) : Generated :=
  let collected := clients routes servers
  let names := collected.items.map ServerClient.name
  let files := [primitivesFile folder, clientsFile folder servers.length collected.items]
  match collected.failure with
  | some failure => ⟨files, names, some failure, collected.log⟩
  | none =>
      ⟨files ++ [builderFile folder, indexFile folder names routes], names, none, collected.log⟩

end Servers
end OpenApiClient
