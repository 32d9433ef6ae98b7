import OpenApiClient.Failure
import OpenApiClient.FileTree.Basic
import OpenApiClient.Json.Read
import OpenApiClient.Web.Address
import OpenApiClient.Web.Page
import OpenApiClient.Yaml.Built

set_option autoImplicit false

namespace OpenApiClient

/-- What keeps a description from being loaded. A value that is recognised by its form but has no
meaning is no failure of the description as a whole. -/
inductive LoadError where
  | failure (failure : Failure)
  | file (failure : FileFailure)
  | undecodable
  | longInteger
  | value (error : Yaml.ReadError)
  | badAddress
  | badContentType
  | charset (error : Web.CharsetError)

inductive Format where
  | json
  | yaml
  deriving DecidableEq

namespace Load

def failure (source : String) (reason : Reason) : LoadError :=
  .failure (.documentLoad source reason none)

def malformed (source : String) : LoadError :=
  failure source (.detail "Failed to parse OpenAPI document: ")

def readText (format : Format) (source text : String) : Except LoadError Value :=
  match format with
  | .json =>
      match Json.read text with
      | .ok value => .ok value
      | .error .malformed => .error (malformed source)
      | .error .longInteger => .error .longInteger
  | .yaml =>
      match Yaml.read text with
      | .ok value => .ok value
      | .error .malformed => .error (malformed source)
      | .error error => .error (.value error)

def checkObject (source : String) (value : Value) : Except LoadError Value :=
  match value with
  | .object entries => .ok (.object entries)
  | _ => .error (failure source (.stated "document root must be a mapping"))

def ofText (format : Format) (source text : String) : Except LoadError Value :=
  match readText format source text with
  | .ok value => checkObject source value
  | .error error => .error error

def formatOfExtension? (extension : String) : Option Format :=
  let extension := extension.toLower
  if extension = ".json" then some .json
  else if extension = ".yml" ∨ extension = ".yaml" then some .yaml
  else none

def textOfFile (tree : FileTree) (path : String) : Except LoadError (Format × String) :=
  if !tree.isFile path then .error (failure path (.stated "Open API file not found"))
  else
    match formatOfExtension? (Path.extension path) with
    | none =>
        .error (failure path
          (.stated "Input needs to be a YAML or JSON file (.yml, .yaml or .json)"))
    | some format =>
        match tree.read path with
        | .ok text => .ok (format, text)
        | .error .undecodable => .error .undecodable
        | .error (.file failure) => .error (.file failure)

def isAddress (source : String) : Bool :=
  "http://".isPrefixOf source || "https://".isPrefixOf source

def formatOfPage (url : String) (page : Web.Page) : Format :=
  let isJson := Text.contains "json".toList page.contentType.toList ||
    ".json".toList.reverse.isPrefixOf url.toList.reverse
  if isJson then .json else .yaml

def textOfPage (url : String) (page : Web.Page) : Except LoadError (Format × String) :=
  if !page.contentType.toList.all fun c => c.toNat < 0x80 then .error .badContentType
  else if !page.isSuccess then .error (failure url (.detail ""))
  else
    match page.text with
    | .ok text => .ok (formatOfPage url page, text)
    | .error error => .error (.charset error)

def textOfAnswer (url : String) : Web.Answer → Except LoadError (Format × String)
  | .page page => textOfPage url page
  | .unreached reason => .error (failure url (if reason = "" then .stated "" else .detail ""))

def textOfSource (fetch : String → Web.Answer) (tree : FileTree) (source : String) :
    Except LoadError (Format × String) :=
  if !isAddress source then textOfFile tree source
  else if Web.Address.isUsable source then textOfAnswer source (fetch source)
  else .error .badAddress

def ofSource (fetch : String → Web.Answer) (tree : FileTree) (source : String) :
    Except LoadError Value :=
  match textOfSource fetch tree source with
  | .ok (format, text) => ofText format source text
  | .error error => .error error

end Load
end OpenApiClient
