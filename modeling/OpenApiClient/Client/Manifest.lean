import OpenApiClient.Code.File
import OpenApiClient.Toml.Write

set_option autoImplicit false

namespace OpenApiClient

structure ManifestOptions where
  version : Value
  description : Value
  license : Value
  readme : Value
  documentation : Value
  repository : Value

def Value.isFilled : Value → Bool
  | .scalar .null => false
  | .scalar (.bool b) => b
  | .scalar (.int n) => n != 0
  | .scalar (.float x) => x.toInt? != some 0
  | .scalar (.text s) => s != ""
  | .scalar (.timestamp _) | .scalar (.time _) => true
  | .array items => !items.isEmpty
  | .object entries => !entries.isEmpty

namespace Manifest

def optionNames : List String :=
  ["version", "description", "license", "readme", "documentation", "repository"]

def options (given : List (String × Value)) : Except String ManifestOptions :=
  match given.find? fun option => !optionNames.contains option.1 with
  | some (name, _) => .error name
  | none =>
      let option (name : String) : Value := (Entries.get? given name).getD .null
      .ok ⟨option "version", option "description", option "license", option "readme",
        option "documentation", option "repository"⟩

def standardVersion : String := "0.1.0"

def dependencies : List String := ["httpx>=0.24.0", "pydantic>=2.5.0"]

def filledEntry (name : String) (value written : Value) : List (String × Value) :=
  if value.isFilled then [(name, written)] else []

def projectName (packageName : String) : String :=
  String.ofList (Text.replaceChar '_' ['-'] packageName.toList)

def urls (options : ManifestOptions) : List (String × Value) :=
  filledEntry "Documentation" options.documentation options.documentation ++
    filledEntry "Repository" options.repository options.repository

def build (packageName : String) (options : ManifestOptions) : Value :=
  let version := if options.version.isFilled then options.version else .text standardVersion
  let links := urls options
  let project :=
    [("name", Value.text (projectName packageName)), ("version", version)] ++
      filledEntry "description" options.description options.description ++
      filledEntry "license" options.license (.record [("text", options.license)]) ++
      filledEntry "readme" options.readme options.readme ++
      [("requires-python", .text ">=3.10"), ("dependencies", .texts dependencies)] ++
      if links.isEmpty then [] else [("urls", .record links)]
  .record
    [("build-system", .record
        [("requires", .texts ["setuptools>=61.0"]),
          ("build-backend", .text "setuptools.build_meta")]),
      ("project", .record project),
      ("tool", .record
        [("setuptools", .record
          [("packages", .texts [packageName, packageName ++ ".models"])])])]

def write (manifest : Value) : Except Toml.WriteError String :=
  match manifest with
  | .object entries => Toml.write entries
  | _ => .ok ""

def file (packageName : String) (options : ManifestOptions) : Except Toml.WriteError Code.File :=
  match write (build packageName options) with
  | .error e => .error e
  | .ok text => .ok ((Code.File.named "pyproject.toml").addBlock ⟨0, text⟩)

end Manifest
end OpenApiClient
