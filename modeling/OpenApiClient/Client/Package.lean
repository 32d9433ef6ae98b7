import OpenApiClient.Client.Manifest
import OpenApiClient.Client.Models
import OpenApiClient.Client.Routes
import OpenApiClient.Client.Servers
import OpenApiClient.Document.Parse

set_option autoImplicit false

namespace OpenApiClient

/-- What can keep a package from being generated: a failure in the document, an option of the
project file that does not exist, or a text that the project file cannot hold. -/
inductive PackageError where
  | failure (failure : Failure)
  | unknownOption (name : String)
  | manifest (error : Toml.WriteError)

structure PackageSettings where
  packageName : String
  extraModules : List String
  manifest : List (String × Value)

namespace Package

def manifestOptions (document : Document) (given : List (String × Value)) :
    List (String × Value) :=
  -- A description that is given counts also when it is null.
  if Entries.contains given "description" then given
  else
    given ++ [("description", match document.info.description with
      | none => .null
      | some text => .text text)]

structure Generated where
  outcome : Except PackageError Code.Project
  log : List LogEntry

def stop (failure : Failure) (log : List LogEntry) : Generated :=
  ⟨.error (.failure failure), log⟩

def countEntry (count : Nat) (what : String) : LogEntry :=
  ⟨.info, .package, "Generated " ++ toString count ++ " " ++ what⟩

def withManifest (document : Document) (settings : PackageSettings) (files : Code.Project) :
    Except PackageError Code.Project :=
  match Manifest.options (manifestOptions document settings.manifest) with
  | .error name => .error (.unknownOption name)
  | .ok options =>
      match Manifest.file settings.packageName options with
      | .error error => .error (.manifest error)
      | .ok file => .ok (files ++ [file])

def ofDocument (settings : PackageSettings) (document : Document) : Generated :=
  let folder := settings.packageName
  let models := Models.generate folder settings.extraModules document.components.schemas
  match models.outcome with
  | .error failure => stop failure models.log
  | .ok modelNames =>
      let log := models.log ++ [countEntry modelNames.length "models"]
      let routes := Routes.generate folder document
      match routes.outcome with
      | .error failure => stop failure (log ++ routes.log)
      | .ok routeNames =>
          let log := log ++ routes.log ++ [countEntry routeNames.length "routes"]
          let servers := Servers.generate folder document.servers routeNames
          let log := log ++ servers.log
          match servers.failure with
          | some failure => stop failure log
          | none =>
              ⟨withManifest document settings
                (models.files ++ [routes.file] ++ servers.files), log⟩

def generate (settings : PackageSettings) (spec : Value) (source : Option String) : Generated :=
  let parsed := Document.parse spec source
  match parsed.outcome with
  | .error failure => stop failure parsed.log
  | .ok document =>
      let generated := ofDocument settings document
      ⟨generated.outcome, parsed.log ++ generated.log⟩

end Package
end OpenApiClient
