import OpenApiClient.Client.Manifest
import OpenApiClient.Failure
import OpenApiClient.FileTree.Basic
import OpenApiClient.Toml.Read
import OpenApiClient.Toml.Write

set_option autoImplicit false

namespace OpenApiClient

structure Settings where
  url : Value
  folder : Value
  packageName : Value
  version : Value
  license : Value
  description : Value
  readme : Value
  documentation : Value
  repository : Value
  models : Value

inductive SettingsError where
  | failure (failure : Failure)
  | file (failure : FileFailure)
  | undecodable
  | reading (error : Toml.ReadError)

inductive SaveError where
  | file (failure : FileFailure)
  | text (error : Toml.WriteError)

namespace Settings

def unset : Settings :=
  { url := .null
    folder := .null
    packageName := .null
    version := .null
    license := .null
    description := .null
    readme := .null
    documentation := .null
    repository := .null
    models := .array [] }

def fields (settings : Settings) : List (String × Value) :=
  [("url", settings.url), ("dirname", settings.folder), ("package_name", settings.packageName),
    ("version", settings.version), ("license", settings.license),
    ("description", settings.description), ("readme", settings.readme),
    ("documentation", settings.documentation), ("repository", settings.repository),
    ("models", settings.models)]

def names : List String := (fields unset).map Prod.fst

def ofFieldsOver (base : Settings) (given : List (String × Value)) : Settings :=
  let field (name : String) (default : Value) : Value := (Entries.get? given name).getD default
  { url := field "url" base.url
    folder := field "dirname" base.folder
    packageName := field "package_name" base.packageName
    version := field "version" base.version
    license := field "license" base.license
    description := field "description" base.description
    readme := field "readme" base.readme
    documentation := field "documentation" base.documentation
    repository := field "repository" base.repository
    models := field "models" base.models }

def ofFields? (given : List (String × Value)) : Option Settings :=
  if given.all fun field => names.contains field.1 then some (ofFieldsOver unset given) else none

def fileName : String := "openapi.toml"

def pathIn (tree : FileTree) (path : String) (folder : Option String) : String :=
  match folder with
  | none => path
  | some folder =>
      let inside := Path.join folder fileName
      if folder ≠ "" ∧ tree.isFolder folder ∧ tree.has inside then inside else path

def ofTable (path : String) (table : Toml.Table) : Except Failure Settings :=
  let given := table.map fun entry => (Json.keyName entry.1, entry.2)
  let unknown := (given.map Prod.fst).filter fun name => !names.contains name
  if !unknown.isEmpty then
    .error (.config (.stated ("Неизвестные параметры в " ++ path ++ ": " ++
      String.intercalate ", " (unknown.mergeSort fun a b => decide (a ≤ b)))))
  else
    match (Entries.get? given "models").getD (.array []) with
    | .array _ => .ok (ofFieldsOver unset given)
    | _ => .error (.config (.stated ("`models` в " ++ path ++ " должен быть списком")))

def load (tree : FileTree) (path : String) (folder : Option String) :
    Except SettingsError (Option Settings) :=
  let path := pathIn tree path folder
  if !tree.has path then .ok none
  else
    match tree.read path with
    | .error (.file failure) => .error (.file failure)
    | .error .undecodable => .error .undecodable
    | .ok text =>
        match Toml.read text with
        | .error .malformed =>
            .error (.failure (.config (.detail ("Некорректный конфиг " ++ path ++ ": "))))
        | .error error => .error (.reading error)
        | .ok table =>
            match ofTable path table with
            | .ok settings => .ok (some settings)
            | .error failure => .error (.failure failure)

def isSaved : Value → Bool
  | .scalar .null => false
  | .array items => !items.isEmpty
  | _ => true

def toTable (settings : Settings) : Toml.Table :=
  (settings.fields.filter fun field => isSaved field.2).map fun field =>
    (.text field.1, field.2)

def save (settings : Settings) (tree : FileTree) (path : String) : FileTree × Option SaveError :=
  match tree.write path "" with
  | .error failure => (tree, some (.file failure))
  | .ok emptied =>
      match Toml.write settings.toTable with
      | .error error => (emptied, some (.text error))
      | .ok text =>
          match tree.write path text with
          | .ok saved => (saved, none)
          | .error failure => (emptied, some (.file failure))

def argumentNames : List (String × String) :=
  [("file", "url"), ("output", "dirname"), ("package_name", "package_name"),
    ("package_version", "version"), ("license", "license"), ("description", "description"),
    ("readme", "readme"), ("documentation", "documentation"), ("repository", "repository")]

def parts? : Value → Option (List Value)
  | .array items => some items
  | .scalar (.text s) => some (s.toList.map fun c => .text (String.singleton c))
  | .object entries => some (entries.map fun entry => .scalar entry.1)
  | _ => none

/-- The settings with the values of arguments in place of their own. A list of models replaces the
own one unless it is empty. A value for the models that has no parts is refused. -/
def merge? (settings : Settings) (arguments : List (String × Value)) : Option Settings :=
  let given := argumentNames.filterMap fun (argument, name) =>
    match Entries.get? arguments argument with
    | none => none
    | some value => if value.isNull then none else some (name, value)
  let merged := ofFieldsOver settings given
  let models := (Entries.get? arguments "models").getD .null
  if models.isFilled then (parts? models).map fun items => { merged with models := .array items }
  else some merged

def manifestOptions (settings : Settings) : List (String × Value) :=
  [("version", settings.version), ("license", settings.license),
    ("description", settings.description), ("readme", settings.readme),
    ("documentation", settings.documentation), ("repository", settings.repository)].filter
      fun option => !option.2.isNull

end Settings
end OpenApiClient
