import OpenApiClient.Document.Read
import OpenApiClient.Logged

set_option autoImplicit false

namespace OpenApiClient

def Schema.declared (schema : Schema) : List String :=
  match schema.properties with
  | none => []
  | some properties => properties.map Prod.fst

def Schema.undeclared (schema : Schema) : List String :=
  schema.required.filter fun name => !schema.declared.contains name

mutual

def Schema.prune : Schema → Schema
  | ⟨format, type, reference, items, properties, required, title, description, enum⟩ =>
      ⟨format, type, reference, items,
        match properties with
        | none => none
        | some properties => some (Schema.pruneProperties properties),
        required.filter fun name =>
          (match properties with
          | none => []
          | some properties => properties.map Prod.fst).contains name,
        title, description, enum⟩

def Subschema.prune : Subschema → Subschema
  | .schema schema => .schema schema.prune
  | .boolean admitted => .boolean admitted

def Schema.pruneProperties : List (String × Subschema) → List (String × Subschema)
  | [] => []
  | (name, property) :: rest => (name, property.prune) :: Schema.pruneProperties rest

end

def Schema.undeclaredWarning (name : String) (schema : Schema) : List LogEntry :=
  if schema.undeclared.isEmpty then []
  else
    [⟨.warning, .document,
      name ++ ": required fields " ++ (Shown.texts schema.undeclared).toText ++
        " are not declared in properties, ignoring"⟩]

mutual

def Schema.pruneWarnings (name : String) : Schema → List LogEntry
  | ⟨format, type, reference, items, properties, required, title, description, enum⟩ =>
      (match properties with
        | none => []
        | some properties => Schema.propertyWarnings name properties) ++
        Schema.undeclaredWarning name
          ⟨format, type, reference, items, properties, required, title, description, enum⟩

def Subschema.pruneWarnings (name : String) : Subschema → List LogEntry
  | .schema schema => schema.pruneWarnings name
  | .boolean _ => []

def Schema.propertyWarnings (name : String) : List (String × Subschema) → List LogEntry
  | [] => []
  | (field, property) :: rest =>
      property.pruneWarnings (name ++ "." ++ field) ++ Schema.propertyWarnings name rest

end

namespace Document

def prune (document : Document) : Document :=
  { document with
    components :=
      { document.components with
        schemas := document.components.schemas.map fun entry => (entry.1, entry.2.prune) } }

def pruneWarnings (document : Document) : List LogEntry :=
  document.components.schemas.flatMap fun entry => entry.2.pruneWarnings entry.1

def ignoredNotes (document : Document) : List LogEntry :=
  document.paths.flatMap fun (path, item) =>
    Method.ignored.filterMap fun method =>
      (item.operation? method).map fun _ =>
        ⟨.debug, .document, method.name ++ " " ++ path ++ " is not generated"⟩

def sourceName (source : Option String) : String :=
  match source with
  | none | some "" => "<dict>"
  | some name => name

def parse (spec : Value) (source : Option String) : Logged Document :=
  match Document.read spec with
  | .faulty faults =>
      .fail (.documentLoad (sourceName source) (.detail "") (some faults))
  | .valid document => ⟨.ok document.prune, document.pruneWarnings ++ document.ignoredNotes⟩

end Document
end OpenApiClient
