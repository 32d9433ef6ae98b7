import OpenApiClient.Client.Collected
import OpenApiClient.Client.TypeMapping
import OpenApiClient.Code.File
import OpenApiClient.Json.Literal

set_option autoImplicit false

namespace OpenApiClient.Models

structure Field where
  name : String
  wireName : String
  type : MappedType
  required : Bool

namespace Field

def default (field : Field) : String :=
  if field.required then "Field(alias=" ++ Json.literal field.wireName ++ ")"
  else "Field(default=None, alias=" ++ Json.literal field.wireName ++ ")"

def toParameter (field : Field) : Code.Parameter :=
  { name := field.name
    default := some (.ofText field.default)
    type := some (field.type.wrapOptional field.required).expression
    description := none
    order := 0 }

end Field

def fieldOf (model wireName : String) (property : Subschema) (required : List String) :
    Except Failure Field :=
  let location := model ++ "." ++ wireName
  match property with
  | .boolean _ =>
      .error (.unsupportedSchema "boolean schema is not supported for model fields" location)
  | .schema schema =>
      match MappedType.ofSchema schema .owned (some location) with
      | .error failure => .error failure
      | .ok type =>
          .ok ⟨Name.identifier wireName Name.recordModuleNames, wireName, type,
            required.contains wireName⟩

def distinct (model : String) (taken : Entries String String) (field : Field) : Logged Field :=
  match taken.get? field.name with
  | none => pure field
  | some holder => do
      let renamed := Name.firstFree taken.keys field.name 2
      Logged.warn .models
        (model ++ "." ++ field.wireName ++ " clashes with " ++ model ++ "." ++ holder ++
          ", field renamed to " ++ renamed)
      pure { field with name := renamed }

def fieldsFrom (model : String) (required : List String) (taken : Entries String String) :
    List (String × Subschema) → Collected Field
  | [] => .empty
  | (wireName, property) :: rest =>
      match fieldOf model wireName property required with
      | .error failure => .stop failure []
      | .ok field =>
          let placed := distinct model taken field
          match placed.outcome with
          | .error failure => .stop failure placed.log
          | .ok field =>
              .cons field placed.log
                (fieldsFrom model required (taken.put field.name wireName) rest)

def fields (model : String) (schema : Schema) : Collected Field :=
  match schema.properties with
  | none =>
      ⟨[], none, [⟨.warning, .models, model ++ " had no object. probably an enum?"⟩]⟩
  | some properties => fieldsFrom model schema.required [] properties

def imports : List String :=
  ["from __future__ import annotations",
    "",
    "from datetime import datetime",
    "from typing import Any, Dict, List, Optional",
    "",
    "from pydantic import BaseModel, ConfigDict, Field",
    "",
    "from ..primitives import Base64Uuid, Float32, Float64, Int32, Int64, SecureString"]

def lateImport : String := "from .. import models  # noqa: E402"

def recordConfig : String := "model_config = ConfigDict(populate_by_name=True)"

structure ModelName where
  className : String
  stem : String

def modelName (name : String) : ModelName :=
  let className := Name.pascal name
  ⟨className, Name.snakeOr (className.map Name.lowerChar) name⟩

def recordClass (className : String) (description : Option String) (fields : List Field) :
    Code.Class :=
  { name := className
    functions := []
    blocks := [⟨1, recordConfig⟩]
    parameters := fields.map Field.toParameter
    bases := ["BaseModel"]
    description := description
    order := 0 }

def recordFile (folder : String) (name : ModelName) (schema : Schema) (fields : List Field) :
    Code.File :=
  { Code.File.named (folder ++ "/models/" ++ name.stem ++ ".py") with
    imports := imports
    blocks := [⟨-1, lateImport⟩]
    classes := [(name.className, recordClass name.className schema.description fields)] }

structure Model where
  name : ModelName
  file : Code.File

def isTaken (earlier : List ModelName) (name : ModelName) : Bool :=
  earlier.any fun other => other.className == name.className || other.stem == name.stem

def modelsFrom (folder : String) (earlier : List ModelName) :
    List (String × Schema) → Collected Model
  | [] => .empty
  | (name, schema) :: rest =>
      let named := modelName name
      if isTaken earlier named then
        .stop (.unsupportedSchema
          ("model name \"" ++ named.className ++ "\" is already used by another schema")
          ("#/components/schemas/" ++ name)) []
      else
        let collected := fields name schema
        let model : Model := ⟨named, recordFile folder named schema collected.items⟩
        -- The file of a record that failed is kept with the fields it has.
        match collected.failure with
        | some failure => ⟨[model], some failure, collected.log⟩
        | none => .cons model collected.log (modelsFrom folder (earlier ++ [named]) rest)

def models (folder : String) (schemas : List (String × Schema)) : Collected Model :=
  modelsFrom folder [] schemas

def indexFile (folder : String) (extraModules : List String) (names : List ModelName) :
    Code.File :=
  let classNames := names.map ModelName.className
  let rebuild :=
    if classNames.isEmpty then []
    else
      [⟨0, String.intercalate "\n" (classNames.map fun name => name ++ ".model_rebuild()")⟩]
  { Code.File.named (folder ++ "/models/__init__.py") with
    imports :=
      ["# Auto-generated models"] ++
        names.map (fun name => "from ." ++ name.stem ++ " import " ++ name.className) ++
        extraModules.map fun name => "from " ++ name ++ " import *  # noqa: F401,F403"
    blocks := ⟨1, "__all__ = " ++ Json.literalList classNames⟩ :: rebuild }

structure Generated where
  files : Code.Project
  outcome : Except Failure (List String)
  log : List LogEntry

def generate (folder : String) (extraModules : List String) (schemas : List (String × Schema)) :
    Generated :=
  let collected := models folder schemas
  let names := collected.items.map Model.name
  let files := collected.items.map Model.file
  match collected.failure with
  | some failure => ⟨files, .error failure, collected.log⟩
  | none =>
      ⟨files ++ [indexFile folder extraModules names], .ok (names.map ModelName.className),
        collected.log⟩

end OpenApiClient.Models
