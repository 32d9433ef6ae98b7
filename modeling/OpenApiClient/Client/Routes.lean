import OpenApiClient.Client.Collected
import OpenApiClient.Client.Route.Statement
import OpenApiClient.Code.File

set_option autoImplicit false

namespace OpenApiClient

namespace Route

structure Registered where
  operationIds : List String
  functionNames : Entries String String

def Registered.empty : Registered := ⟨[], []⟩

def register (registered : Registered) (method path : String) (operation : Operation) :
    Except Failure (String × Registered) :=
  let operationId := operation.operationId.getD ""
  if operationId = "" then .error (.missingOperationId method path)
  else
    let name := Name.function operationId
    -- Different ids may fold to one name.
    if registered.operationIds.contains operationId || registered.functionNames.contains name then
      .error (.duplicateOperation operationId method path)
    else
      .ok (name, ⟨registered.operationIds ++ [operationId],
        registered.functionNames.put name operationId⟩)

def about (operation : Operation) : Option String :=
  match operation.description with
  | none | some "" => operation.summary
  | some description => some description

def warnUnknownPlaces (place : String) : List Argument → Logged Unit
  | [] => pure ()
  | argument :: rest => do
      if argument.parameter.location ≠ "path" ∧ argument.parameter.location ≠ "query" then
        Logged.warn .routes
          ("unknown `in`: " ++ argument.parameter.location ++ " (" ++ place ++ ")")
      warnUnknownPlaces place rest

def ofOperation (components : Components) (name path : String) (item : PathItem)
    (method : String) (operation : Operation) : Logged Route := do
  let place := location method path
  Logged.debug .routes ("Generating " ++ name ++ " for " ++ place)
  let parameters ← collectParameters components item operation place
  let named ← nameParameters place [] parameters
  let arguments ← typeParameters place named
  let payload ← requestPayload components operation place
  let answer ← expectedAnswer components operation place
  warnUnknownPlaces place arguments
  pure
    { name := name
      description := about operation
      method := method
      path := path
      named := named
      arguments := arguments
      payload := payload
      answer := answer }

def generate (components : Components) (registered : Registered) (path : String)
    (item : PathItem) (method : String) (operation : Operation) : Registered × Logged Route :=
  match register registered method path operation with
  | .error failure => (registered, .fail failure)
  | .ok (name, next) => (next, ofOperation components name path item method operation)

end Route

namespace Routes

def imports : List String :=
  ["from __future__ import annotations",
    "",
    "import json",
    "from datetime import datetime",
    "from typing import Any, Dict, List, Optional",
    "",
    "from pydantic import TypeAdapter",
    "",
    "from . import models",
    "from .clients import ApiClient",
    "from .primitives import Base64Uuid, Float32, Float64, Int32, Int64, SecureString"]

def routesFrom (components : Components) (registered : Route.Registered) :
    List (String × PathItem × Method × Operation) → Collected Route
  | [] => .empty
  | (path, item, method, operation) :: rest =>
      let (next, route) := Route.generate components registered path item method.name operation
      match route.outcome with
      | .error failure => .stop failure route.log
      | .ok made => .cons made route.log (routesFrom components next rest)

def routes (document : Document) : Collected Route :=
  routesFrom document.components .empty document.operations

def functionsFrom (order : Int) (routes : List Route) : List Code.Function :=
  Code.Function.numberedDown Route.toFunction order routes

def file (folder : String) (count : Nat) (routes : List Route) : Code.File :=
  (functionsFrom count routes).foldl Code.File.addFunction
    { Code.File.named (folder ++ "/routes.py") with imports := imports }

structure Generated where
  file : Code.File
  outcome : Except Failure (List String)
  log : List LogEntry

def generate (folder : String) (document : Document) : Generated :=
  let collected := routes document
  let file := file folder document.operations.length collected.items
  ⟨file, collected.outcome fun _ => file.functions.keys, collected.log⟩

end Routes
end OpenApiClient
