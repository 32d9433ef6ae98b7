import OpenApiClient.Client.Route.Component
import OpenApiClient.Client.TypeMapping

set_option autoImplicit false

namespace OpenApiClient.Route

def asParameter? : Entity → Option Parameter
  | .parameter parameter => some parameter
  | _ => none

abbrev ParameterKey := String × String

def parameterKey (parameter : Parameter) : ParameterKey := (parameter.name, parameter.location)

def mergeParameters (components : Components) (place : String)
    (merged : Entries ParameterKey Parameter) :
    List (Handle Parameter) → Logged (Entries ParameterKey Parameter)
  | [] => pure merged
  | handle :: rest => do
      let found ← component components .parameter place (some (handle.map .parameter))
      match found.bind asParameter? with
      | none => mergeParameters components place merged rest
      | some parameter =>
          mergeParameters components place (merged.put (parameterKey parameter) parameter) rest

def collectParameters (components : Components) (item : PathItem) (operation : Operation)
    (place : String) : Logged (List Parameter) := do
  let merged ← mergeParameters components place [] (item.parameters ++ operation.parameters)
  let parameters := merged.values
  pure (parameters.filter (·.required) ++ parameters.filter fun parameter => !parameter.required)

structure Named where
  parameter : Parameter
  identifier : String

def renamed (taken : List String) (identifier place : String) : String :=
  let placed := identifier ++ "_" ++ Name.snake place
  if taken.contains placed then Name.firstFree taken placed 2 else placed

def nameParameter (place : String) (taken : List String) (parameter : Parameter) :
    Logged Named :=
  let identifier := Name.parameter parameter.name
  if taken.contains identifier then do
    let other := renamed taken identifier parameter.location
    Logged.warn .routes
      ("Parameter " ++ parameter.name ++ " (" ++ parameter.location ++ ") of " ++ place ++
        " clashes with another parameter, renamed to " ++ other)
    pure ⟨parameter, other⟩
  else pure ⟨parameter, identifier⟩

def nameParameters (place : String) (taken : List String) :
    List Parameter → Logged (List Named)
  | [] => pure []
  | parameter :: rest => do
      let named ← nameParameter place taken parameter
      let more ← nameParameters place (named.identifier :: taken) rest
      pure (named :: more)

structure Argument where
  parameter : Parameter
  identifier : String
  type : MappedType

def typeParameters (place : String) : List Named → Logged (List Argument)
  | [] => pure []
  | ⟨parameter, identifier⟩ :: rest =>
      match parameter.schema with
      | none => do
          Logged.debug .routes
            ("Parameter " ++ parameter.name ++ " of " ++ place ++ " has no schema, skipped")
          typeParameters place rest
      | some schema => do
          let type ← Logged.ofExcept
            (MappedType.ofSchema schema .borrowedParameter
              (some (place ++ " parameter " ++ parameter.name)))
          let more ← typeParameters place rest
          pure (⟨parameter, identifier, type⟩ :: more)

end OpenApiClient.Route
