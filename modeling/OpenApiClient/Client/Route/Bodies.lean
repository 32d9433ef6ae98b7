import OpenApiClient.Client.Route.Component
import OpenApiClient.Client.TypeMapping

set_option autoImplicit false

namespace OpenApiClient.Route

inductive BodyFormat where
  | json
  | form
  | octets
  deriving DecidableEq

def BodyFormat.ofMediaType? (mediaType : String) : Option BodyFormat :=
  if mediaType = "application/json" then some .json
  else if mediaType = "multipart/form-data" then some .form
  else if mediaType = "application/octet-stream" then some .octets
  else none

structure Payload where
  format : BodyFormat
  type : MappedType

def arrayType (items : Option Items) (usage : Usage) (field : String) :
    Except Failure MappedType :=
  match items with
  | none => .error (.unsupportedSchema "array but no items?" field)
  | some (.positional _) =>
      .error (.unsupportedSchema "array with a list of item schemas is not supported" field)
  | some (.every (.boolean _)) =>
      .error (.unsupportedSchema "simple boolean array is unsupported" field)
  | some (.every (.schema item)) =>
      match MappedType.ofSchema item usage (some field) with
      | .error failure => .error failure
      | .ok type => .ok (MappedType.listOf type)

def bodyType (schema : Schema) (usage : Usage) (field : String) : Except Failure MappedType :=
  let pointer := schema.reference.getD ""
  if pointer ≠ "" then .ok (MappedType.record pointer)
  -- Items make a list of it even when the type is not written.
  else if schema.singleType? = some .array ∨ schema.items.isSome then
    arrayType schema.items usage field
  else MappedType.ofSchema schema usage (some field)

def warnUnknownMediaTypes : List String → Logged Unit
  | [] => pure ()
  | mediaType :: rest => do
      if (BodyFormat.ofMediaType? mediaType).isNone then
        Logged.warn .routes
          ("found \"" ++ mediaType ++ "\", expected json, form data or octet stream")
      warnUnknownMediaTypes rest

def accepted? : Content → Option (BodyFormat × MediaType)
  | [] => none
  | (mediaType, media) :: rest =>
      match BodyFormat.ofMediaType? mediaType with
      | some format => some (format, media)
      | none => accepted? rest

def payloadOfContent (content : Content) (place : String) : Logged Payload := do
  let mediaTypes := content.map Prod.fst
  warnUnknownMediaTypes mediaTypes
  match accepted? content with
  | none => Logged.fail (.unsupportedMediaType place mediaTypes)
  | some (format, media) =>
      match media.schema with
      | none => Logged.fail (.unsupportedSchema "need a schema" (place ++ " request body"))
      | some schema => do
          let type ← Logged.ofExcept
            (bodyType schema .borrowedParameter (place ++ " request body"))
          pure ⟨format, type⟩

def requestPayload (components : Components) (operation : Operation) (place : String) :
    Logged (Option Payload) := do
  match operation.requestBody with
  | none => pure none
  | some handle =>
      match ← component components .requestBody place (some (handle.map .requestBody)) with
      | some (.requestBody body) => some <$> payloadOfContent body.content place
      | _ => pure none

inductive Answer where
  | nothing
  | decoded (type : MappedType)
  | text
  | octets

def answerOfContent (content : Content) (place : String) : Logged Answer :=
  if content.isEmpty then pure .nothing
  else
    match Entries.get? content "application/json" with
    | some media =>
        match media.schema with
        | none => Logged.fail (.unsupportedSchema "need a schema" (place ++ " response"))
        | some schema => do
            let type ← Logged.ofExcept (bodyType schema .owned (place ++ " response"))
            pure (if type.kind = .unit then .nothing else .decoded type)
    | none =>
        if Entries.contains content "text/plain" then pure .text
        -- Octets are what they say; every other type is read as octets with a warning.
        else if Entries.contains content "application/octet-stream" then pure .octets
        else do
          Logged.warn .routes
            ("unknown response mime type(s), falling back to `bytes`: " ++
              (Shown.texts (content.map Prod.fst)).toText)
          pure .octets

def expectedAnswer (components : Components) (operation : Operation) (place : String) :
    Logged Answer := do
  let handle := (Entries.get? operation.responses "200").map (Handle.map .response)
  match ← component components .response place handle with
  | some (.response response) => answerOfContent response.content place
  | _ => pure .nothing

end OpenApiClient.Route
