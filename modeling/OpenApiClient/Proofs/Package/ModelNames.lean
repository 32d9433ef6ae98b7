import OpenApiClient.Proofs.Package.Keeping
import OpenApiClient.Proofs.Package.TypePointers
import OpenApiClient.Proofs.Route.Answer
import OpenApiClient.Proofs.Route.Signature

set_option autoImplicit false

namespace OpenApiClient

def Code.Parameter.modelNames (parameter : Code.Parameter) : List String :=
  match parameter.type with
  | none => []
  | some type => type.modelNames

def Subschema.typePointer? : Subschema → Option String
  | .schema written => written.typePointer?
  | .boolean _ => none

def Schema.fieldPointers (schema : Schema) : List String :=
  (schema.properties.getD []).filterMap fun property => property.2.typePointer?

namespace Models

def Model.modelNames (model : Model) : List String :=
  model.file.classes.values.flatMap fun cls => cls.parameters.flatMap Code.Parameter.modelNames

theorem fieldOf_namedAfter {model wireName : String} {property : Subschema}
    {required : List String} {field : Field}
    (made : fieldOf model wireName property required = .ok field) :
    field.type.NamedAfter property.typePointer? := by
  simp only [fieldOf] at made
  split at made
  next => cases made
  next schema =>
    split at made
    next => cases made
    next type typed =>
      obtain rfl := Except.ok.inj made
      exact MappedType.ofSchema_namedAfter typed

theorem distinct_type {model : String} {taken : Entries String String} {field placed : Field}
    (done : (distinct model taken field).outcome = .ok placed) : placed.type = field.type := by
  rw [distinct] at done
  split at done
  next => exact Except.ok.inj done ▸ rfl
  next =>
    obtain ⟨_, _, same⟩ := Logged.outcome_bind_eq_ok.mp done
    exact Except.ok.inj same ▸ rfl

theorem fieldsFrom_modelNames {model : String} {required : List String}
    {taken : Entries String String} {properties : List (String × Subschema)}
    (done : (fieldsFrom model required taken properties).failure = none) :
    (fieldsFrom model required taken properties).items.flatMap
        (fun field => field.type.expression.modelNames) =
      (properties.filterMap fun property => property.2.typePointer?).map Name.modelPath := by
  induction properties generalizing taken with
  | nil => rfl
  | cons entry rest ih =>
    obtain ⟨wireName, property⟩ := entry
    simp only [fieldsFrom] at done ⊢
    split at done
    next => cases done
    next field made =>
      split at done
      next => cases done
      next placed kept =>
        have names := (fieldOf_namedAfter made).names
        rw [← distinct_type kept] at names
        have later := ih done
        cases found : property.typePointer? <;> simp_all [Collected.cons]

theorem Field.modelNames_toParameter (field : Field) :
    field.toParameter.modelNames = field.type.expression.modelNames := by
  simp [toParameter, Code.Parameter.modelNames]

theorem fields_modelNames {model : String} {schema : Schema}
    (done : (fields model schema).failure = none) :
    (fields model schema).items.flatMap (fun field => field.toParameter.modelNames) =
      schema.fieldPointers.map Name.modelPath := by
  simp only [Field.modelNames_toParameter]
  rw [fields] at done ⊢
  cases written : schema.properties with
  | none => simp [written, Schema.fieldPointers]
  | some properties =>
    rw [written] at done
    simpa [Schema.fieldPointers, written] using fieldsFrom_modelNames done

theorem modelsFrom_modelNames {folder : String} {earlier : List ModelName}
    {schemas : List (String × Schema)}
    (done : (modelsFrom folder earlier schemas).failure = none) :
    (modelsFrom folder earlier schemas).items.flatMap Model.modelNames =
      (schemas.flatMap fun entry => entry.2.fieldPointers).map Name.modelPath := by
  induction schemas generalizing earlier with
  | nil => rfl
  | cons entry rest ih =>
    obtain ⟨name, schema⟩ := entry
    simp only [modelsFrom] at done ⊢
    -- Only the last branch goes on to the rest: the others stop with a failure.
    split at done
    next => cases done
    next free =>
      rw [if_neg free]
      split at done
      next => cases done
      next complete =>
        have here := fields_modelNames complete
        have later := ih done
        simp only [Collected.cons, List.flatMap_cons, List.map_append, later, Model.modelNames,
          recordFile, recordClass, Entries.values, List.map_cons, List.map_nil, List.flatMap_nil,
          List.append_nil, List.flatMap_map, here]

end Models

namespace Route

def modelNames (route : Route) : List String :=
  route.signature.flatMap Code.Parameter.modelNames ++ route.answer.type.modelNames

def requestSchema? (components : Components) (operation : Operation) (place : String) :
    Option Schema :=
  match operation.requestBody with
  | none => none
  | some handle =>
      match (component components .requestBody place (some (handle.map .requestBody))).outcome with
      | .ok (some (.requestBody body)) => (accepted? body.content).bind fun entry => entry.2.schema
      | _ => none

def answerSchema? (components : Components) (operation : Operation) (place : String) :
    Option Schema :=
  let handle := (Entries.get? operation.responses "200").map (Handle.map .response)
  match (component components .response place handle).outcome with
  | .ok (some (.response response)) =>
      (Entries.get? response.content "application/json").bind MediaType.schema
  | _ => none

def parameterPointers (parameters : List Parameter) : List String :=
  parameters.filterMap fun parameter => parameter.schema.bind Schema.typePointer?

def bodyPointers (schema : Option Schema) : List String :=
  (schema.bind Schema.bodyPointer?).toList

theorem typeParameters_modelNames {place : String} {named : List Named}
    {arguments : List Argument}
    (typed : (typeParameters place named).outcome = .ok arguments) :
    arguments.flatMap (fun argument => argument.toParameter.modelNames) =
      (parameterPointers (named.map Named.parameter)).map Name.modelPath := by
  induction named generalizing arguments with
  | nil => exact Except.ok.inj typed ▸ rfl
  | cons entry rest ih =>
    obtain ⟨parameter, identifier⟩ := entry
    rw [typeParameters] at typed
    split at typed
    next untyped =>
      obtain ⟨_, _, more⟩ := Logged.outcome_bind_eq_ok.mp typed
      simpa [parameterPointers, untyped] using ih more
    next schema written =>
      obtain ⟨type, made, more, others, same⟩ := by
        simpa only [Logged.outcome_bind_eq_ok] using typed
      obtain rfl := Except.ok.inj same
      have names := (MappedType.ofSchema_namedAfter made).names
      have later := ih others
      cases found : schema.typePointer? <;>
        simp_all [parameterPointers, Argument.toParameter, Code.Parameter.modelNames]

theorem payloadOfContent_namedAfter {content : Content} {place : String} {payload : Payload}
    (done : (payloadOfContent content place).outcome = .ok payload) :
    payload.type.NamedAfter
      (((accepted? content).bind fun entry => entry.2.schema).bind Schema.bodyPointer?) := by
  obtain ⟨schema, accepted, typed⟩ := payloadOfContent_typed done
  rw [accepted]
  exact bodyType_namedAfter typed

theorem requestPayload_modelNames {components : Components} {operation : Operation}
    {place : String} {payload : Option Payload}
    (done : (requestPayload components operation place).outcome = .ok payload) :
    (payloadParameters payload).flatMap Code.Parameter.modelNames =
      (bodyPointers (requestSchema? components operation place)).map Name.modelPath := by
  simp only [requestPayload] at done
  rw [requestSchema?]
  cases written : operation.requestBody with
  | none =>
    rw [written] at done
    obtain rfl := Except.ok.inj done
    rfl
  | some handle =>
    rw [written] at done
    obtain ⟨found, resolved, more⟩ := Logged.outcome_bind_eq_ok.mp done
    simp only [resolved]
    split at more
    next body =>
      obtain ⟨made, content, rfl⟩ := Logged.outcome_map_eq_ok.mp more
      have names := (payloadOfContent_namedAfter content).names
      simpa [payloadParameters, plainParameter, Code.Parameter.modelNames, bodyPointers] using names
    next other =>
      obtain rfl := Except.ok.inj more
      split
      next same => exact absurd (Except.ok.inj same) (other _)
      next => rfl

theorem answerOfContent_modelNames {content : Content} {place : String} {answer : Answer}
    (done : (answerOfContent content place).outcome = .ok answer) :
    answer.type.modelNames =
      (bodyPointers ((Entries.get? content "application/json").bind MediaType.schema)).map
        Name.modelPath := by
  cases found : Entries.get? content "application/json" with
  | none =>
    cases answerOfContent_answered done with
    | unit json => cases found.symm.trans json
    | decoded json => cases found.symm.trans json
    | _ => rfl
  | some media =>
    have filled : content.isEmpty = false := by
      cases content with
      | nil => cases found
      | cons => rfl
    rw [answerOfContent, filled] at done
    simp only [found] at done
    cases written : media.schema with
    | none =>
      simp only [written] at done
      cases done
    | some schema =>
      simp only [written] at done
      obtain ⟨type, typed, same⟩ := Logged.outcome_bind_eq_ok.mp done
      obtain rfl := Except.ok.inj same
      have named := bodyType_namedAfter typed
      -- A body without a value is not decoded, and its type reads no model.
      by_cases unit : type.kind = .unit
      · simp [unit, written, bodyPointers, named.unit unit, Answer.type, Code.isModelName]
      · simpa [unit, written, bodyPointers, Answer.type] using named.names

theorem answerSchema?_eq (components : Components) (operation : Operation) (place : String) :
    answerSchema? components operation place =
      (Entries.get? (answerContent components operation place) "application/json").bind
        MediaType.schema := by
  simp only [answerSchema?, answerContent]
  generalize (component components .response place
    ((Entries.get? operation.responses "200").map (Handle.map .response))).outcome = outcome
  rcases outcome with failure | _ | entity
  · rfl
  · rfl
  · cases entity <;> rfl

theorem expectedAnswer_modelNames {components : Components} {operation : Operation}
    {place : String} {answer : Answer}
    (done : (expectedAnswer components operation place).outcome = .ok answer) :
    answer.type.modelNames =
      (bodyPointers (answerSchema? components operation place)).map Name.modelPath := by
  rw [answerSchema?_eq]
  exact answerOfContent_modelNames (answerOfContent_of_expectedAnswer done)

def pointers (components : Components) (path : String) (item : PathItem) (method : String)
    (operation : Operation) : List String :=
  let place := location method path
  let parameters := (collectParameters components item operation place).outcome.toOption
  parameterPointers (parameters.getD []) ++
    bodyPointers (requestSchema? components operation place) ++
    bodyPointers (answerSchema? components operation place)

theorem Parts.modelNames_eq {components : Components} {path method : String} {item : PathItem}
    {operation : Operation} {parameters : List Parameter} {route : Route}
    (parts : Parts components path item method operation parameters route) :
    route.modelNames =
      (pointers components path item method operation).map Name.modelPath := by
  have arguments := typeParameters_modelNames parts.typed
  rw [parts.naming.1] at arguments
  have payload := requestPayload_modelNames parts.payload
  have answer := expectedAnswer_modelNames parts.answer
  have client : clientParameter.modelNames = [] := by decide
  simp [modelNames, signature_eq, pointers, parts.collected, Except.toOption, client, payload,
    answer, List.flatMap_map, arguments]

end Route

theorem Routes.routesFrom_modelNames {components : Components} {registered : Route.Registered}
    {operations : List (String × PathItem × Method × Operation)}
    (done : (routesFrom components registered operations).failure = none) :
    (routesFrom components registered operations).items.flatMap Route.modelNames =
      (operations.flatMap fun entry =>
        Route.pointers components entry.1 entry.2.1 entry.2.2.1.name entry.2.2.2).map
          Name.modelPath := by
  induction operations generalizing registered with
  | nil => rfl
  | cons entry rest ih =>
    obtain ⟨path, item, method, operation⟩ := entry
    simp only [routesFrom] at done ⊢
    split at done
    next => cases done
    next route made =>
      obtain ⟨_, _, _, parts⟩ := Route.generate_eq_ok_iff.mp made
      have later := ih done
      simp [Collected.cons, parts.modelNames_eq, later]

/-- The schema pointers of a document that give types, in the order of the types. -/
def Document.typePointers (document : Document) : List String :=
  (document.components.schemas.flatMap fun entry => entry.2.fieldPointers) ++
    document.operations.flatMap fun entry =>
      Route.pointers document.components entry.1 entry.2.1 entry.2.2.1.name entry.2.2.2

namespace Package

theorem Contents.modelNames_eq {settings : PackageSettings} {document : Document}
    {files : Code.Project} {models : List Models.Model} {routes : List Route}
    (contents : Contents settings document files models routes) :
    models.flatMap Models.Model.modelNames ++ routes.flatMap Route.modelNames =
      document.typePointers.map Name.modelPath := by
  have fields := Models.modelsFrom_modelNames contents.modelsDone
  have functions := Routes.routesFrom_modelNames contents.routesDone
  rw [← contents.models_eq, ← contents.routes_eq, Document.typePointers, List.map_append,
    ← fields, ← functions]
  rfl

/-- The model names written in a package are those of the pointers that give types. All of them are
names of registered schemas exactly when every pointer leads to one, which nothing makes sure of:
the registry can lose any schemas that are no pointers, and the same request functions are
generated. -/
theorem ofDocument_modelNames {settings : PackageSettings} {document : Document}
    {files : Code.Project} (made : (ofDocument settings document).outcome = .ok files) :
    ∃ models routes, Contents settings document files models routes ∧
      (∀ model ∈ models, model.file ∈ files) ∧
      (∃ file ∈ files, file.functions.values =
        Routes.functionsFrom document.operations.length routes) ∧
      models.flatMap Models.Model.modelNames ++ routes.flatMap Route.modelNames =
        document.typePointers.map Name.modelPath ∧
      ((∀ pointer ∈ document.typePointers,
          Reference.ResolvesToSchema document.components pointer) ↔
        ∀ pointer ∈ document.typePointers,
          Reference.LeadsToSchema document.components pointer) ∧
      ∀ kept, document.components.KeepsPointers kept →
        ∃ fewer remaining, (ofDocument settings (document.keeping kept)).outcome = .ok fewer ∧
          Contents settings (document.keeping kept) fewer remaining routes := by
  obtain ⟨models, routes, contents⟩ := ofDocument_eq_ok_iff.mp made
  refine ⟨models, routes, contents, fun _ => contents.modelFile, contents.routeFile,
    contents.modelNames_eq, ?_, ?_⟩
  · exact forall₂_congr fun pointer _ =>
      Reference.resolvesToSchema_iff document.components pointer
  · intro kept keeps
    obtain ⟨fewer, remaining, contentsKept⟩ := contents.keeping keeps
    have madeKept := ofDocument_eq_ok_iff.mpr ⟨remaining, routes, contentsKept⟩
    exact ⟨fewer, remaining, madeKept, contentsKept⟩

def danglingDocument : Document :=
  let missing : Schema :=
    ⟨none, none, some "#/components/schemas/Missing", none, none, [], none, none, none⟩
  let listItems : Operation :=
    { operationId := some "listItems"
      summary := none
      description := none
      tags := []
      deprecated := false
      parameters := []
      requestBody := none
      responses := [("200", .inline ⟨none, [("application/json", ⟨some missing⟩)]⟩)] }
  { version := Document.standardVersion
    info := .standard
    servers := []
    paths := [("/items", { PathItem.empty with get := some listItems })]
    components := .empty }

theorem danglingDocument_generates :
    ∃ files, (ofDocument ⟨"shop", [], []⟩ danglingDocument).outcome = .ok files := by
  have count : (ofDocument ⟨"shop", [], []⟩ danglingDocument).outcome.toOption.map List.length =
      some 7 := by
    decide +kernel
  obtain ⟨files, made, _⟩ := exists_of_toOption count
  exact ⟨files, made⟩

theorem ofDocument_modelNames_missing :
    ∃ files models routes, (ofDocument ⟨"shop", [], []⟩ danglingDocument).outcome = .ok files ∧
      Contents ⟨"shop", [], []⟩ danglingDocument files models routes ∧
      models.flatMap Models.Model.modelNames ++ routes.flatMap Route.modelNames =
        ["models.Missing"] := by
  obtain ⟨files, made⟩ := danglingDocument_generates
  obtain ⟨models, routes, contents, _, _, names, _⟩ := ofDocument_modelNames made
  refine ⟨files, models, routes, made, contents, names.trans ?_⟩
  decide +kernel

theorem ofDocument_missing_schema :
    ∃ files, (ofDocument ⟨"shop", [], []⟩ danglingDocument).outcome = .ok files ∧
      "#/components/schemas/Missing" ∈ danglingDocument.typePointers ∧
      ¬ Reference.ResolvesToSchema danglingDocument.components "#/components/schemas/Missing" := by
  obtain ⟨files, made⟩ := danglingDocument_generates
  refine ⟨files, made, by decide +kernel, ?_⟩
  rw [Reference.resolvesToSchema_iff]
  rintro ⟨_, _, _, _, _, _, entered, _⟩
  cases entered

end Package
end OpenApiClient
