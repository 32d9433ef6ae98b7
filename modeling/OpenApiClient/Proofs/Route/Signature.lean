import OpenApiClient.Proofs.Code.Header
import OpenApiClient.Proofs.Name.Exported
import OpenApiClient.Proofs.Route.Answer
import OpenApiClient.Proofs.Route.Naming
import OpenApiClient.Proofs.Route.Parts

set_option autoImplicit false

namespace OpenApiClient

namespace Route

open Code

def clientParameter : Code.Parameter := plainParameter "client" (.ofText "ApiClient")

def payloadParameters (payload : Option Payload) : List Code.Parameter :=
  payload.toList.map fun payload => plainParameter "payload" payload.type.expression

theorem signature_eq (route : Route) :
    route.signature =
      clientParameter :: route.arguments.map Argument.toParameter ++
        payloadParameters route.payload := by
  cases payload : route.payload <;> simp [signature, clientParameter, payloadParameters, payload]

theorem names_signature (route : Route) :
    route.signature.map (·.name) =
      "client" :: (route.arguments.map Argument.identifier ++
        (payloadParameters route.payload).map (·.name)) := by
  simp [signature_eq, clientParameter, plainParameter, Argument.toParameter, Function.comp_def]

theorem eq_payload_of_mem {payload : Option Payload} {name : String}
    (member : name ∈ (payloadParameters payload).map (·.name)) : name = "payload" := by
  cases payload with
  | none => cases member
  | some body => simpa [payloadParameters, plainParameter] using member

/-- The parameters in the order in which they are written. -/
def written (route : Route) : List Code.Parameter := Function.sortedParameters route.signature

/-- A parameter list that a call can bind, with nothing in it that the body of the function uses. -/
structure LegalSignature (parameters : List ReadParameter) : Prop where
  clientFirst : parameters.head? = some ⟨"client", some "ApiClient", none⟩
  distinct : (parameters.map (·.name)).Nodup
  named : ∀ parameter ∈ parameters, parameter.name ∉ ["client", "payload"] →
    IsArgumentName parameter.name
  defaultsLast : parameters.Pairwise fun earlier later =>
    earlier.default.isSome → later.default.isSome

def Argument.found (argument : Argument) : ReadParameter :=
  ⟨argument.identifier,
    some (argument.type.wrapOptional argument.parameter.required).expression.render,
    if argument.parameter.required then none else some "None"⟩

def Payload.found (payload : Payload) : ReadParameter :=
  ⟨"payload", some payload.type.expression.render, none⟩

theorem Argument.found_toParameter (argument : Argument) :
    argument.toParameter.found = argument.found := by
  rw [Parameter.found, toParameter, Argument.found]
  cases argument.parameter.required <;> simp

theorem payloadOfContent_typed {content : Content} {place : String} {payload : Payload}
    (done : (payloadOfContent content place).outcome = .ok payload) :
    ∃ schema, (accepted? content).bind (fun entry => entry.2.schema) = some schema ∧
      bodyType schema .borrowedParameter (place ++ " request body") = .ok payload.type := by
  obtain ⟨_, _, chosen⟩ := Logged.outcome_bind_eq_ok.mp done
  cases accepted : accepted? content with
  | none =>
    rw [accepted] at chosen
    cases chosen
  | some entry =>
    obtain ⟨format, media⟩ := entry
    rw [accepted] at chosen
    cases written : media.schema with
    | none =>
      simp only [written] at chosen
      cases chosen
    | some schema =>
      simp only [written] at chosen
      obtain ⟨type, typed, same⟩ := Logged.outcome_bind_eq_ok.mp chosen
      obtain rfl := Except.ok.inj same
      exact ⟨schema, written, typed⟩

theorem requestPayload_typed {components : Components} {operation : Operation} {place : String}
    {payload : Payload}
    (done : (requestPayload components operation place).outcome = .ok (some payload)) :
    ∃ schema, bodyType schema .borrowedParameter (place ++ " request body") =
      .ok payload.type := by
  rw [requestPayload] at done
  split at done
  next => cases done
  next handle =>
    obtain ⟨found, -, more⟩ := Logged.outcome_bind_eq_ok.mp done
    split at more
    next body =>
      obtain ⟨made, content, same⟩ := Logged.outcome_map_eq_ok.mp more
      cases same
      obtain ⟨schema, -, typed⟩ := payloadOfContent_typed content
      exact ⟨schema, typed⟩
    next => cases more

theorem bodyType_isTerm {schema : Schema} {usage : Usage} {field : String} {mapped : MappedType}
    (made : bodyType schema usage field = .ok mapped) : IsTerm mapped.expression.render := by
  rcases bodyType_written made with written | ⟨item, written, rfl⟩
  · exact written.isTerm
  · rw [MappedType.listOf, Expression.render_wrap]
    exact .wrap "List" (by decide) written.isTerm

section Parts

variable {components : Components} {path method : String} {item : PathItem}
  {operation : Operation} {parameters : List Parameter} {route : Route}

theorem Parts.naming (parts : Parts components path item method operation parameters route) :
    route.named.map Named.parameter = parameters ∧ (route.named.map Named.identifier).Nodup ∧
      ∀ entry ∈ route.named, IsArgumentName entry.identifier := by
  obtain ⟨named, done, same, distinct, free⟩ :=
    nameParameters_spec (location method path) [] parameters
  obtain rfl := Except.ok.inj (done.symm.trans parts.named)
  exact ⟨same, distinct, fun entry member => (free entry member).2⟩

theorem Parts.arguments_named
    (parts : Parts components path item method operation parameters route) :
    route.arguments.map Argument.named =
      route.named.filter fun entry => entry.parameter.schema.isSome :=
  typeParameters_named parts.typed

theorem Parts.arguments_parameter
    (parts : Parts components path item method operation parameters route) :
    route.arguments.map Argument.parameter =
      parameters.filter fun parameter => parameter.schema.isSome := by
  have same := congrArg (List.map Named.parameter) parts.arguments_named
  rw [← parts.naming.1, List.filter_map]
  simpa [Argument.named, Function.comp_def] using same

theorem Parts.isArgumentName
    (parts : Parts components path item method operation parameters route)
    {argument : Argument} (member : argument ∈ route.arguments) :
    IsArgumentName argument.identifier := by
  have named : argument.named ∈ route.arguments.map Argument.named := List.mem_map_of_mem member
  rw [parts.arguments_named] at named
  exact parts.naming.2.2 _ (List.mem_filter.mp named).1

theorem Parts.identifiers_nodup
    (parts : Parts components path item method operation parameters route) :
    (route.arguments.map Argument.identifier).Nodup := by
  have kept : ((route.arguments.map Argument.named).map Named.identifier).Sublist
      (route.named.map Named.identifier) := by
    rw [parts.arguments_named]
    exact List.filter_sublist.map _
  rw [List.map_map] at kept
  exact parts.naming.2.1.sublist kept

theorem Parts.local_not_mem
    (parts : Parts components path item method operation parameters route) {name : String}
    (isLocal : name ∈ Name.routeLocalNames) :
    name ∉ route.arguments.map Argument.identifier := by
  intro member
  obtain ⟨argument, inside, rfl⟩ := List.mem_map.mp member
  exact (parts.isArgumentName inside).notLocal isLocal

theorem Parts.signature_nodup
    (parts : Parts components path item method operation parameters route) :
    (route.signature.map (·.name)).Nodup := by
  have clientLocal : "client" ∈ Name.routeLocalNames := by decide
  have payloadLocal : "payload" ∈ Name.routeLocalNames := by decide
  have single : ((payloadParameters route.payload).map (·.name)).Nodup := by
    cases route.payload <;> simp [payloadParameters]
  rw [names_signature]
  refine List.nodup_cons.mpr ⟨?_, List.nodup_append.mpr ⟨parts.identifiers_nodup, single, ?_⟩⟩
  · intro member
    rcases List.mem_append.mp member with argument | body
    · exact parts.local_not_mem clientLocal argument
    · exact absurd (eq_payload_of_mem body) (by decide)
  · rintro name argument other body rfl
    exact parts.local_not_mem (eq_payload_of_mem body ▸ payloadLocal) argument

theorem Parts.argument_written
    (parts : Parts components path item method operation parameters route)
    {argument : Argument} (member : argument ∈ route.arguments) : argument.type.Written := by
  obtain ⟨_, -, -, schema, field, typed⟩ :=
    exists_of_forall₂ (typeParameters_typed parts.typed).flip member
  exact MappedType.ofSchema_written typed

theorem Parts.legible (parts : Parts components path item method operation parameters route) :
    ∀ parameter ∈ route.signature, parameter.Legible := by
  have none : IsTerm (Expression.ofText "None").render := by
    rw [Expression.render_ofText]
    exact .word (by decide)
  rw [signature_eq, List.cons_append, List.forall_mem_cons, List.forall_mem_append]
  refine ⟨⟨by decide, ⟨_, rfl, ?_⟩, nofun⟩, List.forall_mem_map.mpr fun argument member => ?_, ?_⟩
  · rw [Expression.render_ofText]
    exact .word (by decide)
  · refine ⟨(parts.isArgumentName member).identifier,
      ⟨_, rfl, (parts.argument_written member).isTerm_wrapOptional _⟩, fun default given => ?_⟩
    simp only [Argument.toParameter] at given
    split at given
    next => cases given
    next => exact Option.some.inj given ▸ none
  · intro parameter member
    cases body : route.payload with
    | none =>
      rw [body] at member
      cases member
    | some payload =>
      rw [body] at member
      obtain rfl := List.mem_singleton.mp member
      obtain ⟨schema, typed⟩ := requestPayload_typed (body ▸ parts.payload)
      have name : Name.IsIdentifier "payload" := by decide
      exact ⟨name, ⟨_, rfl, bodyType_isTerm typed⟩, nofun⟩

theorem Parts.legalSignature
    (parts : Parts components path item method operation parameters route) :
    LegalSignature (route.written.map Parameter.found) where
  clientFirst := by
    have first := Function.head?_sortedParameters clientParameter
      (route.arguments.map Argument.toParameter ++ payloadParameters route.payload) rfl
    rw [written, signature_eq, List.cons_append, List.head?_map, first]
    decide +kernel
  distinct := by
    have order := (Function.sortedParameters_perm route.signature).map (·.name)
    rw [List.map_map]
    exact order.nodup_iff.mpr parts.signature_nodup
  named := by
    intro parameter member other
    obtain ⟨original, inside, rfl⟩ := List.mem_map.mp member
    have signed := (Function.sortedParameters_perm _).mem_iff.mp inside
    have name := names_signature route ▸ List.mem_map_of_mem signed
    simp only [Parameter.found, List.mem_cons, List.not_mem_nil, or_false, not_or] at other
    rcases List.mem_append.mp ((List.mem_cons.mp name).resolve_left other.1) with given | body
    · obtain ⟨argument, listed, same⟩ := List.mem_map.mp given
      have legal := parts.isArgumentName listed
      rwa [same] at legal
    · exact absurd (eq_payload_of_mem body) other.2
  defaultsLast := by
    rw [written, List.pairwise_map]
    simpa [Parameter.found] using Function.sortedParameters_defaultsLast route.signature

end Parts

/-- The parameter list in the text of a request function is legal, and holds the client, an argument
for each merged parameter with a schema, and the payload if there is a body. -/
theorem signature_legal {components : Components} {registered : Registered}
    {path method : String} {item : PathItem} {operation : Operation} {route : Route}
    (made : (generate components registered path item method operation).2.outcome = .ok route)
    (order : Int) :
    readHeader (route.toFunction order).render =
        some (route.name, route.written.map Parameter.found) ∧
      LegalSignature (route.written.map Parameter.found) ∧
      (route.written.map Parameter.found).Perm
        (⟨"client", some "ApiClient", none⟩ :: route.arguments.map Argument.found ++
          route.payload.toList.map Payload.found) ∧
      (requestPayload components operation (location method path)).outcome = .ok route.payload ∧
      ∃ parameters,
        (collectParameters components item operation (location method path)).outcome =
          .ok parameters ∧
        route.arguments.map Argument.parameter =
          parameters.filter fun parameter => parameter.schema.isSome := by
  obtain ⟨next, registered, parameters, parts⟩ := generate_eq_ok_iff.mp made
  have named : Name.IsIdentifier route.name := by
    simp only [register] at registered
    split at registered
    next => cases registered
    next =>
      split at registered
      next => cases registered
      next =>
        rw [← (Prod.mk.inj (Except.ok.inj registered)).1]
        exact (Name.function_word _).isIdentifier
  refine ⟨readHeader_render named rfl parts.legible, parts.legalSignature, ?_, parts.payload,
    parameters, parts.collected, parts.arguments_parameter⟩
  have sorted := (Function.sortedParameters_perm route.signature).map Parameter.found
  have signed : route.signature.map Parameter.found =
      ⟨"client", some "ApiClient", none⟩ :: route.arguments.map Argument.found ++
        route.payload.toList.map Payload.found := by
    have client : clientParameter.found = ⟨"client", some "ApiClient", none⟩ := by decide +kernel
    simp only [signature_eq, List.map_append, List.map_cons, client, List.map_map,
      Function.comp_def, Argument.found_toParameter, payloadParameters]
    rfl
  exact signed ▸ sorted

def clashingOperation : Operation :=
  let text : Schema := ⟨none, some (.one .string), none, none, none, [], none, none, none⟩
  { operationId := some "findItem"
    summary := none
    description := none
    tags := []
    deprecated := false
    parameters :=
      [.inline ⟨"id", "query", false, none, false, some text, none⟩,
        .inline ⟨"id", "path", true, none, false, some text, none⟩,
        .inline ⟨"client", "header", true, none, false, some text, none⟩]
    requestBody := some (.inline ⟨[("application/json", ⟨some text⟩)], none, true⟩)
    responses := [] }

theorem signature_legal_clash :
    ∃ route, (generate .empty .empty "/items/{id}" .empty "PUT" clashingOperation).2.outcome =
        .ok route ∧
      readHeader (route.toFunction 0).render =
        some ("find_item", route.written.map Parameter.found) ∧
      LegalSignature (route.written.map Parameter.found) ∧
      route.written.map (·.name) = ["client", "id", "client_", "payload", "id_query"] := by
  have computed : (generate .empty .empty "/items/{id}" .empty "PUT"
      clashingOperation).2.outcome.toOption.map (fun route =>
        (route.name, route.written.map (·.name))) =
        some ("find_item", ["client", "id", "client_", "payload", "id_query"]) := by
    decide +kernel
  obtain ⟨route, made, same⟩ := exists_of_toOption computed
  obtain ⟨name, names⟩ := Prod.mk.inj same
  obtain ⟨header, legal, -⟩ := signature_legal made 0
  exact ⟨route, made, name ▸ header, legal, names⟩

end Route
end OpenApiClient
