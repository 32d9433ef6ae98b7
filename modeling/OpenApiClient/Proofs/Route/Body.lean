import OpenApiClient.Proofs.Route.Answer
import OpenApiClient.Proofs.Route.Signature

set_option autoImplicit false

namespace OpenApiClient.Route

open Code

theorem filter_append_filter_not_of_pairwise {α : Type} {kept : α → Bool} {items : List α}
    (sorted : items.Pairwise fun earlier later => kept later = true → kept earlier = true) :
    items.filter kept ++ items.filter (fun item => !kept item) = items := by
  induction items with
  | nil => rfl
  | cons first rest ih =>
    obtain ⟨before, later⟩ := List.pairwise_cons.mp sorted
    cases here : kept first with
    | true => simpa [here] using ih later
    | false =>
      -- Nothing behind the first item that is not kept is kept.
      have none : ∀ item ∈ rest, kept item = false := by
        intro item member
        by_contra other
        rw [before item member (by simpa using other)] at here
        cases here
      rw [List.filter_eq_nil_iff.mpr (by simpa [here] using none), List.nil_append,
        List.filter_eq_self.mpr (by simpa [here] using none)]

theorem requiredFirst_sorted (parameters : List Parameter) :
    (parameters.filter (·.required) ++ parameters.filter fun parameter =>
      !parameter.required).Pairwise fun earlier later =>
        later.required = true → earlier.required = true := by
  refine List.pairwise_append.mpr ⟨?_, ?_, ?_⟩
  · exact List.pairwise_filter.mpr (List.pairwise_of_forall fun _ _ required _ _ => required)
  · refine List.pairwise_filter.mpr (List.pairwise_of_forall fun _ _ _ optional required => ?_)
    simp [required] at optional
  · intro earlier member _ _ _
    exact (List.mem_filter.mp member).2

theorem collectParameters_sorted {components : Components} {item : PathItem}
    {operation : Operation} {place : String} {parameters : List Parameter}
    (collected : (collectParameters components item operation place).outcome = .ok parameters) :
    parameters.Pairwise fun earlier later => later.required = true → earlier.required = true := by
  obtain ⟨merged, _, same⟩ := Logged.outcome_bind_eq_ok.mp collected
  obtain rfl := Except.ok.inj same
  exact requiredFirst_sorted merged.values

def converters : List (String × String) :=
  [("", ""), ("", ".isoformat()"), ("json.dumps(", ")"), ("str(", ")"),
    ("", ".get_secret_value()"), ("", ".model_dump_json(by_alias=True)"), ("", ".decode()")]

theorem converted_eq (kind : TypeKind) (identifier : String) :
    ∃ around ∈ converters, converted kind identifier = around.1 ++ identifier ++ around.2 := by
  cases kind <;> simp [converters, converted]

theorem queryText_eq (name identifier : String) (kind : TypeKind) :
    ∃ around ∈ converters, queryText name identifier kind =
      "builder.query(" ++ Json.literal name ++ ", " ++
        (around.1 ++ identifier ++ around.2) ++ ")" := by
  obtain ⟨around, member, same⟩ := converted_eq kind identifier
  exact ⟨around, member,
    congrArg (fun text => "builder.query(" ++ Json.literal name ++ ", " ++ text ++ ")") same⟩

/-- A statement that sends an argument under its wire name. It asks for the value first when the
parameter may be left out. -/
structure Sends (line : String) (argument : Argument) : Prop where
  optional : argument.toParameter.default.isSome = !argument.parameter.required
  text : ∃ around ∈ converters, line =
    (if argument.parameter.required then ""
      else "if " ++ argument.toParameter.name ++ " is not None:\n\t") ++
      "builder.query(" ++ Json.literal argument.parameter.name ++ ", " ++
      (around.1 ++ argument.toParameter.name ++ around.2) ++ ")"

def isQuery (parameter : Parameter) : Bool := parameter.location = "query"

/-- The arguments that are sent in the query. -/
def sent (route : Route) : List Argument :=
  route.arguments.filter fun argument => isQuery argument.parameter

def sendStatement (argument : Argument) : Statement :=
  .query argument.parameter.name argument.identifier argument.type.kind argument.parameter.required

theorem render_sendStatement (argument : Argument) :
    (sendStatement argument).render =
      if argument.parameter.required then
        queryText argument.parameter.name argument.identifier argument.type.kind
      else "if " ++ argument.identifier ++ " is not None:\n\t" ++
        queryText argument.parameter.name argument.identifier argument.type.kind := rfl

theorem sends_render (argument : Argument) : Sends (sendStatement argument).render argument where
  optional := by
    rw [Argument.toParameter]
    cases argument.parameter.required <;> rfl
  text := by
    obtain ⟨around, member, same⟩ :=
      queryText_eq argument.parameter.name argument.identifier argument.type.kind
    refine ⟨around, member, (render_sendStatement argument).trans ?_⟩
    rw [same]
    cases argument.parameter.required with
    | true => simp only [if_true, String.empty_append, Argument.toParameter]
    | false =>
      simp only [Bool.false_eq_true, if_false, Argument.toParameter, String.append_assoc]

theorem queryStatements_eq (route : Route) :
    queryStatements route.arguments = route.sent.map sendStatement := rfl

def attachments : List String :=
  ["builder.json(payload)", "builder.form(payload)", "builder.body(payload)"]

def attachLines (payload : Option Payload) : List String :=
  payload.toList.map fun payload => (Statement.attach payload.format).render

theorem attachLines_subset (payload : Option Payload) : attachLines payload ⊆ attachments := by
  cases payload with
  | none => exact List.nil_subset _
  | some body =>
    obtain ⟨format, type⟩ := body
    refine List.cons_subset.mpr ⟨?_, List.nil_subset _⟩
    cases format with
    | json => exact .head _
    | form => exact .tail _ (.head _)
    | octets => exact .tail _ (.tail _ (.head _))

theorem lines_eq (route : Route) :
    route.statements.map Statement.render =
      ("builder = client.request(" ++ Json.literal route.method ++ ", " ++
          route.pathTemplate.literal ++ ")") ::
        route.sent.map (fun argument => (sendStatement argument).render) ++
        attachLines route.payload ++
        "response = await builder.send()" :: route.answer.statements.map Statement.render := by
  rw [statements, queryStatements_eq]
  simp only [List.map_append, List.map_cons, List.map_map, Function.comp_def,
    List.append_assoc, List.cons_append, List.nil_append, attachLines]
  cases route.payload <;> rfl

section Parts

variable {components : Components} {path method : String} {item : PathItem}
  {operation : Operation} {parameters : List Parameter} {route : Route}

theorem Parts.forall_statements
    (parts : Parts components path item method operation parameters route)
    (holds : Statement → Prop) (request : holds (.request route.method route.pathTemplate))
    (query : ∀ argument ∈ route.sent, holds (sendStatement argument))
    (attach : ∀ payload, route.payload = some payload → holds (.attach payload.format))
    (send : holds .send)
    (decoded : ∀ schema field type, route.answer = .decoded type →
      bodyType schema .owned field = .ok type → holds (.returnDecoded type.expression))
    (text : holds .returnText) (octets : holds .returnOctets) :
    ∀ statement ∈ route.statements, holds statement := by
  intro statement member
  simp only [statements, queryStatements_eq, List.mem_append] at member
  rcases member with (((requested | queried) | attached) | sent) | answered
  · exact List.mem_singleton.mp requested ▸ request
  · obtain ⟨argument, inside, rfl⟩ := List.mem_map.mp queried
    exact query argument inside
  · cases payload : route.payload with
    | none => simp [payload] at attached
    | some body =>
      rw [payload] at attached
      exact List.mem_singleton.mp attached ▸ attach body payload
  · exact List.mem_singleton.mp sent ▸ send
  · have done := parts.answer
    cases expected : route.answer with
    | nothing => simp [expected, Answer.statements] at answered
    | decoded type =>
      rw [expected] at answered done
      cases expectedAnswer_answered done with
      | decoded _ typed _ =>
        exact List.mem_singleton.mp answered ▸ decoded _ _ type expected typed
    | text =>
      rw [expected] at answered
      exact List.mem_singleton.mp answered ▸ text
    | octets =>
      rw [expected] at answered
      exact List.mem_singleton.mp answered ▸ octets

theorem Parts.arguments_sorted
    (parts : Parts components path item method operation parameters route) :
    route.arguments.Pairwise fun earlier later =>
      later.parameter.required = true → earlier.parameter.required = true := by
  have sorted := (collectParameters_sorted parts.collected).filter
    (fun parameter => parameter.schema.isSome)
  rw [← parts.arguments_parameter] at sorted
  exact List.pairwise_map.mp sorted

theorem Parts.sent_parameter
    (parts : Parts components path item method operation parameters route) :
    route.sent.map Argument.parameter =
      parameters.filter fun parameter => isQuery parameter && parameter.schema.isSome := by
  rw [← List.filter_filter, ← parts.arguments_parameter, List.filter_map]
  rfl

theorem Parts.payload_mem_iff
    (parts : Parts components path item method operation parameters route) :
    "payload" ∈ route.written.map (·.name) ↔ route.payload.isSome := by
  have noArgument : "payload" ∉ route.arguments.map Argument.identifier :=
    parts.local_not_mem (by decide)
  rw [written, ((Function.sortedParameters_perm route.signature).map _).mem_iff, names_signature]
  cases route.payload with
  | none => simpa [payloadParameters] using noArgument
  | some body => simp [payloadParameters, plainParameter]

theorem Parts.mem_sent_iff
    (parts : Parts components path item method operation parameters route)
    {argument : Argument} (member : argument ∈ route.arguments) :
    argument.identifier ∈ route.sent.map Argument.identifier ↔
      isQuery argument.parameter = true := by
  constructor
  · intro named
    obtain ⟨other, inside, same⟩ := List.mem_map.mp named
    obtain ⟨otherMember, query⟩ := List.mem_filter.mp inside
    have one := List.inj_on_of_nodup_map parts.identifiers_nodup otherMember member same
    exact one ▸ query
  · intro query
    exact List.mem_map_of_mem (List.mem_filter.mpr ⟨member, query⟩)

theorem Parts.signature_sent
    (parts : Parts components path item method operation parameters route) :
    route.signature.filter (fun parameter =>
        (route.sent.map Argument.identifier).contains parameter.name) =
      route.sent.map Argument.toParameter := by
  -- The client and the payload have names that no argument has.
  have fixedName {name : String} (isLocal : name ∈ Name.routeLocalNames) :
      (route.sent.map Argument.identifier).contains name = false := by
    rw [List.contains_eq_mem, decide_eq_false_iff_not]
    exact fun member => parts.local_not_mem isLocal ((List.filter_sublist.map _).mem member)
  have noClient : (route.sent.map Argument.identifier).contains clientParameter.name = false :=
    fixedName (by decide)
  have noPayload : ∀ parameter ∈ payloadParameters route.payload,
      (route.sent.map Argument.identifier).contains parameter.name = false := by
    intro parameter member
    rw [eq_payload_of_mem (List.mem_map_of_mem member)]
    exact fixedName (by decide)
  have ofArguments : (route.arguments.map Argument.toParameter).filter (fun parameter =>
        (route.sent.map Argument.identifier).contains parameter.name) =
      route.sent.map Argument.toParameter := by
    rw [List.filter_map, sent]
    refine congrArg _ (List.filter_congr fun argument member => ?_)
    rw [Function.comp_apply, Bool.eq_iff_iff, List.contains_eq_mem, decide_eq_true_iff]
    exact parts.mem_sent_iff member
  rw [signature_eq, List.filter_append, List.filter_cons_of_neg (by simpa using noClient),
    ofArguments, List.filter_eq_nil_iff.mpr (by simpa using noPayload), List.append_nil]

theorem Parts.written_sent
    (parts : Parts components path item method operation parameters route) :
    route.written.filter (fun parameter =>
        (route.sent.map Argument.identifier).contains parameter.name) =
      route.sent.map Argument.toParameter := by
  have sorted : route.sent.Pairwise fun earlier later =>
      later.parameter.required = true → earlier.parameter.required = true :=
    parts.arguments_sorted.filter _
  have bare (argument : Argument) :
      argument.toParameter.default.isNone = argument.parameter.required := by
    rw [Argument.toParameter]
    cases argument.parameter.required <;> rfl
  have filled (argument : Argument) :
      argument.toParameter.default.isSome = !argument.parameter.required := by
    rw [← bare, Option.not_isNone]
  -- Sorting a signature keeps the order among its query arguments, which are sorted already.
  have swap (kept : Code.Parameter → Bool) :
      (route.signature.filter kept).filter (fun parameter =>
          (route.sent.map Argument.identifier).contains parameter.name) =
        (route.sent.map Argument.toParameter).filter kept := by
    rw [List.filter_filter, ← parts.signature_sent, List.filter_filter]
    exact List.filter_congr fun _ _ => Bool.and_comm _ _
  rw [written, Function.sortedParameters, List.filter_append, swap, swap, List.filter_map,
    List.filter_map, ← List.map_append]
  refine congrArg _ ?_
  simpa only [Function.comp_def, bare, filled] using filter_append_filter_not_of_pairwise sorted

end Parts

/-- The body of a request function is the request, the query statements of its signature, the
payload if the signature has one, the sending, and the return that its annotation asks for. -/
theorem body_statements {components : Components} {registered : Registered}
    {path method : String} {item : PathItem} {operation : Operation} {route : Route}
    (made : (generate components registered path item method operation).2.outcome = .ok route)
    (order : Int) :
    ∃ parameters sent queries attached returned,
      (collectParameters components item operation (location method path)).outcome =
        .ok parameters ∧
      (route.toFunction order).code.code = String.intercalate "\n"
        (("builder = client.request(" ++ Json.literal method ++ ", " ++
            route.pathTemplate.literal ++ ")") ::
          queries ++ attached ++ "response = await builder.send()" :: returned) ∧
      sent.map Argument.parameter =
        parameters.filter (fun parameter => isQuery parameter && parameter.schema.isSome) ∧
      route.written.filter (fun parameter =>
          (sent.map Argument.identifier).contains parameter.name) =
        sent.map Argument.toParameter ∧
      List.Forall₂ Sends queries sent ∧
      attached.length ≤ 1 ∧ attached ⊆ attachments ∧
      ("payload" ∈ route.written.map (·.name) ↔ attached ≠ []) ∧
      Returned (answerContent components operation (location method path)) returned
        (route.toFunction order).response ∧
      returned.length ≤ 1 ∧ (returned = [] ↔ (route.toFunction order).response = "None") := by
  obtain ⟨_, _, parameters, parts⟩ := generate_eq_ok_iff.mp made
  have returned := (expectedAnswer_answered parts.answer).returned
  refine ⟨parameters, route.sent,
    route.sent.map fun argument => (sendStatement argument).render, attachLines route.payload,
    route.answer.statements.map Statement.render, parts.collected, ?_,
    parts.sent_parameter, parts.written_sent, ?_, ?_, attachLines_subset _, ?_, returned,
    returned.length_le, returned.absent_iff⟩
  · rw [← parts.method_eq, ← lines_eq]
    rfl
  · rw [List.forall₂_map_left_iff, List.forall₂_same]
    exact fun argument _ => sends_render argument
  · cases route.payload <;> simp [attachLines]
  · rw [parts.payload_mem_iff]
    cases route.payload <;> simp [attachLines]

def searchOperation : Operation :=
  let typed (type : InstanceType) : Schema :=
    ⟨none, some (.one type), none, none, none, [], none, none, none⟩
  let items : Schema :=
    ⟨none, some (.one .array), none, some (.every (.schema (typed .string))), none, [], none, none,
      none⟩
  { operationId := some "search"
    summary := none
    description := none
    tags := []
    deprecated := false
    parameters :=
      [.inline ⟨"limit", "query", false, none, false, some (typed .integer), none⟩,
        .inline ⟨"searchText", "query", true, none, false, some (typed .string), none⟩]
    requestBody := none
    responses := [("200", .inline ⟨none, [("application/json", ⟨some items⟩)]⟩)] }

theorem body_statements_search :
    ∃ route, (generate .empty .empty "/items" .empty "GET" searchOperation).2.outcome =
        .ok route ∧
      (route.toFunction 0).code.code = String.intercalate "\n"
        ["builder = client.request(\"GET\", \"/items\")",
          "builder.query(\"searchText\", search_text)",
          "if limit is not None:\n\tbuilder.query(\"limit\", str(limit))",
          "response = await builder.send()",
          "return TypeAdapter(List[str]).validate_json(response.content)"] ∧
      ∃ sent queries, List.Forall₂ Sends queries sent ∧
        route.written.filter (fun parameter =>
            (sent.map Argument.identifier).contains parameter.name) =
          sent.map Argument.toParameter ∧
        ∃ returned, Returned (answerContent .empty searchOperation (location "GET" "/items"))
          returned "List[str]" := by
  have computed : (generate .empty .empty "/items" .empty "GET"
      searchOperation).2.outcome.toOption.map (fun route =>
        ((route.toFunction 0).code.code, (route.toFunction 0).response)) =
      some (String.intercalate "\n"
        ["builder = client.request(\"GET\", \"/items\")",
          "builder.query(\"searchText\", search_text)",
          "if limit is not None:\n\tbuilder.query(\"limit\", str(limit))",
          "response = await builder.send()",
          "return TypeAdapter(List[str]).validate_json(response.content)"], "List[str]") := by
    decide +kernel
  obtain ⟨route, made, seen⟩ := exists_of_toOption computed
  obtain ⟨code, response⟩ := Prod.mk.inj seen
  obtain ⟨_, sent, queries, _, returned, _, _, _, ordered, sends, _, _, _, answered, _⟩ :=
    body_statements made 0
  exact ⟨route, made, code, sent, queries, sends, ordered, returned, response ▸ answered⟩

end OpenApiClient.Route
