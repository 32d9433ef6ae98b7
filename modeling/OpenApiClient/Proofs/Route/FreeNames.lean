import OpenApiClient.Proofs.Code.FreeNames
import OpenApiClient.Proofs.Package.Literals
import OpenApiClient.Proofs.Route.Listing
import OpenApiClient.Proofs.Route.Placeholder
import OpenApiClient.Proofs.Route.Selection

set_option autoImplicit false

namespace OpenApiClient.Route

open Code

def convertedNames (kind : TypeKind) (identifier : String) : List String :=
  match kind with
  | .map | .boolean => ["json", identifier]
  | .integer | .float => ["str", identifier]
  | .record => [identifier, "True"]
  | _ => [identifier]

theorem identifier_closed {name : String} (identifier : Name.IsIdentifier name) :
    Moves .gap (name.toList ++ ")".toList) .gap [name] [] := by
  have closes : Moves (.word name.toList) ")".toList .gap [String.ofList name.toList] [] := rfl
  rw [String.ofList_toList] at closes
  exact (run_identifier identifier).append closes

theorem identifier_called {name : String} (identifier : Name.IsIdentifier name)
    {rest : List Char} {read : List String} (call : Moves .dotted rest .gap read []) :
    Moves .gap (name.toList ++ '.' :: rest) .gap (name :: read) [] := by
  have dot : Moves (.word name.toList) ['.'] .dotted [String.ofList name.toList] [] := rfl
  simpa using ((run_identifier identifier).append dot).append call

theorem converted_read (kind : TypeKind) {identifier : String}
    (named : Name.IsIdentifier identifier) :
    Moves .gap ((converted kind identifier).toList ++ ")".toList) .gap
      (convertedNames kind identifier) [] := by
  have json : Moves .gap "json.dumps(".toList .gap ["json"] [] := by decide +kernel
  have str : Moves .gap "str(".toList .gap ["str"] [] := by decide +kernel
  have closes : Moves .gap ")".toList .gap [] [] := rfl
  have isoformat : Moves .dotted ("isoformat()".toList ++ [')']) .gap [] [] := by
    decide +kernel
  have secret : Moves .dotted ("get_secret_value()".toList ++ [')']) .gap [] [] := by
    decide +kernel
  have dumped : Moves .dotted ("model_dump_json(by_alias=True)".toList ++ [')']) .gap
      ["True"] [] := by
    decide +kernel
  have decoded : Moves .dotted ("decode()".toList ++ [')']) .gap [] [] := by decide +kernel
  -- The identifier stands in a call, or has a method called on it, or stands alone.
  cases kind <;> simp only [converted, String.toList_append, List.append_assoc, convertedNames]
  case map | boolean =>
    have whole := (json.append (identifier_closed named)).silent closes
    rwa [List.append_assoc, List.append_assoc] at whole
  case integer | float =>
    have whole := (str.append (identifier_closed named)).silent closes
    rwa [List.append_assoc, List.append_assoc] at whole
  case timestamp => exact identifier_called named isoformat
  case secret => exact identifier_called named secret
  case record => exact identifier_called named dumped
  case bytes => exact identifier_called named decoded
  all_goals exact identifier_closed named

namespace Statement

/-- The names that a statement reads, keywords included. -/
def names : Statement → List String
  | .request _ path => "client" :: path.names
  | .query _ identifier kind required =>
      (if required then [] else ["if", identifier, "is", "not", "None"]) ++
        "builder" :: convertedNames kind identifier
  | .attach _ => ["builder", "payload"]
  | .send => ["await", "builder"]
  | .returnDecoded type =>
      ["return", "TypeAdapter"] ++ (namesFound type.render).read ++ ["response"]
  | .returnText | .returnOctets => ["return", "response"]

def assigned : Statement → List String
  | .request _ _ => ["builder"]
  | .send => ["response"]
  | _ => []

def Formed (statement : Statement) : Prop := statement.Pasted (TypeOver MappedType.typeWords)

theorem query_read (wireName : String) {identifier : String}
    (named : Name.IsIdentifier identifier) (kind : TypeKind) :
    Moves .gap ((queryText wireName identifier kind).toList ++ ['\n']) .gap
      ("builder" :: convertedNames kind identifier) [] := by
  have opens : Moves .gap "builder.query(".toList .gap ["builder"] [] := by decide +kernel
  have comma : Moves .gap ", ".toList .gap [] [] := rfl
  have line : Moves .gap ['\n'] .gap [] [] := rfl
  have text : queryText wireName identifier kind =
      "builder.query(" ++ Json.literal wireName ++ ", " ++ converted kind identifier ++ ")" := rfl
  have whole := ((opens.silent (literal_read wireName)).silent comma).append
    ((converted_read kind named).silent line)
  rw [text, String.toList_append, String.toList_append, String.toList_append,
    String.toList_append]
  simpa only [List.append_assoc, List.append_nil, List.cons_append, List.nil_append] using whole

theorem toList_optional_query (wireName identifier : String) (kind : TypeKind) :
    (query wireName identifier kind false).render.toList =
      "if ".toList ++ identifier.toList ++ " is not None:\n\t".toList ++
        (queryText wireName identifier kind).toList := by
  have text : (query wireName identifier kind false).render =
      "if " ++ identifier ++ " is not None:\n\t" ++ queryText wireName identifier kind := rfl
  rw [text, String.toList_append, String.toList_append, String.toList_append]

theorem asked_read {identifier : String} (named : Name.IsIdentifier identifier) :
    Moves .gap ("if ".toList ++ identifier.toList ++ " is not None:\n\t".toList) .gap
      ["if", identifier, "is", "not", "None"] [] := by
  have opens : Moves .gap "if ".toList (.spaced ['i', 'f']) [] [] := by decide +kernel
  have asked : Moves (.spaced ['i', 'f']) identifier.toList (.word identifier.toList) ["if"] [] :=
    run_spaced named ['i', 'f']
  have blank : Moves (.word identifier.toList) [' '] (.spaced identifier.toList) [] [] := rfl
  -- Only the next word tells that the identifier is not assigned to.
  have reads : Moves (.spaced identifier.toList) ['i'] (.word ['i'])
      [String.ofList identifier.toList] [] := rfl
  rw [String.ofList_toList] at reads
  have asks : Moves (.word ['i']) "s not None:\n\t".toList .gap ["is", "not", "None"] [] := by
    decide +kernel
  exact (opens.append asked).append (blank.append (reads.append asks))

theorem toList_request (method : String) (path : Text.Template) :
    (request method path).render.toList =
      "builder = client.request(".toList ++ (Json.literal method).toList ++ ", ".toList ++
        path.literal.toList ++ ")".toList := by
  have text : (request method path).render =
      "builder = client.request(" ++ Json.literal method ++ ", " ++ path.literal ++ ")" := rfl
  rw [text, String.toList_append, String.toList_append, String.toList_append, String.toList_append]

theorem toList_returnDecoded (type : Expression) :
    (returnDecoded type).render.toList =
      "return TypeAdapter(".toList ++ (type.render.toList ++ [')']) ++
        ".validate_json(response.content)".toList := by
  have text : (returnDecoded type).render =
      "return TypeAdapter(" ++ type.render ++ ").validate_json(response.content)" := rfl
  rw [text, String.toList_append, String.toList_append, List.append_assoc, List.append_assoc,
    List.append_assoc]
  rfl

theorem found {statement : Statement} (formed : statement.Formed) :
    Moves .gap (statement.render.toList ++ ['\n']) .gap statement.names statement.assigned := by
  have line : Moves .gap ['\n'] .gap [] [] := rfl
  cases statement with
  | request method path =>
    have opens : Moves .gap "builder = client.request(".toList .gap ["client"] ["builder"] := by
      decide +kernel
    have comma : Moves .gap ", ".toList .gap [] [] := rfl
    have closes : Moves .gap ")".toList .gap [] [] := rfl
    rw [toList_request]
    exact ((((opens.silent (literal_read method)).silent comma).append
      (template_read formed)).silent closes).silent line
  | query wireName identifier kind required =>
    have named : Name.IsIdentifier identifier := formed
    cases required with
    | true => exact query_read wireName named kind
    | false =>
      -- The same line as for a required one, behind the question whether there is a value.
      rw [toList_optional_query, List.append_assoc]
      exact (asked_read named).append (query_read wireName named kind)
  | attach format => cases format <;> decide +kernel
  | send => decide +kernel
  | returnDecoded type =>
    obtain ⟨names, typed, _⟩ := formed
    have opens : Moves .gap "return TypeAdapter(".toList .gap ["return", "TypeAdapter"] [] := by
      decide +kernel
    have closes : Moves .gap (".validate_json(response.content)".toList ++ ['\n']) .gap
        ["response"] [] := by
      decide +kernel
    change Moves .gap _ .gap
      (["return", "TypeAdapter"] ++ (namesFound type.render).read ++ ["response"]) []
    rw [toList_returnDecoded, typed.namesFound_read, List.append_assoc _ _ ['\n']]
    exact (opens.append (typed ')' (by simp))).append closes
  | returnText => decide +kernel
  | returnOctets => decide +kernel

theorem block_found {statements : List Statement}
    (formed : ∀ statement ∈ statements, statement.Formed) :
    namesFound (String.intercalate "\n" (statements.map render)) =
      ⟨.gap, statements.flatMap names, statements.flatMap assigned⟩ := by
  suffices lines : Moves .gap
      ((String.intercalate "\n" (statements.map render)).toList ++ ['\n']) .gap
      (statements.flatMap names) (statements.flatMap assigned) from lines
  -- Every line ends in a gap, so the next one is read as if it stood alone.
  induction statements with
  | nil => rfl
  | cons statement rest ih =>
    obtain ⟨here, behind⟩ := List.forall_mem_cons.mp formed
    cases rest with
    | nil => simpa using found here
    | cons next more =>
      have whole := (found here).append (ih behind)
      have feed : "\n".toList = ['\n'] := rfl
      rw [List.map_cons, List.map_cons, String.intercalate_cons_cons, String.toList_append,
        String.toList_append, feed, List.append_assoc]
      exact whole

end Statement

theorem bodyType_typeOver {schema : Schema} {usage : Usage} {field : String}
    {mapped : MappedType} (made : bodyType schema usage field = .ok mapped) :
    TypeOver MappedType.typeWords mapped.expression.render := by
  rcases bodyType_written made with written | ⟨item, written, rfl⟩
  · exact written.typeOver
  · rw [MappedType.listOf, Expression.render_wrap]
    exact written.typeOver.wrap "List" (by decide) (by decide)

def builtinNames : List String := ["bool", "bytes", "str"]

/-- A built-in name that stands in an annotation of the function, or that it makes the text of a
number with. -/
def ReadsBuiltin (route : Route) (name : String) : Prop :=
  name ∈ builtinNames ∧
    ((∃ text ∈ (route.toFunction 0).annotations, name ∈ readNames text) ∨
      name = "str" ∧ ∃ argument ∈ route.sent,
        argument.type.kind = .integer ∨ argument.type.kind = .float)

/-- A name for a placeholder of the path that the function has no parameter for. -/
def Unbound (route : Route) (name : String) : Prop :=
  name ∈ route.pathTemplate.names ∧ name ∉ route.signature.map (·.name)

def ownNames (route : Route) : List String :=
  route.signature.map (·.name) ++ ["builder", "response"]

inductive NameOrigin (route : Route) (name : String) : Prop where
  | fixed (taken : Name.isTakenName name = true)
  | own (own : name ∈ route.ownNames)
  | builtin (reads : ReadsBuiltin route name)
  | unbound (unbound : Unbound route name)

namespace NameOrigin

theorem client (route : Route) : route.NameOrigin "client" :=
  .own (List.mem_append_left _ (by rw [names_signature]; exact .head _))

theorem builder (route : Route) : route.NameOrigin "builder" :=
  .own (List.mem_append_right _ (.head _))

theorem response (route : Route) : route.NameOrigin "response" :=
  .own (List.mem_append_right _ (.tail _ (.head _)))

end NameOrigin

theorem convertedNames_cases {kind : TypeKind} {identifier name : String}
    (read : name ∈ convertedNames kind identifier) :
    name = identifier ∨ Name.isTakenName name = true ∨
      name = "str" ∧ (kind = .integer ∨ kind = .float) := by
  have json : Name.isTakenName "json" = true := by decide
  have true' : Name.isTakenName "True" = true := by decide
  cases kind <;> simp only [convertedNames, List.mem_cons, List.not_mem_nil, or_false] at read <;>
    grind

theorem NameOrigin.of_sent {route : Route} {argument : Argument} (sent : argument ∈ route.sent) :
    ∀ name ∈ (sendStatement argument).names, route.NameOrigin name := by
  have own : route.NameOrigin argument.identifier := .own <| List.mem_append_left _ <| by
    have given : argument.identifier ∈ route.arguments.map Argument.identifier :=
      List.mem_map_of_mem (List.mem_filter.mp sent).1
    rw [names_signature]
    exact .tail _ (List.mem_append_left _ given)
  refine List.forall_mem_append.mpr ⟨?_, List.forall_mem_cons.mpr ⟨.builder route, ?_⟩⟩
  · split
    next => exact List.forall_mem_nil _
    next =>
      simp only [List.forall_mem_cons]
      exact ⟨.fixed (by decide), own, .fixed (by decide), .fixed (by decide), .fixed (by decide),
        List.forall_mem_nil _⟩
  · intro name read
    rcases convertedNames_cases read with rfl | taken | ⟨rfl, number⟩
    · exact own
    · exact .fixed taken
    · exact .builtin ⟨by decide, .inr ⟨rfl, argument, sent, number⟩⟩

theorem request_mem_statements (route : Route) :
    .request route.method route.pathTemplate ∈ route.statements := by
  simp [statements]

theorem send_mem_statements {route : Route} {argument : Argument} (sent : argument ∈ route.sent) :
    sendStatement argument ∈ route.statements := by
  have queried : sendStatement argument ∈ queryStatements route.arguments := by
    rw [queryStatements_eq]
    exact List.mem_map_of_mem sent
  simp [statements, queried]

section Parts

variable {components : Components} {path method : String} {item : PathItem}
  {operation : Operation} {parameters : List Parameter} {route : Route}

theorem Parts.formed (parts : Parts components path item method operation parameters route) :
    ∀ statement ∈ route.statements, statement.Formed := parts.pasted bodyType_typeOver

theorem assigned_statements (route : Route) :
    route.statements.flatMap Statement.assigned = ["builder", "response"] := by
  have queries : (queryStatements route.arguments).flatMap Statement.assigned = [] :=
    List.flatMap_eq_nil_iff.mpr fun statement member => by
      obtain ⟨argument, -, rfl⟩ := List.mem_map.mp member
      rfl
  have answer : route.answer.statements.flatMap Statement.assigned = [] := by
    cases route.answer <;> rfl
  simp only [statements, List.flatMap_append, queries, answer]
  cases route.payload <;> rfl

theorem Parts.namesFound_code
    (parts : Parts components path item method operation parameters route) (order : Int) :
    namesFound (route.toFunction order).code.code =
      ⟨.gap, route.statements.flatMap Statement.names, ["builder", "response"]⟩ := by
  rw [← assigned_statements route]
  exact Statement.block_found parts.formed

def annotationWords : List String := "ApiClient" :: "Optional" :: MappedType.typeWords

theorem typeWords_subset : MappedType.typeWords ⊆ annotationWords :=
  fun _ inside => .tail _ (.tail _ inside)

theorem Parts.payload_typeOver
    (parts : Parts components path item method operation parameters route) {payload : Payload}
    (given : route.payload = some payload) :
    TypeOver MappedType.typeWords payload.type.expression.render := by
  obtain ⟨schema, made⟩ := requestPayload_typed (given ▸ parts.payload)
  exact bodyType_typeOver made

theorem Parts.answer_typeOver
    (parts : Parts components path item method operation parameters route) :
    TypeOver MappedType.typeWords route.answer.type.render := by
  have done := parts.answer
  cases expected : route.answer with
  | nothing => exact .ofText (by decide) (by decide)
  | decoded type =>
    rw [expected] at done
    cases expectedAnswer_answered done with
    | decoded _ typed _ => exact bodyType_typeOver typed
  | text => exact .ofText (by decide) (by decide)
  | octets => exact .ofText (by decide) (by decide)

theorem Parts.argument_typeOver
    (parts : Parts components path item method operation parameters route) {argument : Argument}
    (member : argument ∈ route.arguments) :
    TypeOver annotationWords
      (argument.type.wrapOptional argument.parameter.required).expression.render := by
  have written := parts.argument_written member
  have known : TypeOver annotationWords argument.type.expression.render :=
    written.typeOver.mono typeWords_subset
  rw [written.render_wrapOptional]
  split
  next => exact known
  next => exact known.wrap "Optional" (by decide) (by decide)

theorem Parts.annotation_typeOver
    (parts : Parts components path item method operation parameters route) (order : Int) :
    ∀ text ∈ (route.toFunction order).annotations, TypeOver annotationWords text := by
  intro text member
  rcases List.mem_append.mp member with parameter | response
  · obtain ⟨parameter, inside, typed⟩ := List.mem_filterMap.mp parameter
    change parameter ∈ route.signature at inside
    rw [signature_eq, List.cons_append] at inside
    rcases List.mem_cons.mp inside with rfl | inside
    · exact Option.some.inj typed ▸ .ofText (by decide) (by decide)
    rcases List.mem_append.mp inside with argument | payload
    · obtain ⟨argument, here, rfl⟩ := List.mem_map.mp argument
      exact Option.some.inj typed ▸ parts.argument_typeOver here
    · obtain ⟨payload, given, rfl⟩ := List.mem_map.mp payload
      have known := parts.payload_typeOver (Option.mem_toList.mp given)
      exact Option.some.inj typed ▸ known.mono typeWords_subset
  · rw [List.mem_singleton.mp response]
    exact parts.answer_typeOver.mono typeWords_subset

theorem Parts.localNames_eq
    (parts : Parts components path item method operation parameters route) (order : Int) :
    (route.toFunction order).localNames = route.ownNames := by
  rw [Function.localNames, parts.namesFound_code]
  rfl

theorem Parts.str_not_own
    (parts : Parts components path item method operation parameters route) :
    "str" ∉ route.ownNames := by
  rw [ownNames, names_signature]
  intro member
  rcases List.mem_append.mp member with given | assigned
  · rcases List.mem_cons.mp given with client | given
    · exact absurd client (by decide)
    rcases List.mem_append.mp given with argument | payload
    · exact parts.local_not_mem (by decide) argument
    · exact absurd (eq_payload_of_mem payload) (by decide)
  · exact absurd assigned (by decide)

theorem Parts.placeholder_not_assigned
    (parts : Parts components path item method operation parameters route) {name : String}
    (read : name ∈ route.pathTemplate.names) : name ∉ ["builder", "response"] := by
  have assigned : ∀ word ∈ ["builder", "response"], word ∈ Name.routeLocalNames := by decide
  rw [pathTemplate, Text.Template.names_ofText] at read
  obtain ⟨placeholder, -, rfl⟩ := List.mem_map.mp read
  exact fun member =>
    (parts.isArgumentName_placeholderName placeholder).notLocal (assigned _ member)

theorem Parts.origin_annotation
    (parts : Parts components path item method operation parameters route) {text name : String}
    (member : text ∈ (route.toFunction 0).annotations) (read : name ∈ readNames text) :
    Name.isTakenName name = true ∨ ReadsBuiltin route name := by
  have words : ∀ word ∈ annotationWords, Name.isTakenName word = true ∨ word ∈ builtinNames := by
    decide
  exact (words name ((parts.annotation_typeOver 0 text member).readNames_subset read)).imp_right
    fun listed => ⟨listed, .inl ⟨text, member, read⟩⟩

theorem Parts.origin_body
    (parts : Parts components path item method operation parameters route) :
    ∀ statement ∈ route.statements, ∀ name ∈ statement.names, route.NameOrigin name := by
  apply parts.forall_statements fun statement => ∀ name ∈ statement.names, route.NameOrigin name
  case request =>
    refine List.forall_mem_cons.mpr ⟨.client route, fun name read => ?_⟩
    by_cases own : name ∈ route.signature.map (·.name)
    · exact .own (List.mem_append_left _ own)
    · exact .unbound ⟨read, own⟩
  case query => exact fun argument sent => NameOrigin.of_sent sent
  case attach =>
    intro payload given
    refine List.forall_mem_cons.mpr ⟨.builder route, List.forall_mem_singleton.mpr (.own ?_)⟩
    have written := (payload_mem_signature parts given _).mpr rfl
    exact List.mem_append_left _ (List.mem_map.mpr ⟨_, written⟩)
  case send =>
    exact List.forall_mem_cons.mpr
      ⟨.fixed (by decide), List.forall_mem_singleton.mpr (.builder route)⟩
  case decoded =>
    intro schema field type answered made
    simp only [Statement.names, List.forall_mem_append, List.forall_mem_cons]
    refine ⟨⟨⟨.fixed (by decide), .fixed (by decide), List.forall_mem_nil _⟩, ?_⟩,
      .response route, List.forall_mem_nil _⟩
    -- The type that is decoded is the one that the function returns.
    have annotated : type.expression.render ∈ (route.toFunction 0).annotations := by
      refine List.mem_append_right _ (List.mem_singleton.mpr ?_)
      change type.expression.render = route.answer.type.render
      rw [answered, Answer.type]
    intro name read
    cases keyword : Name.isKeyword name with
    | true => exact .fixed (by rw [Name.isTakenName, keyword]; rfl)
    | false =>
      have origin := parts.origin_annotation annotated (mem_readNames.mpr ⟨read, keyword⟩)
      exact origin.elim .fixed .builtin
  case text | octets =>
    exact List.forall_mem_cons.mpr
      ⟨.fixed (by decide), List.forall_mem_singleton.mpr (.response route)⟩

theorem Parts.mem_globalNames
    (parts : Parts components path item method operation parameters route) (order : Int)
    {name : String} (free : Name.isTakenName name = false) :
    name ∈ (route.toFunction order).globalNames ↔
      ReadsBuiltin route name ∨ Unbound route name := by
  have keyword : Name.isKeyword name = false := (Name.isTakenName_eq_false_iff.mp free).1
  rw [Function.mem_globalNames, mem_readNames, parts.namesFound_code, parts.localNames_eq]
  constructor
  · rintro (⟨text, member, read⟩ | ⟨⟨read, -⟩, other⟩)
    · rcases parts.origin_annotation member read with taken | reads
      · rw [free] at taken
        cases taken
      · exact .inl reads
    · -- Of the four origins of a name two are left for one that is free and not its own.
      obtain ⟨statement, member, read⟩ := List.mem_flatMap.mp read
      cases parts.origin_body statement member name read with
      | fixed taken =>
        rw [free] at taken
        cases taken
      | own own => exact absurd own other
      | builtin reads => exact .inl reads
      | unbound unbound => exact .inr unbound
  · rintro (⟨-, typed | ⟨rfl, argument, sent, number⟩⟩ | ⟨read, unbound⟩)
    · exact .inl typed
    · refine .inr ⟨⟨List.mem_flatMap.mpr ⟨_, send_mem_statements sent, ?_⟩, keyword⟩,
        parts.str_not_own⟩
      refine List.mem_append_right _ (.tail _ ?_)
      rcases number with integer | float
      · rw [integer]
        exact .head _
      · rw [float]
        exact .head _
    · refine .inr ⟨⟨List.mem_flatMap.mpr ⟨_, request_mem_statements route, .tail _ read⟩,
        keyword⟩, ?_⟩
      exact fun own => (List.mem_append.mp own).elim unbound (parts.placeholder_not_assigned read)

end Parts

end OpenApiClient.Route
