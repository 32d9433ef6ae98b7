import OpenApiClient.Proofs.Route.Signature

set_option autoImplicit false

namespace OpenApiClient

namespace Text

def Segment.slotName? : Segment → Option String
  | .slot name => some (String.ofList name)
  | .text _ => none

/-- The names in braces, from left to right. -/
def placeholders (text : String) : List String :=
  (segments text.toList).filterMap Segment.slotName?

theorem Template.names_ofText (name : String → String) (text : String) :
    (Template.ofText name text).names = (placeholders text).map name := by
  simp only [names, ofText, placeholders, List.filterMap_map, List.map_filterMap]
  refine List.filterMap_congr fun segment _ => ?_
  cases segment <;> simp [Segment.rename, Segment.slotName?]

end Text

namespace Route

theorem find?_eq_of_nodup {α κ : Type} [BEq κ] [LawfulBEq κ] {key : α → κ} {entries : List α}
    (distinct : (entries.map key).Nodup) {entry : α} (member : entry ∈ entries) :
    entries.find? (fun other => key other == key entry) = some entry := by
  induction entries with
  | nil => cases member
  | cons first rest ih =>
    obtain ⟨new, others⟩ := List.nodup_cons.mp distinct
    by_cases same : key first = key entry
    · have here : first = entry := by
        rcases List.mem_cons.mp member with rfl | behind
        · rfl
        · exact absurd (same ▸ List.mem_map_of_mem behind) new
      simp [here]
    · have behind : entry ∈ rest := by
        rcases List.mem_cons.mp member with rfl | behind
        · exact absurd rfl same
        · exact behind
      simpa [same] using ih others behind

/-- The function has an argument for the path parameter called like the placeholder, and the path
reads that argument. -/
def ReadsOwnArgument (route : Route) (placeholder : String) : Prop :=
  ∃ argument ∈ route.arguments, parameterKey argument.parameter = (placeholder, "path") ∧
    argument.toParameter ∈ route.signature ∧
      argument.toParameter.name = placeholderName route.named placeholder

/-- Something is sent for the placeholder: it names a path parameter with a schema. -/
def Bound (parameters : List Parameter) (placeholder : String) : Prop :=
  ∃ parameter ∈ parameters, parameterKey parameter = (placeholder, "path") ∧
    parameter.schema.isSome

section Parts

variable {components : Components} {path method : String} {item : PathItem}
  {operation : Operation} {parameters : List Parameter} {route : Route}

theorem Parts.placeholderName_eq
    (parts : Parts components path item method operation parameters route) {entry : Named}
    (member : entry ∈ route.named) {placeholder : String}
    (called : parameterKey entry.parameter = (placeholder, "path")) :
    placeholderName route.named placeholder = entry.identifier := by
  have distinct : (route.named.map fun entry => parameterKey entry.parameter).Nodup := by
    have keys := collectParameters_nodup parts.collected
    rw [← parts.naming.1, List.map_map] at keys
    exact keys
  rw [placeholderName, ← called, find?_eq_of_nodup distinct member]

theorem Parts.isArgumentName_placeholderName
    (parts : Parts components path item method operation parameters route) (placeholder : String) :
    IsArgumentName (placeholderName route.named placeholder) := by
  rw [placeholderName]
  split
  next entry found => exact parts.naming.2.2 entry (List.mem_of_find?_eq_some found)
  next => exact isArgumentName_parameter placeholder

theorem Parts.mem_named
    (parts : Parts components path item method operation parameters route)
    {argument : Argument} (member : argument ∈ route.arguments) :
    argument.named ∈ route.named ∧ argument.parameter.schema.isSome := by
  have named : argument.named ∈ route.arguments.map Argument.named := List.mem_map_of_mem member
  rw [parts.arguments_named] at named
  exact List.mem_filter.mp named

theorem Parts.readsOwnArgument_iff
    (parts : Parts components path item method operation parameters route)
    (placeholder : String) :
    ReadsOwnArgument route placeholder ↔ Bound parameters placeholder := by
  constructor
  · rintro ⟨argument, member, called, _⟩
    obtain ⟨named, typed⟩ := parts.mem_named member
    have collected := List.mem_map_of_mem (f := Named.parameter) named
    rw [parts.naming.1] at collected
    exact ⟨argument.parameter, collected, called, typed⟩
  · rintro ⟨parameter, collected, called, typed⟩
    have kept : parameter ∈ route.arguments.map Argument.parameter := by
      rw [parts.arguments_parameter]
      exact List.mem_filter.mpr ⟨collected, typed⟩
    obtain ⟨argument, member, rfl⟩ := List.mem_map.mp kept
    refine ⟨argument, member, called, ?_, ?_⟩
    · rw [signature_eq]
      exact List.mem_append_left _ (List.mem_cons_of_mem _ (List.mem_map_of_mem member))
    · exact (parts.placeholderName_eq (parts.mem_named member).1 called).symm

theorem Parts.untyped_unbound
    (parts : Parts components path item method operation parameters route)
    {parameter : Parameter} (collected : parameter ∈ parameters) {placeholder : String}
    (called : parameterKey parameter = (placeholder, "path")) (untyped : parameter.schema = none) :
    placeholderName route.named placeholder ∉ route.signature.map (·.name) := by
  obtain ⟨entry, named, rfl⟩ : ∃ entry ∈ route.named, entry.parameter = parameter := by
    rw [← parts.naming.1] at collected
    exact List.mem_map.mp collected
  obtain ⟨_, distinct, free⟩ := parts.naming
  have notLocal := (free entry named).notLocal
  -- The name is neither one of the two fixed ones nor that of another parameter.
  rw [parts.placeholderName_eq named called, names_signature]
  intro member
  rcases List.mem_cons.mp member with client | other
  · rw [client] at notLocal
    exact notLocal (by decide)
  rcases List.mem_append.mp other with typed | body
  · obtain ⟨argument, inside, same⟩ := List.mem_map.mp typed
    obtain ⟨kept, written⟩ := parts.mem_named inside
    have one : argument.named = entry :=
      List.inj_on_of_nodup_map distinct kept named same
    rw [← one] at untyped
    rw [show argument.parameter.schema = none from untyped] at written
    cases written
  · rw [eq_payload_of_mem body] at notLocal
    exact notLocal (by decide)

theorem Parts.placeholderName_undeclared
    (parts : Parts components path item method operation parameters route) {placeholder : String}
    (undeclared : ∀ parameter ∈ parameters, parameterKey parameter ≠ (placeholder, "path")) :
    placeholderName route.named placeholder = Name.parameter placeholder := by
  have missing : route.named.find?
      (fun entry => parameterKey entry.parameter == (placeholder, "path")) = none := by
    refine List.find?_eq_none.mpr fun entry member => ?_
    have collected := List.mem_map_of_mem (f := Named.parameter) member
    rw [parts.naming.1] at collected
    simpa using undeclared entry.parameter collected
  rw [placeholderName, missing]

end Parts

/-- The path reads the arguments of its own placeholders exactly when each of them names a path
parameter with a schema. For a parameter without one it reads a name that the function does not
have, and for no parameter the folded placeholder, whatever that stands for. -/
theorem path_reads_arguments {components : Components} {registered : Registered}
    {path method : String} {item : PathItem} {operation : Operation} {route : Route}
    (made : (generate components registered path item method operation).2.outcome = .ok route) :
    route.statements.head? = some (.request method route.pathTemplate) ∧
      route.pathTemplate.names = (Text.placeholders path).map (placeholderName route.named) ∧
      ∃ parameters,
        (collectParameters components item operation (location method path)).outcome =
          .ok parameters ∧
        ((∀ placeholder ∈ Text.placeholders path, ReadsOwnArgument route placeholder) ↔
          ∀ placeholder ∈ Text.placeholders path, Bound parameters placeholder) ∧
        (∀ parameter ∈ parameters, parameter.location = "path" → parameter.schema = none →
          placeholderName route.named parameter.name ∉ route.signature.map (·.name)) ∧
        ∀ placeholder,
          (∀ parameter ∈ parameters, parameterKey parameter ≠ (placeholder, "path")) →
            placeholderName route.named placeholder = Name.parameter placeholder := by
  obtain ⟨_, _, parameters, parts⟩ := generate_eq_ok_iff.mp made
  refine ⟨?_, ?_, parameters, parts.collected, ?_, ?_, ?_⟩
  · rw [← parts.method_eq]
    simp [statements]
  · rw [pathTemplate, Text.Template.names_ofText, parts.path_eq]
  · exact forall₂_congr fun placeholder _ => parts.readsOwnArgument_iff placeholder
  · intro parameter collected inPath untyped
    exact parts.untyped_unbound collected (by rw [parameterKey, inPath]) untyped
  · intro placeholder undeclared
    exact parts.placeholderName_undeclared undeclared

def contentOperation : Operation :=
  let text : Schema := ⟨none, some (.one .string), none, none, none, [], none, none, none⟩
  { operationId := some "getItem"
    summary := none
    description := none
    tags := []
    deprecated := false
    parameters :=
      [.inline ⟨"shopId", "path", true, none, false, some text, none⟩,
        .inline ⟨"id", "path", true, none, false, none, some [("application/json", ⟨some text⟩)]⟩]
    requestBody := none
    responses := [] }

theorem path_reads_arguments_content :
    ∃ route, (generate .empty .empty "/shops/{shopId}/items/{id}" .empty "GET"
        contentOperation).2.outcome = .ok route ∧
      (Text.placeholders "/shops/{shopId}/items/{id}").map (placeholderName route.named) =
        ["shop_id", "id"] ∧
      ∃ parameters, (collectParameters .empty .empty contentOperation
          (location "GET" "/shops/{shopId}/items/{id}")).outcome = .ok parameters ∧
        ∀ parameter ∈ parameters, parameter.location = "path" → parameter.schema = none →
          placeholderName route.named parameter.name ∉ route.signature.map (·.name) := by
  have computed : (generate .empty .empty "/shops/{shopId}/items/{id}" .empty "GET"
      contentOperation).2.outcome.toOption.map (fun route => route.pathTemplate.names) =
        some ["shop_id", "id"] := by
    decide +kernel
  obtain ⟨route, made, names⟩ := exists_of_toOption computed
  obtain ⟨_, read, parameters, collected, _, unbound, _⟩ := path_reads_arguments made
  exact ⟨route, made, read.symm.trans names, parameters, collected, unbound⟩

theorem path_reads_no_argument :
    ∃ route, (generate .empty .empty "/shops/{shopId}/items/{id}" .empty "GET"
        contentOperation).2.outcome = .ok route ∧
      "id" ∈ route.pathTemplate.names ∧ "id" ∉ route.signature.map (·.name) := by
  have computed : (generate .empty .empty "/shops/{shopId}/items/{id}" .empty "GET"
      contentOperation).2.outcome.toOption.map
        (fun route => (route.pathTemplate.names, route.signature.map (·.name))) =
          some (["shop_id", "id"], ["client", "shop_id"]) := by
    decide +kernel
  obtain ⟨route, made, seen⟩ := exists_of_toOption computed
  obtain ⟨names, signature⟩ := Prod.mk.inj seen
  refine ⟨route, made, ?_, ?_⟩
  · rw [names]
    decide
  · rw [signature]
    decide

end Route
end OpenApiClient
