import OpenApiClient.Proofs.Document.Schemas

set_option autoImplicit false

namespace OpenApiClient

open Checked

theorem Handle.read_dump {α : Type} {read : Value → Checked α} {write : α → Value}
    (inline : ∀ a, (write a).get? "$ref" = none) {handle : Handle α}
    (undone : ∀ a, handle = .inline a → read (write a) = .valid a) :
    Handle.read read (handle.dump write) = .valid handle := by
  cases handle with
  | reference pointer => rfl
  | inline entity =>
    rw [Handle.dump, Handle.read, inline entity]
    exact within_eq_valid.mpr (map_valid (undone entity rfl))

theorem Handle.dump_plain {α : Type} {write : α → Value} (plain : Plain write) :
    Plain (Handle.dump write) := by
  intro handle
  cases handle with
  | reference pointer => rfl
  | inline entity => exact plain entity

theorem MediaType.read_dump (media : MediaType) : MediaType.read media.dump = .valid media := by
  refine map_valid (fieldOr_written ?_)
  simpa using Recorded.set Schema.dump_plain fun schema _ => schema.read_dump

theorem Content.read_dump (content : Content) : Content.read content.dump = .valid content :=
  mapping_written fun entry _ => entry.2.read_dump

theorem Content.dump_plain : Plain Content.dump := fun _ => rfl

theorem Parameter.read_dump (parameter : Parameter) :
    Parameter.read parameter.dump = .valid parameter := by
  refine seq_valid (seq_valid (seq_valid (seq_valid (seq_valid (seq_valid (map_valid
    ?name) ?location) ?required) ?description) ?deprecated) ?schema) ?content
  case name => exact field_written (by simp [text])
  case location => exact field_written (by simp [text])
  case required => exact fieldOr_written (by simpa using Recorded.flag parameter.required)
  case description => exact fieldOr_written (by simpa using Recorded.text parameter.description)
  case deprecated => exact fieldOr_written (by simpa using Recorded.flag parameter.deprecated)
  case schema =>
    exact fieldOr_written
      (by simpa using Recorded.set Schema.dump_plain fun schema _ => schema.read_dump)
  case content =>
    exact fieldOr_written
      (by simpa using Recorded.set Content.dump_plain fun content _ => content.read_dump)

theorem RequestBody.read_dump (body : RequestBody) :
    RequestBody.read body.dump = .valid body := by
  refine seq_valid (seq_valid (map_valid ?content) ?description) ?required
  case content => exact field_written (by simp [Content.read_dump])
  case description => exact fieldOr_written (by simpa using Recorded.text body.description)
  case required => exact fieldOr_written (by simpa using Recorded.flag body.required)

theorem Response.read_dump (response : Response) :
    Response.read response.dump = .valid response := by
  refine seq_valid (map_valid ?description) ?content
  case description => exact fieldOr_written (by simpa using Recorded.text response.description)
  case content =>
    exact fieldOr_written
      (by simpa using Recorded.filled (Content.read_dump response.content))

theorem readParameter_dump (handle : Handle Parameter) :
    Handle.read Parameter.read (handle.dump Parameter.dump) = .valid handle :=
  Handle.read_dump (fun parameter => by simp [Parameter.dump]) fun parameter _ =>
    parameter.read_dump

theorem readRequestBody_dump (handle : Handle RequestBody) :
    Handle.read RequestBody.read (handle.dump RequestBody.dump) = .valid handle :=
  Handle.read_dump (fun body => by simp [RequestBody.dump]) fun body _ => body.read_dump

theorem readResponse_dump (handle : Handle Response) :
    Handle.read Response.read (handle.dump Response.dump) = .valid handle :=
  Handle.read_dump (fun response => by simp [Response.dump]) fun response _ => response.read_dump

theorem readParameters_dump (parameters : List (Handle Parameter)) :
    list (Handle.read Parameter.read) (dumpParameters parameters) = .valid parameters :=
  list_written fun handle _ => readParameter_dump handle

theorem readResponses_dump {responses : List (String × Handle Response)}
    (distinct : (Entries.keys responses).Nodup) :
    readResponses (dumpEntries (Handle.dump Response.dump) responses) = .valid responses := by
  -- Every key is made a text before the entries are collected again, which the distinct keys of a
  -- written document survive.
  let written := responses.map fun entry => (entry.1, entry.2.dump Response.dump)
  have keys : Entries.keys written = Entries.keys responses := by simp [written, Entries.keys]
  have plain : (written.map fun field => (Scalar.text field.1, field.2)).map
      (fun field => (plainText field.1, field.2)) = written := by
    rw [List.map_map]
    exact List.map_id _
  have again : mapping (Handle.read Response.read) (.record written) = .valid responses :=
    mapping_written fun entry _ => readResponse_dump entry.2
  change mapping (Handle.read Response.read) (.record (Entries.ofPairs ((written.map _).map _))) = _
  rw [plain, Entries.ofPairs_of_nodup (keys ▸ distinct)]
  exact again

def Operation.DistinctStatuses (operation : Operation) : Prop :=
  (Entries.keys operation.responses).Nodup

def PathItem.DistinctStatuses (item : PathItem) : Prop :=
  ∀ method, ∀ operation ∈ item.operation? method, operation.DistinctStatuses

def Document.DistinctStatuses (document : Document) : Prop :=
  ∀ entry ∈ document.paths, entry.2.DistinctStatuses

theorem Operation.read_dump {operation : Operation} (distinct : operation.DistinctStatuses) :
    Operation.read operation.dump = .valid operation := by
  refine seq_valid (seq_valid (seq_valid (seq_valid (seq_valid (seq_valid (seq_valid (map_valid
    ?operationId) ?summary) ?description) ?tags) ?deprecated) ?parameters) ?requestBody) ?responses
  case operationId => exact fieldOr_written (by simpa using Recorded.text operation.operationId)
  case summary => exact fieldOr_written (by simpa using Recorded.text operation.summary)
  case description => exact fieldOr_written (by simpa using Recorded.text operation.description)
  case tags => exact fieldOr_written (by simpa using Recorded.filled (list_texts operation.tags))
  case deprecated => exact fieldOr_written (by simpa using Recorded.flag operation.deprecated)
  case parameters =>
    exact fieldOr_written
      (by simpa using Recorded.filled (readParameters_dump operation.parameters))
  case requestBody =>
    exact fieldOr_written
      (by simpa using Recorded.set (Handle.dump_plain fun _ => rfl) fun handle _ =>
        readRequestBody_dump handle)
  case responses =>
    exact fieldOr_written (by simpa using Recorded.filled (readResponses_dump distinct))

theorem Operation.dump_plain : Plain Operation.dump := fun _ => rfl

def PathItem.ownFields (item : PathItem) : List (String × Value) :=
  setField "summary" item.summary .text ++ setField "description" item.description .text ++
    filledField "parameters" item.parameters dumpParameters

def PathItem.operationFields (item : PathItem) : List (String × Value) :=
  Method.all.flatMap fun method => setField method.key (item.operation? method) Operation.dump

theorem PathItem.dump_eq (item : PathItem) :
    item.dump = .record (item.ownFields ++ item.operationFields) := rfl

@[simp] theorem PathItem.get?_operationFields (item : PathItem) (method : Method) :
    Entries.get? item.operationFields method.key =
      (item.operation? method).map Operation.dump := by
  cases method <;>
    simp [operationFields, Method.all, Method.generated, Method.ignored, Method.key]

theorem PathItem.get?_operationFields_of_ne (item : PathItem) {name : String}
    (other : ∀ method : Method, method.key ≠ name) :
    Entries.get? item.operationFields name = none :=
  Entries.get?_flatMap_eq_none fun method _ => by rw [get?_setField, if_neg (other method)]

theorem PathItem.read_dump {item : PathItem} (distinct : item.DistinctStatuses) :
    PathItem.read item.dump = .valid item := by
  -- A path has fields of its own and a field for each method, under names that differ.
  have other (method : Method) : Entries.get? item.ownFields method.key = none := by
    cases method <;> simp [ownFields, Method.key]
  have operationRead (method : Method) : fieldOr none
      ((item.ownFields ++ item.operationFields).map fun field => (.text field.1, field.2))
        method.key method.key (optional Operation.read) = .valid (item.operation? method) := by
    refine fieldOr_written ?_
    simpa [other] using Recorded.set Operation.dump_plain fun operation found =>
      Operation.read_dump (distinct method operation found)
  have noSummary : Entries.get? item.operationFields "summary" = none :=
    item.get?_operationFields_of_ne (by rintro ⟨⟩ <;> decide)
  have noDescription : Entries.get? item.operationFields "description" = none :=
    item.get?_operationFields_of_ne (by rintro ⟨⟩ <;> decide)
  have noParameters : Entries.get? item.operationFields "parameters" = none :=
    item.get?_operationFields_of_ne (by rintro ⟨⟩ <;> decide)
  rw [PathItem.dump_eq]
  refine seq_valid (seq_valid (seq_valid (seq_valid (seq_valid (seq_valid (seq_valid (seq_valid
    (seq_valid (seq_valid (map_valid ?summary) ?description) ?parameters)
      (operationRead .get)) (operationRead .put)) (operationRead .post)) (operationRead .delete))
      (operationRead .patch)) (operationRead .head)) (operationRead .options))
        (operationRead .trace)
  case summary =>
    exact fieldOr_written (by simpa [ownFields, noSummary] using Recorded.text item.summary)
  case description =>
    exact fieldOr_written
      (by simpa [ownFields, noDescription] using Recorded.text item.description)
  case parameters =>
    exact fieldOr_written (by
      simpa [ownFields, noParameters] using Recorded.filled (readParameters_dump item.parameters))

theorem Components.read_dump (components : Components) :
    Components.read components.dump = .valid components := by
  refine seq_valid (seq_valid (seq_valid (map_valid ?schemas) ?parameters) ?responses) ?bodies
  case schemas =>
    exact fieldOr_written (by
      simpa using Recorded.filled (mapping_written fun entry _ => Schema.read_dump entry.2))
  case parameters =>
    exact fieldOr_written (by
      simpa using Recorded.filled (mapping_written fun entry _ => readParameter_dump entry.2))
  case responses =>
    exact fieldOr_written (by
      simpa using Recorded.filled (mapping_written fun entry _ => readResponse_dump entry.2))
  case bodies =>
    exact fieldOr_written (by
      simpa using Recorded.filled (mapping_written fun entry _ => readRequestBody_dump entry.2))

theorem Components.isEmpty_iff {components : Components} :
    components.isEmpty ↔ components = .empty := by
  obtain ⟨schemas, parameters, responses, bodies⟩ := components
  simp [isEmpty, empty, and_assoc]

theorem ServerVariable.read_dump (choice : ServerVariable) :
    ServerVariable.read choice.dump = .valid choice := by
  refine seq_valid (seq_valid (map_valid ?default) ?enum) ?description
  case default => exact field_written (by simp [text])
  case enum =>
    exact fieldOr_written
      (by simpa using Recorded.set (fun _ => rfl) fun texts _ => list_texts texts)
  case description => exact fieldOr_written (by simpa using Recorded.text choice.description)

theorem Server.read_dump (server : Server) : Server.read server.dump = .valid server := by
  refine seq_valid (seq_valid (map_valid ?url) ?description) ?serverVariables
  case url => exact field_written (by simp [text])
  case description => exact fieldOr_written (by simpa using Recorded.text server.description)
  case serverVariables =>
    exact fieldOr_written (by
      simpa using Recorded.filled (mapping_written fun entry _ => entry.2.read_dump))

theorem Info.read_dump (info : Info) : Info.read info.dump = .valid info := by
  refine seq_valid (seq_valid (map_valid ?title) ?version) ?description
  case title => exact fieldOr_written (by simpa using Recorded.standardText _ _)
  case version => exact fieldOr_written (by simpa using Recorded.standardText _ _)
  case description => exact fieldOr_written (by simpa using Recorded.text info.description)

theorem Document.read_dump {document : Document} (distinct : document.DistinctStatuses) :
    Document.read document.dump = .valid document := by
  refine seq_valid (seq_valid (seq_valid (seq_valid (map_valid
    ?version) ?info) ?servers) ?paths) ?components
  case version => exact fieldOr_written (by simpa using Recorded.standardText _ _)
  case info => exact fieldOr_written (by simpa using Recorded.standard document.info.read_dump)
  case servers =>
    exact fieldOr_written (by
      simpa using Recorded.filled (list_written fun server _ => Server.read_dump server))
  case paths =>
    exact fieldOr_written (by
      simpa using Recorded.filled (mapping_written fun entry member =>
        PathItem.read_dump (distinct entry member)))
  case components =>
    have empty (none : document.components.isEmpty) : Components.empty = document.components :=
      (Components.isEmpty_iff.mp none).symm
    exact fieldOr_written
      (by simpa using Recorded.unless empty (Components.read_dump document.components))

theorem readResponses_distinct (value : Value) :
    Always (fun responses => (Entries.keys responses).Nodup) (readResponses value) := by
  cases value with
  | scalar | array => exact fun _ valid => nomatch valid
  | object fields =>
    intro responses valid
    rw [always_keys _ responses valid]
    exact Entries.nodup_keys_ofPairs _

theorem Operation.always_distinct (value : Value) :
    Always Operation.DistinctStatuses (Operation.read value) := by
  have responsesAlways (fields : List (Scalar × Value)) :
      Always (fun responses => (Entries.keys responses).Nodup)
        (fieldOr [] fields "responses" "responses" readResponses) :=
    .fieldOr List.nodup_nil readResponses_distinct
  -- The responses are read last; what stands in the fields before them does not matter.
  refine .object (fun fields => .seq ?_ (responsesAlways fields)) value
  exact .seqAny (.seqAny (.seqAny (.seqAny (.seqAny (.seqAny
    (.map fun _ _ _ _ _ _ _ _ distinct => distinct))))))

theorem PathItem.always_distinct (value : Value) :
    Always PathItem.DistinctStatuses (PathItem.read value) := by
  have operationAlways (fields : List (Scalar × Value)) (method : Method) :
      Always (fun set => ∀ operation ∈ set, Operation.DistinctStatuses operation)
        (fieldOr none fields method.key method.key (optional Operation.read)) :=
    .fieldOr (fun _ absent => nomatch absent) (.optional Operation.always_distinct)
  refine .object (fun fields => ?_) value
  refine .seq (.seq (.seq (.seq (.seq (.seq (.seq (.seq (.seqAny (.seqAny (.map ?_)))
    (operationAlways fields .get)) (operationAlways fields .put)) (operationAlways fields .post))
    (operationAlways fields .delete)) (operationAlways fields .patch))
    (operationAlways fields .head)) (operationAlways fields .options))
    (operationAlways fields .trace)
  intro _ _ _ _ get _ put _ post _ delete _ patch _ head _ options _ trace method
  cases method <;> assumption

theorem Document.always_distinct (value : Value) :
    Always Document.DistinctStatuses (Document.read value) := by
  refine .object (fun fields => .seqAny (.seq ?_ (.fieldOr ?_ (.mapping PathItem.always_distinct))))
    value
  · exact .seqAny (.seqAny (.map fun _ _ _ _ distinct _ => distinct))
  · exact fun _ absent => nomatch absent

theorem Document.prune_prune (document : Document) : document.prune.prune = document.prune := by
  simp [prune, Schema.prune_prune]

theorem Document.pruneWarnings_prune (document : Document) :
    document.prune.pruneWarnings = [] := by
  refine List.flatMap_eq_nil_iff.mpr fun entry member => ?_
  obtain ⟨schema, _, rfl⟩ := List.mem_map.mp member
  exact Schema.pruneWarnings_prune schema.1 schema.2

theorem Document.ignoredNotes_debug (document : Document) :
    ∀ entry ∈ document.ignoredNotes, entry.level = .debug := by
  intro entry member
  obtain ⟨_, _, member⟩ := List.mem_flatMap.mp member
  obtain ⟨method, _, noted⟩ := List.mem_filterMap.mp member
  obtain ⟨_, _, rfl⟩ := Option.map_eq_some_iff.mp noted
  rfl

def looseSpec : Value :=
  .record
    [("paths", .record [("/items", .record [("head",
        .record [("operation_id", .text "peek"), ("deprecated", .int 1)])])]),
      ("components", .record [("schemas", .record [("Item",
        .record [("instance_type", .text "object"), ("required", .array [.text "id"])])])])]

def looseDocument : Document :=
  { version := "3.0.0"
    info := .standard
    servers := []
    paths :=
      [("/items", ⟨none, none, [], none, none, none, none, none,
        some ⟨some "peek", none, none, [], true, [], none, []⟩, none, none⟩)]
    components :=
      { Components.empty with
        schemas :=
          [("Item", ⟨none, some (.one .object), none, none, none, ["id"], none, none, none⟩)] } }

theorem read_looseSpec : Document.read looseSpec = .valid looseDocument := by
  have schemaRead : Schema.read
      (.record [("instance_type", .text "object"), ("required", .array [.text "id"])]) =
        .valid ⟨none, some (.one .object), none, none, none, ["id"], none, none, none⟩ := by
    rw [Value.record, Schema.read_object]
    rfl
  have componentsRead : Components.read (.record [("schemas", .record [("Item",
        .record [("instance_type", .text "object"), ("required", .array [.text "id"])])])]) =
      .valid looseDocument.components := by
    refine seq_valid (seq_valid (seq_valid (map_valid (fieldOr_written ?_)) rfl) rfl) rfl
    exact seq_valid (seq_valid (map_valid rfl) (within_eq_valid.mpr schemaRead)) rfl
  exact seq_valid (seq_valid (seq_valid (seq_valid (map_valid rfl) rfl) rfl) rfl)
    (fieldOr_written componentsRead)

end OpenApiClient
