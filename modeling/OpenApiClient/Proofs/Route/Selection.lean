import Mathlib.Logic.Relation
import OpenApiClient.Proofs.Reference.Related
import OpenApiClient.Proofs.Route.Alias
import OpenApiClient.Proofs.Route.Body
import OpenApiClient.Proofs.Route.Registration

set_option autoImplicit false

namespace OpenApiClient

namespace Route

def sendable : List (String × String) :=
  [("application/json", "builder.json(payload)"), ("multipart/form-data", "builder.form(payload)"),
    ("application/octet-stream", "builder.body(payload)")]

def Sendable (entry : String × MediaType) : Prop := entry.1 ∈ sendable.map Prod.fst

inductive ContentEdit : Content → Content → Prop where
  | insert {entry : String × MediaType} (other : ¬Sendable entry) (before after : Content) :
      ContentEdit (before ++ after) (before ++ entry :: after)
  | replaceBehind {entry : String × MediaType} (first : Sendable entry)
      (before after others : Content) :
      ContentEdit (before ++ entry :: after) (before ++ entry :: others)

end Route

/-- Any number of edits, made or undone. -/
def RequestBody.Alike (body other : RequestBody) : Prop :=
  Relation.EqvGen Route.ContentEdit body.content other.content

/-- The same content in any order. -/
structure Response.Alike (response other : Response) : Prop where
  distinct : (response.content.map Prod.fst).Nodup
  reordered : other.content.Perm response.content

inductive Entity.Alike : Entity → Entity → Prop where
  | schema (schema : Schema) : Alike (.schema schema) (.schema schema)
  | parameter (parameter : Parameter) : Alike (.parameter parameter) (.parameter parameter)
  | response {response other : Response} (alike : response.Alike other) :
      Alike (.response response) (.response other)
  | requestBody {body other : RequestBody} (alike : body.Alike other) :
      Alike (.requestBody body) (.requestBody other)

/-- Operations that differ only in entries that decide nothing. -/
structure Operation.Alike (operation other : Operation) : Prop where
  others : other = { operation with
    requestBody := other.requestBody
    responses := other.responses }
  requestBody : Option.Rel (Handle.Related RequestBody.Alike) operation.requestBody
    other.requestBody
  success : Option.Rel (Handle.Related Response.Alike) (Entries.get? operation.responses "200")
    (Entries.get? other.responses "200")

theorem Entity.alike_keeps : Entity.Keeps Entity.Alike where
  kind := by
    intro entity other alike
    cases alike <;> rfl
  pointer := by
    intro entity other alike
    cases alike <;> rfl

theorem Logged.outcome_map {α β : Type} (f : α → β) (x : Logged α) :
    (f <$> x).outcome = x.outcome.map f := by
  obtain ⟨outcome, log⟩ := x
  cases outcome <;> rfl

theorem Handle.Related.map {α β γ δ : Type} {R : α → β → Prop} {S : γ → δ → Prop} {f : α → γ}
    {g : β → δ} (lifts : ∀ {a b}, R a b → S (f a) (g b)) {handle : Handle α} {other : Handle β}
    (related : handle.Related R other) : (handle.map f).Related S (other.map g) := by
  cases related with
  | reference pointer => exact .reference pointer
  | inline related => exact .inline (lifts related)

namespace Route

theorem ofMediaType?_isSome_iff (mediaType : String) :
    (BodyFormat.ofMediaType? mediaType).isSome ↔ mediaType ∈ sendable.map Prod.fst := by
  simp only [BodyFormat.ofMediaType?, sendable, List.map_cons, List.map_nil, List.mem_cons,
    List.not_mem_nil, or_false]
  split_ifs <;> simp_all

theorem accepted?_append (before after : Content) :
    accepted? (before ++ after) = (accepted? before).or (accepted? after) := by
  induction before with
  | nil => rfl
  | cons entry rest ih =>
    rw [List.cons_append, accepted?, accepted?]
    cases BodyFormat.ofMediaType? entry.1 with
    | none => exact ih
    | some format => rfl

theorem accepted?_edit {content other : Content} (edit : ContentEdit content other) :
    accepted? content = accepted? other := by
  cases edit with
  | @insert entry other before after =>
    have unknown : BodyFormat.ofMediaType? entry.1 = none := by
      simpa [Sendable, ← ofMediaType?_isSome_iff] using other
    rw [accepted?_append, accepted?_append, accepted?, unknown]
  | @replaceBehind entry first before after others =>
    obtain ⟨format, known⟩ := Option.isSome_iff_exists.mp ((ofMediaType?_isSome_iff _).mpr first)
    simp only [accepted?_append, accepted?, known]

theorem accepted?_alike {content other : Content}
    (alike : Relation.EqvGen ContentEdit content other) : accepted? content = accepted? other := by
  induction alike with
  | rel content other edit => exact accepted?_edit edit
  | refl content => rfl
  | symm content other _ ih => exact ih.symm
  | trans first second third _ _ ih next => exact ih.trans next

theorem warnUnknownMediaTypes_related (listed other : List String) :
    (warnUnknownMediaTypes listed).Related Eq (warnUnknownMediaTypes other) := by
  have quiet (mediaTypes : List String) :
      ∃ log, warnUnknownMediaTypes mediaTypes = ⟨.ok (), log⟩ ∧ SameNotes log [] := by
    induction mediaTypes with
    | nil => exact ⟨[], rfl, .refl []⟩
    | cons mediaType rest ih =>
      obtain ⟨log, rest, notes⟩ := ih
      rw [warnUnknownMediaTypes, rest]
      split
      next => exact ⟨_, rfl, notes⟩
      next => exact ⟨_, rfl, notes⟩
  obtain ⟨log, warned, notes⟩ := quiet listed
  obtain ⟨more, further, others⟩ := quiet other
  rw [warned, further]
  exact .value rfl (notes.trans others.symm)

theorem payloadOfContent_related {content other : Content}
    (alike : Relation.EqvGen ContentEdit content other) (place : String) :
    (payloadOfContent content place).Related Eq (payloadOfContent other place) := by
  refine (warnUnknownMediaTypes_related _ _).bind_eq fun _ => ?_
  rw [accepted?_alike alike]
  split
  next => exact .failure (.mediaTypes place _ _) (.refl [])
  next => exact .refl _

theorem get?_reordered {content other : Content} (distinct : (content.map Prod.fst).Nodup)
    (reordered : other.Perm content) (mediaType : String) :
    Entries.get? other mediaType = Entries.get? content mediaType := by
  have otherDistinct : (Entries.keys other).Nodup :=
    (reordered.map Prod.fst).nodup_iff.mpr distinct
  apply Option.ext
  intro media
  constructor
  · intro found
    exact Entries.get?_of_mem distinct (reordered.mem_iff.mp (Entries.mem_of_get? found))
  · intro found
    exact Entries.get?_of_mem otherDistinct (reordered.mem_iff.mpr (Entries.mem_of_get? found))

theorem answerOfContent_related {response other : Response} (alike : response.Alike other)
    (place : String) :
    (answerOfContent response.content place).Related Eq
      (answerOfContent other.content place) := by
  have found := get?_reordered alike.distinct alike.reordered
  have empty : other.content.isEmpty = response.content.isEmpty := alike.reordered.isEmpty_eq
  have held (mediaType : String) : Entries.contains other.content mediaType =
      Entries.contains response.content mediaType := by
    rw [Entries.contains, found, Entries.contains]
  rw [answerOfContent, answerOfContent, empty, found, held, held]
  split
  next => exact .refl _
  next =>
    split
    next => exact .refl _
    next =>
      split
      next => exact .refl _
      next =>
        split
        next => exact .refl _
        -- The warning lists the media types in the order they have.
        next => exact .value rfl rfl

section Related

variable {components others : Components} (related : components.Related Entity.Alike others)
include related

theorem component_related (expected : Kind) (place : String) {handle other : Option (Handle Entity)}
    (handles : Option.Rel (Handle.Related Entity.Alike) handle other) :
    (component components expected place handle).Related (Option.Rel Entity.Alike)
      (component others expected place other) := by
  refine (Handle.resolve_related Entity.alike_keeps related expected handles).bind ?_
  intro found otherFound same
  cases same with
  | none =>
    have pointers : unresolved place other = unresolved place handle := by
      cases handles with
      | none => rfl
      | some first =>
        simp only [unresolved, Option.bind_some, first.pointer? Entity.alike_keeps]
    simp only [pointers]
    exact (Logged.Related.refl _).bind_eq fun _ => .pure .none
  | some resolved =>
    simp only [← resolved.kind]
    split
    next => exact .pure (.some resolved.entity)
    next => exact .failure (.same _) (.refl [])

theorem mergeParameters_related (place : String) (handles : List (Handle Parameter))
    (merged : Entries ParameterKey Parameter) :
    (mergeParameters components place merged handles).Related Eq
      (mergeParameters others place merged handles) := by
  induction handles generalizing merged with
  | nil => exact .refl _
  | cons handle rest ih =>
    have same : (handle.map Entity.parameter).Related Entity.Alike (handle.map .parameter) := by
      cases handle with
      | reference pointer => exact .reference pointer
      | inline parameter => exact .inline (.parameter parameter)
    refine (component_related related .parameter place (.some same)).bind ?_
    intro found other alike
    have parameters : other.bind asParameter? = found.bind asParameter? := by
      cases alike with
      | none => rfl
      | some entities => cases entities <;> rfl
    simp only [parameters]
    split
    next => exact ih merged
    next parameter _ => exact ih (merged.put (parameterKey parameter) parameter)

variable {operation other : Operation} (alike : operation.Alike other)
include alike

theorem requestPayload_related (place : String) :
    (requestPayload components operation place).Related Eq
      (requestPayload others other place) := by
  have bodies := alike.requestBody
  simp only [requestPayload]
  generalize operation.requestBody = handle at bodies
  generalize other.requestBody = otherHandle at bodies
  cases bodies with
  | none => exact .pure rfl
  | some first =>
    refine (component_related related .requestBody place
      (.some (first.map .requestBody))).bind ?_
    intro found otherFound entities
    cases entities with
    | none => exact .pure rfl
    | some entity =>
      cases entity with
      | requestBody body =>
        exact (payloadOfContent_related body place).bind_eq fun payload => .pure rfl
      | schema => exact .pure rfl
      | parameter => exact .pure rfl
      | response => exact .pure rfl

theorem expectedAnswer_related (place : String) :
    (expectedAnswer components operation place).Related Eq
      (expectedAnswer others other place) := by
  have handles : Option.Rel (Handle.Related Entity.Alike)
      ((Entries.get? operation.responses "200").map (Handle.map .response))
      ((Entries.get? other.responses "200").map (Handle.map .response)) := by
    have success := alike.success
    generalize Entries.get? operation.responses "200" = handle at success
    generalize Entries.get? other.responses "200" = otherHandle at success
    cases success with
    | none => exact .none
    | some first => exact .some (first.map .response)
  refine (component_related related .response place handles).bind ?_
  intro found otherFound entities
  cases entities with
  | none => exact .pure rfl
  | some entity =>
    cases entity with
    | response response => exact answerOfContent_related response place
    | schema => exact .pure rfl
    | parameter => exact .pure rfl
    | requestBody => exact .pure rfl

theorem generate_alike (item : PathItem) (registered : Registered) (path method : String) :
    (generate components registered path item method operation).1 =
        (generate others registered path item method other).1 ∧
      (generate components registered path item method operation).2.Related Eq
        (generate others registered path item method other).2 := by
  have taken : register registered method path other =
      register registered method path operation := by
    rw [alike.others]
    rfl
  have described : about other = about operation := by
    rw [alike.others]
    rfl
  have parameters : other.parameters = operation.parameters := by rw [alike.others]
  simp only [generate, taken]
  split
  next => exact ⟨rfl, .refl _⟩
  next name next _ =>
    refine ⟨rfl, ?_⟩
    have merged := mergeParameters_related related (location method path)
      (item.parameters ++ operation.parameters) []
    simp only [ofOperation, described, collectParameters, parameters]
    -- The same steps for both, one after the other; only the last two look into contents.
    refine (Logged.Related.refl _).bind_eq fun _ => ?_
    refine (merged.bind_eq fun _ => .pure rfl).bind_eq fun collected => ?_
    refine (Logged.Related.refl _).bind_eq fun named => ?_
    refine (Logged.Related.refl _).bind_eq fun arguments => ?_
    refine (requestPayload_related related alike _).bind_eq fun payload => ?_
    refine (expectedAnswer_related related alike _).bind_eq fun answer => ?_
    exact .refl _

end Related

/-- Whether the request body of an operation resolves to this one. -/
def SendsBody (components : Components) (operation : Operation) (body : RequestBody) : Prop :=
  ∃ handle resolved, operation.requestBody = some handle ∧
    (Handle.resolve components .requestBody (some (handle.map .requestBody))).outcome =
      .ok (some resolved) ∧ resolved.entity = .requestBody body

def FirstSendable (content : Content) (entry : String × MediaType) : Prop :=
  Sendable entry ∧ ∃ before after, content = before ++ entry :: after ∧
    ∀ other ∈ before, ¬Sendable other

/-- The payload of a route and the statement that attaches it, both made from one entry. -/
structure TakesPayload (route : Route) (entry : String × MediaType) (place : String) : Prop where
  attached : ∀ format, .attach format ∈ route.statements ↔
    (entry.1, (Statement.attach format).render) ∈ sendable
  typed : ∃ schema type, entry.2.schema = some schema ∧
    bodyType schema .borrowedParameter (place ++ " request body") = .ok type ∧
    ∀ parameter, parameter ∈ route.signature ∧ parameter.name = "payload" ↔
      parameter = plainParameter "payload" type.expression

theorem mem_sendable_iff (mediaType : String) (format : BodyFormat) :
    (mediaType, (Statement.attach format).render) ∈ sendable ↔
      BodyFormat.ofMediaType? mediaType = some format := by
  constructor
  · intro member
    simp only [sendable, List.mem_cons, Prod.mk.injEq, List.not_mem_nil, or_false] at member
    rcases member with ⟨rfl, line⟩ | ⟨rfl, line⟩ | ⟨rfl, line⟩ <;>
      cases format <;> first | rfl | exact absurd line (by decide)
  · intro known
    rw [BodyFormat.ofMediaType?] at known
    split at known
    next same => cases known; exact same ▸ .head _
    next =>
      split at known
      next same => cases known; exact same ▸ .tail _ (.head _)
      next =>
        split at known
        next same => cases known; exact same ▸ .tail _ (.tail _ (.head _))
        next => cases known

theorem accepted?_eq_none_iff (content : Content) :
    accepted? content = none ↔ ∀ entry ∈ content, ¬Sendable entry := by
  induction content with
  | nil => simp [accepted?]
  | cons entry rest ih =>
    rw [List.forall_mem_cons, ← ih, accepted?, Sendable, ← ofMediaType?_isSome_iff]
    cases BodyFormat.ofMediaType? entry.1 <;> simp

theorem firstSendable_of_accepted? {content : Content} {format : BodyFormat} {media : MediaType}
    (accepted : accepted? content = some (format, media)) :
    ∃ mediaType, FirstSendable content (mediaType, media) ∧
      BodyFormat.ofMediaType? mediaType = some format := by
  induction content with
  | nil => cases accepted
  | cons entry rest ih =>
    rw [accepted?] at accepted
    split at accepted
    next known same =>
      obtain ⟨rfl, rfl⟩ := Prod.mk.inj (Option.some.inj accepted)
      refine ⟨entry.1, ⟨?_, [], rest, rfl, by simp⟩, same⟩
      exact (ofMediaType?_isSome_iff _).mp (Option.isSome_of_eq_some same)
    next unknown =>
      obtain ⟨mediaType, ⟨first, before, after, rfl, others⟩, known⟩ := ih accepted
      refine ⟨mediaType, ⟨first, entry :: before, after, rfl, ?_⟩, known⟩
      refine List.forall_mem_cons.mpr ⟨?_, others⟩
      simp [Sendable, ← ofMediaType?_isSome_iff, unknown]

section Bodies

variable {components : Components} {place : String}

theorem component_requestBody_iff {handle : Option (Handle Entity)} {body : RequestBody} :
    (component components .requestBody place handle).outcome = .ok (some (.requestBody body)) ↔
      ∃ resolved, (Handle.resolve components .requestBody handle).outcome = .ok (some resolved) ∧
        resolved.entity = .requestBody body := by
  constructor
  · intro found
    obtain ⟨resolved, done, more⟩ := Logged.outcome_bind_eq_ok.mp found
    cases resolved with
    | none =>
      obtain ⟨_, _, nothing⟩ := Logged.outcome_bind_eq_ok.mp more
      cases nothing
    | some resolved =>
      simp only [] at more
      split at more
      next => exact ⟨resolved, done, Option.some.inj (Except.ok.inj more)⟩
      next => cases more
  · rintro ⟨resolved, done, entity⟩
    have kind := ((Handle.resolve_faithful components .requestBody handle).1 resolved done).kind
    rw [entity] at kind
    refine Logged.outcome_bind_eq_ok.mpr ⟨some resolved, done, ?_⟩
    simp only [entity, ← kind, Entity.kind, if_true]
    rfl

theorem sendsBody_iff {operation : Operation} {body : RequestBody} (place : String) :
    SendsBody components operation body ↔ ∃ handle, operation.requestBody = some handle ∧
      (component components .requestBody place (some (handle.map .requestBody))).outcome =
        .ok (some (.requestBody body)) := by
  simp only [SendsBody, component_requestBody_iff, exists_and_left]

theorem payloadOfContent_of_none {content : Content} (none : accepted? content = none)
    (place : String) : (payloadOfContent content place).outcome =
      .error (.unsupportedMediaType place (content.map Prod.fst)) := by
  rw [payloadOfContent, Logged.outcome_bind_of_ok (outcome_warnUnknownMediaTypes _), none]
  rfl

theorem payloadOfContent_of_accepted {content : Content} {format : BodyFormat}
    {media : MediaType} (accepted : accepted? content = some (format, media)) (place : String) :
    (∃ schema, media.schema = some schema ∧ (payloadOfContent content place).outcome =
      (bodyType schema .borrowedParameter (place ++ " request body")).map (Payload.mk format)) ∨
    (payloadOfContent content place).outcome =
      .error (.unsupportedSchema "need a schema" (place ++ " request body")) := by
  rw [payloadOfContent, Logged.outcome_bind_of_ok (outcome_warnUnknownMediaTypes _), accepted]
  obtain ⟨schema⟩ := media
  cases schema with
  | none => exact .inr rfl
  | some schema =>
    refine .inl ⟨schema, rfl, ?_⟩
    simp only []
    cases bodyType schema .borrowedParameter (place ++ " request body") <;> rfl

theorem payloadOfContent_unsupported_iff {content : Content} (place : String) :
    (∃ location told, (payloadOfContent content place).outcome =
      .error (.unsupportedMediaType location told)) ↔ ∀ entry ∈ content, ¬Sendable entry := by
  rw [← accepted?_eq_none_iff]
  cases accepted : accepted? content with
  | none => simp [payloadOfContent_of_none accepted]
  | some found =>
    suffices apart : ∀ location told, (payloadOfContent content place).outcome ≠
        .error (.unsupportedMediaType location told) by simpa using apart
    intro location told stopped
    rcases payloadOfContent_of_accepted accepted place with ⟨schema, _, made⟩ | missing
    · rw [made] at stopped
      cases typed : bodyType schema .borrowedParameter (place ++ " request body") with
      | error failure =>
        rw [typed] at stopped
        obtain rfl := Except.error.inj stopped
        cases bodyType_blames typed
      | ok type =>
        rw [typed] at stopped
        cases stopped
    · rw [missing] at stopped
      cases stopped

theorem requestPayload_of_sends {operation : Operation} {body : RequestBody}
    (sends : SendsBody components operation body) (place : String) :
    (requestPayload components operation place).outcome =
      (payloadOfContent body.content place).outcome.map some := by
  obtain ⟨handle, given, found⟩ := (sendsBody_iff place).mp sends
  simp only [requestPayload, given]
  rw [Logged.outcome_bind_of_ok found]
  exact Logged.outcome_map some _

theorem requestPayload_of_no_body {operation : Operation}
    (absent : ∀ body, ¬SendsBody components operation body) (place : String) :
    (requestPayload components operation place).outcome = .ok none ∨
      ∃ failure, (requestPayload components operation place).outcome = .error failure ∧
        failure.blamesReference = true := by
  simp only [sendsBody_iff place] at absent
  rw [requestPayload]
  cases given : operation.requestBody with
  | none => exact .inl rfl
  | some handle =>
    simp only []
    cases found : (component components .requestBody place
        (some (handle.map .requestBody))).outcome with
    | error failure =>
      exact .inr ⟨failure, Logged.outcome_bind_of_error found,
        component_failsOnly _ _ _ _ failure found⟩
    | ok entity =>
      rw [Logged.outcome_bind_of_ok found]
      split
      next body => exact absurd ⟨handle, given, found⟩ (absent body)
      next => exact .inl rfl

theorem requestPayload_unsupported_iff {operation : Operation} (place : String) :
    (∃ location told, (requestPayload components operation place).outcome =
        .error (.unsupportedMediaType location told)) ↔
      ∃ body, SendsBody components operation body ∧ ∀ entry ∈ body.content, ¬Sendable entry := by
  constructor
  · rintro ⟨location, told, stopped⟩
    by_cases sends : ∃ body, SendsBody components operation body
    next =>
      obtain ⟨body, sends⟩ := sends
      refine ⟨body, sends, (payloadOfContent_unsupported_iff place).mp ⟨location, told, ?_⟩⟩
      rw [requestPayload_of_sends sends] at stopped
      cases made : (payloadOfContent body.content place).outcome with
      | error failure =>
        rw [made] at stopped
        exact congrArg Except.error (Except.error.inj stopped)
      | ok payload =>
        rw [made] at stopped
        cases stopped
    next =>
      -- Whatever else stops it is about the reference.
      rw [not_exists] at sends
      rcases requestPayload_of_no_body sends place with nothing | ⟨failure, other, blames⟩
      · rw [nothing] at stopped
        cases stopped
      · rw [other] at stopped
        cases stopped
        cases blames
  · rintro ⟨body, sends, none⟩
    obtain ⟨location, told, stopped⟩ := (payloadOfContent_unsupported_iff place).mpr none
    refine ⟨location, told, ?_⟩
    rw [requestPayload_of_sends sends, stopped]
    rfl

end Bodies

section Parts

variable {components : Components} {path method : String} {item : PathItem}
  {operation : Operation} {parameters : List Parameter} {route : Route}

theorem attach_mem_statements (route : Route) (format : BodyFormat) :
    .attach format ∈ route.statements ↔ ∃ payload ∈ route.payload, payload.format = format := by
  rw [statements, queryStatements]
  have answer : Statement.attach format ∉ route.answer.statements := by
    cases route.answer <;> simp [Answer.statements]
  cases route.payload <;> simp [answer, eq_comm]

theorem payload_mem_signature
    (parts : Parts components path item method operation parameters route) {payload : Payload}
    (given : route.payload = some payload) (parameter : Code.Parameter) :
    parameter ∈ route.signature ∧ parameter.name = "payload" ↔
      parameter = plainParameter "payload" payload.type.expression := by
  have inside : plainParameter "payload" payload.type.expression ∈ route.signature := by
    simp [signature, given]
  constructor
  · rintro ⟨member, name⟩
    exact List.inj_on_of_nodup_map parts.signature_nodup member inside name
  · rintro rfl
    exact ⟨inside, rfl⟩

theorem Parts.takesPayload
    (parts : Parts components path item method operation parameters route) {body : RequestBody}
    (sends : SendsBody components operation body) :
    ∃ entry, FirstSendable body.content entry ∧
      TakesPayload route entry (location method path) := by
  have made := parts.payload
  rw [requestPayload_of_sends sends] at made
  cases accepted : accepted? body.content with
  | none =>
    rw [payloadOfContent_of_none accepted] at made
    cases made
  | some found =>
    obtain ⟨format, media⟩ := found
    obtain ⟨mediaType, first, known⟩ := firstSendable_of_accepted? accepted
    rcases payloadOfContent_of_accepted accepted (location method path) with
      ⟨schema, written, typed⟩ | missing
    · rw [typed] at made
      cases type : bodyType schema .borrowedParameter (location method path ++ " request body") with
      | error failure =>
        rw [type] at made
        cases made
      | ok type' =>
        rw [type] at made
        have given : route.payload = some ⟨format, type'⟩ := (Except.ok.inj made).symm
        refine ⟨(mediaType, media), first, ?_, schema, type', written, type,
          payload_mem_signature parts given⟩
        intro other
        rw [attach_mem_statements, mem_sendable_iff, known, given]
        simp
    · rw [missing] at made
      cases made

theorem Parts.no_payload
    (parts : Parts components path item method operation parameters route)
    (absent : ∀ body, ¬SendsBody components operation body) : route.payload = none := by
  have made := parts.payload
  rcases requestPayload_of_no_body absent (location method path) with nothing | ⟨failure, other, _⟩
  · exact (Except.ok.inj (nothing.symm.trans made)).symm
  · rw [other] at made
    cases made

end Parts

/-- The function of an operation depends on the first entry of its request body that can be sent and
on the entries of its answer for success. The payload and its attachment are made from that one
entry, and the media types are refused exactly when no entry can be sent. -/
theorem generate_selects (components : Components) (registered : Registered) (path method : String)
    (item : PathItem) (operation : Operation) :
    (∀ others other, components.Related Entity.Alike others → operation.Alike other →
      (generate components registered path item method operation).1 =
          (generate others registered path item method other).1 ∧
        (generate components registered path item method operation).2.Related Eq
          (generate others registered path item method other).2) ∧
    (∀ route, (generate components registered path item method operation).2.outcome = .ok route →
      (∀ body, SendsBody components operation body →
        ∃ entry, FirstSendable body.content entry ∧
          TakesPayload route entry (location method path)) ∧
      ((∀ body, ¬SendsBody components operation body) →
        ∀ format, .attach format ∉ route.statements)) ∧
    ((∃ place told, (requestPayload components operation (location method path)).outcome =
        .error (.unsupportedMediaType place told)) ↔
      ∃ body, SendsBody components operation body ∧ ∀ entry ∈ body.content, ¬Sendable entry) := by
  refine ⟨?_, ?_, requestPayload_unsupported_iff _⟩
  · intro others other related alike
    exact generate_alike related alike item registered path method
  · intro route made
    obtain ⟨_, _, parameters, parts⟩ := generate_eq_ok_iff.mp made
    refine ⟨fun body sends => parts.takesPayload sends, fun absent format attached => ?_⟩
    rw [attach_mem_statements, parts.no_payload absent] at attached
    simp at attached

section Noisy

def countSchema : Schema :=
  ⟨none, some (.one .integer), none, none, none, [], none, none, none⟩

def countMedia : String × MediaType := ("application/json", ⟨some countSchema⟩)

def countOperation (body : Content) (responses : List (String × Handle Response)) : Operation :=
  { operationId := some "addCount"
    summary := none
    description := none
    tags := []
    deprecated := false
    parameters := []
    requestBody := some (.inline ⟨body, none, true⟩)
    responses := responses }

def noisyOperation : Operation :=
  countOperation [("text/xml", ⟨none⟩), countMedia, ("multipart/form-data", ⟨none⟩)]
    [("404", .reference "#/components/responses/Missing"),
      ("200", .inline ⟨none, [("text/plain", ⟨none⟩), countMedia]⟩)]

def quietOperation : Operation :=
  countOperation [countMedia] [("200", .inline ⟨none, [countMedia, ("text/plain", ⟨none⟩)]⟩)]

theorem noisy_alike : noisyOperation.Alike quietOperation where
  others := rfl
  requestBody := by
    refine .some (.inline ?_)
    have refused : ¬Sendable ("text/xml", ⟨none⟩) := by simp [Sendable, sendable]
    have taken : Sendable countMedia := by simp [Sendable, sendable, countMedia]
    have inserted := ContentEdit.insert refused [] [countMedia, ("multipart/form-data", ⟨none⟩)]
    have replaced := ContentEdit.replaceBehind taken [] [("multipart/form-data", ⟨none⟩)] []
    exact .trans _ _ _ (.symm _ _ (.rel _ _ inserted)) (.rel _ _ replaced)
  success := .some (.inline ⟨by simp [countMedia], .swap _ _ _⟩)

theorem generate_selects_noisy :
    (generate .empty .empty "/counts" .empty "POST" noisyOperation).2.Related Eq
        (generate .empty .empty "/counts" .empty "POST" quietOperation).2 ∧
      ∃ route,
        (generate .empty .empty "/counts" .empty "POST" noisyOperation).2.outcome = .ok route ∧
        (route.toFunction 0).code.code = String.intercalate "\n"
          ["builder = client.request(\"POST\", \"/counts\")",
            "builder.json(payload)",
            "response = await builder.send()",
            "return TypeAdapter(Int32).validate_json(response.content)"] ∧
        TakesPayload route countMedia "POST /counts" := by
  obtain ⟨same, taken, _⟩ :=
    generate_selects .empty .empty "/counts" "POST" .empty noisyOperation
  have related : Components.empty.Related Entity.Alike .empty := by
    intro kind
    cases kind <;> exact .nil
  have computed : (generate .empty .empty "/counts" .empty "POST"
      noisyOperation).2.outcome.toOption.map (fun route => (route.toFunction 0).code.code) =
      some (String.intercalate "\n"
        ["builder = client.request(\"POST\", \"/counts\")",
          "builder.json(payload)",
          "response = await builder.send()",
          "return TypeAdapter(Int32).validate_json(response.content)"]) := by
    decide +kernel
  obtain ⟨route, made, code⟩ := exists_of_toOption computed
  have sends : SendsBody .empty noisyOperation
      ⟨[("text/xml", ⟨none⟩), countMedia, ("multipart/form-data", ⟨none⟩)], none, true⟩ :=
    ⟨_, _, rfl, rfl, rfl⟩
  obtain ⟨entry, ⟨sendable, before, after, split, others⟩, takes⟩ := (taken route made).1 _ sends
  have entry_eq : entry = countMedia := by
    rcases before with _ | ⟨first, _ | ⟨second, rest⟩⟩
    · obtain ⟨rfl, -⟩ := List.cons.inj split
      exact absurd sendable (by simp [Sendable, Route.sendable])
    · exact (List.cons.inj (List.cons.inj split).2).1.symm
    · obtain ⟨rfl, -⟩ := List.cons.inj (List.cons.inj split).2
      exact absurd (by simp [Sendable, Route.sendable, countMedia]) (others countMedia (by simp))
  exact ⟨(same _ _ related noisy_alike).2, route, made, code, entry_eq ▸ takes⟩

end Noisy

end Route
end OpenApiClient
