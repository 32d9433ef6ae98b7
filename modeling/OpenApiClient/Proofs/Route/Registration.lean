import OpenApiClient.Proofs.Reference.Resolved
import OpenApiClient.Proofs.Route.Parts

set_option autoImplicit false

namespace OpenApiClient

def Failure.turnsAway : Failure → Bool
  | .missingOperationId _ _ | .duplicateOperation _ _ _ => true
  | _ => false

def Failure.blamesReference : Failure → Bool
  | .invalidReference _ _ | .unresolvedReference _ _ | .referenceCycle _
  | .taxonomyMismatch _ _ _ => true
  | _ => false

def Failure.blamesSchema : Failure → Bool
  | .typeMapping _ _ | .unsupportedSchema _ _ => true
  | _ => false

def Logged.FailsOnly {α : Type} (allowed : Failure → Bool) (x : Logged α) : Prop :=
  ∀ failure, x.outcome = .error failure → allowed failure = true

def Logged.Admits {α : Type} (x : Logged α) : Prop :=
  ∀ failure, x.outcome = .error failure → failure.turnsAway = false

namespace Logged.FailsOnly

variable {α β : Type} {allowed : Failure → Bool}

theorem of_ok {x : Logged α} {a : α} (done : x.outcome = .ok a) : x.FailsOnly allowed := by
  intro failure stopped
  rw [done] at stopped
  cases stopped

theorem fail {failure : Failure} (fits : allowed failure = true) :
    (Logged.fail failure : Logged α).FailsOnly allowed := by
  rintro _ ⟨⟩
  exact fits

theorem bind {x : Logged α} {f : α → Logged β} (first : x.FailsOnly allowed)
    (rest : ∀ a, (f a).FailsOnly allowed) : (x >>= f).FailsOnly allowed := by
  intro failure stopped
  rcases Logged.outcome_bind_eq_error.mp stopped with early | ⟨a, _, late⟩
  · exact first failure early
  · exact rest a failure late

end Logged.FailsOnly

namespace Logged.Admits

variable {α β : Type}

theorem iff_failsOnly {x : Logged α} :
    x.Admits ↔ x.FailsOnly fun failure => !failure.turnsAway := by
  simp [Admits, FailsOnly]

theorem of_ok {x : Logged α} {a : α} (done : x.outcome = .ok a) : x.Admits :=
  iff_failsOnly.mpr (.of_ok done)

theorem fail {failure : Failure} (other : failure.turnsAway = false) :
    (Logged.fail failure : Logged α).Admits :=
  iff_failsOnly.mpr (.fail (by simpa using other))

theorem bind {x : Logged α} {f : α → Logged β} (first : x.Admits) (rest : ∀ a, (f a).Admits) :
    (x >>= f).Admits :=
  iff_failsOnly.mpr ((iff_failsOnly.mp first).bind fun a => iff_failsOnly.mp (rest a))

end Logged.Admits

theorem Failure.turnsAway_of_reference {failure : Failure}
    (blames : failure.blamesReference = true) : failure.turnsAway = false := by
  cases failure <;> first | rfl | cases blames

theorem Failure.turnsAway_of_schema {failure : Failure} (blames : failure.blamesSchema = true) :
    failure.turnsAway = false := by
  cases failure <;> first | rfl | cases blames

theorem Reference.resolve_failsOnly (components : Components) (pointer : String) :
    (resolve components pointer).FailsOnly Failure.blamesReference := by
  intro failure stopped
  rcases resolve_cases components pointer with ⟨_, _, _, _, _, answer⟩ | ⟨_, cycle, _⟩
  · rw [stopped] at answer
    cases answer
    rfl
  · rw [stopped] at cycle
    cases cycle
    rfl

theorem Handle.resolve_failsOnly (components : Components) (expected : Kind)
    (handle : Option (Handle Entity)) :
    (resolve components expected handle).FailsOnly Failure.blamesReference := by
  intro failure stopped
  have leads := resolve_leads components expected handle
  rw [stopped] at leads
  generalize outcome : Except.error failure = result at leads
  cases leads with
  | absent => cases outcome
  | @pointer handle pointer held fits =>
    exact Reference.resolve_failsOnly components pointer failure outcome.symm
  | inPlace fits final => cases outcome
  | mismatch other =>
    cases outcome
    rfl

theorem MappedType.ofSchema_blames {schema : Schema} {usage : Usage} {field : Option String}
    {failure : Failure} (stopped : ofSchema schema usage field = .error failure) :
    failure.blamesSchema = true := by
  simp only [ofSchema, ofParts, ofReference] at stopped
  grind [Failure.blamesSchema]

namespace Route

theorem unresolved_blames {place : String} {handle : Option (Handle Entity)} {failure : Failure}
    (stopped : unresolved place handle = .error failure) : failure.blamesReference = true := by
  rw [unresolved] at stopped
  split at stopped
  next => cases stopped
  next pointer _ =>
    split at stopped
    next other unread =>
      obtain rfl := Except.error.inj stopped
      rw [Pointer.kind?] at unread
      split at unread
      next failed =>
        obtain rfl := Except.error.inj unread
        obtain ⟨reason, rfl⟩ := Reference.parse_failure failed
        rfl
      next => cases unread
    next => cases stopped
    next =>
      obtain rfl := Except.error.inj stopped
      rfl

theorem component_failsOnly (components : Components) (expected : Kind) (place : String)
    (handle : Option (Handle Entity)) :
    (component components expected place handle).FailsOnly Failure.blamesReference := by
  refine (Handle.resolve_failsOnly components expected handle).bind fun found => ?_
  cases found with
  | none => exact Logged.FailsOnly.bind (fun _ => unresolved_blames) fun _ => .of_ok rfl
  | some resolved =>
    simp only []
    split
    next => exact .of_ok rfl
    next => exact .fail rfl

theorem component_admits (components : Components) (expected : Kind) (place : String)
    (handle : Option (Handle Entity)) : (component components expected place handle).Admits :=
  fun failure stopped => Failure.turnsAway_of_reference
    (component_failsOnly components expected place handle failure stopped)

theorem mergeParameters_admits (components : Components) (place : String)
    (merged : Entries ParameterKey Parameter) (handles : List (Handle Parameter)) :
    (mergeParameters components place merged handles).Admits := by
  induction handles generalizing merged with
  | nil => exact .of_ok rfl
  | cons handle rest ih =>
    refine (component_admits components _ place _).bind fun found => ?_
    split
    next => exact ih merged
    next parameter _ => exact ih _

theorem nameParameters_admits (place : String) (taken : List String)
    (parameters : List Parameter) : (nameParameters place taken parameters).Admits := by
  induction parameters generalizing taken with
  | nil => exact .of_ok rfl
  | cons parameter rest ih =>
    refine Logged.Admits.bind ?_ fun named => (ih _).bind fun _ => .of_ok rfl
    rw [nameParameter]
    split <;> exact .of_ok rfl

theorem typeParameters_admits (place : String) (named : List Named) :
    (typeParameters place named).Admits := by
  induction named with
  | nil => exact .of_ok rfl
  | cons entry rest ih =>
    simp only [typeParameters]
    split
    next => exact Logged.Admits.bind (.of_ok rfl) fun _ => ih
    next =>
      exact Logged.Admits.bind
        (fun _ stopped => Failure.turnsAway_of_schema (MappedType.ofSchema_blames stopped))
        fun _ => ih.bind fun _ => .of_ok rfl

theorem bodyType_blames {schema : Schema} {usage : Usage} {field : String} {failure : Failure}
    (stopped : bodyType schema usage field = .error failure) : failure.blamesSchema = true := by
  rw [bodyType] at stopped
  split at stopped
  next => cases stopped
  next =>
    split at stopped
    next =>
      rw [arrayType.eq_def] at stopped
      grind [Failure.blamesSchema, MappedType.ofSchema_blames]
    next => exact MappedType.ofSchema_blames stopped

theorem bodyType_admits {schema : Schema} {usage : Usage} {field : String} {failure : Failure}
    (stopped : bodyType schema usage field = .error failure) : failure.turnsAway = false :=
  Failure.turnsAway_of_schema (bodyType_blames stopped)

theorem outcome_warnUnknownMediaTypes (mediaTypes : List String) :
    (warnUnknownMediaTypes mediaTypes).outcome = .ok () := by
  induction mediaTypes with
  | nil => rfl
  | cons mediaType rest ih =>
    rw [warnUnknownMediaTypes]
    split
    next => exact Logged.outcome_bind_eq_ok.mpr ⟨(), rfl, ih⟩
    next => exact ih

theorem payloadOfContent_admits (content : Content) (place : String) :
    (payloadOfContent content place).Admits := by
  refine Logged.Admits.bind (.of_ok (outcome_warnUnknownMediaTypes _)) fun _ => ?_
  split
  next => exact .fail rfl
  next =>
    split
    next => exact .fail rfl
    next => exact Logged.Admits.bind (fun _ => bodyType_admits) fun _ => .of_ok rfl

theorem requestPayload_admits (components : Components) (operation : Operation)
    (place : String) : (requestPayload components operation place).Admits := by
  rw [requestPayload]
  split
  next => exact .of_ok rfl
  next =>
    refine (component_admits components _ place _).bind fun found => ?_
    split
    next => exact (payloadOfContent_admits _ _).bind fun _ => .of_ok rfl
    next => exact .of_ok rfl

theorem answerOfContent_admits (content : Content) (place : String) :
    (answerOfContent content place).Admits := by
  rw [answerOfContent]
  split
  next => exact .of_ok rfl
  next =>
    split
    next =>
      split
      next => exact .fail rfl
      next => exact Logged.Admits.bind (fun _ => bodyType_admits) fun _ => .of_ok rfl
    next =>
      split
      next => exact .of_ok rfl
      next => split <;> exact .of_ok rfl

theorem expectedAnswer_admits (components : Components) (operation : Operation)
    (place : String) : (expectedAnswer components operation place).Admits := by
  refine (component_admits components _ place _).bind fun found => ?_
  split
  next => exact answerOfContent_admits _ _
  next => exact .of_ok rfl

theorem ofOperation_admits (components : Components) (name path : String) (item : PathItem)
    (method : String) (operation : Operation) :
    (ofOperation components name path item method operation).Admits := by
  refine Logged.Admits.bind (.of_ok rfl) fun _ => ?_
  refine Logged.Admits.bind ((mergeParameters_admits _ _ _ _).bind fun _ => .of_ok rfl) fun _ => ?_
  refine (nameParameters_admits _ _ _).bind fun _ => ?_
  refine (typeParameters_admits _ _).bind fun arguments => ?_
  refine (requestPayload_admits _ _ _).bind fun _ => ?_
  refine (expectedAnswer_admits _ _ _).bind fun _ => ?_
  exact Logged.Admits.bind (.of_ok (outcome_warnUnknownPlaces _ arguments)) fun _ => .of_ok rfl

namespace Registered

structure Consistent (registered : Registered) : Prop where
  named : registered.functionNames = registered.operationIds.map fun id => (Name.function id, id)
  distinct : registered.functionNames.keys.Nodup

def take (registered : Registered) (operationId : String) : Registered :=
  ⟨registered.operationIds ++ [operationId],
    registered.functionNames ++ [(Name.function operationId, operationId)]⟩

@[simp] theorem keys_take (registered : Registered) (operationId : String) :
    (registered.take operationId).functionNames.keys =
      registered.functionNames.keys ++ [Name.function operationId] := by
  simp [take, Entries.keys]

theorem take_eq_put {registered : Registered} {operationId : String}
    (free : Name.function operationId ∉ registered.functionNames.keys) :
    registered.take operationId =
      ⟨registered.operationIds ++ [operationId],
        registered.functionNames.put (Name.function operationId) operationId⟩ := by
  rw [take, Entries.put_of_not_mem _ _ _ free]

theorem Consistent.empty : Registered.empty.Consistent := ⟨rfl, List.nodup_nil⟩

theorem Consistent.keys_eq {registered : Registered} (consistent : registered.Consistent) :
    registered.functionNames.keys = registered.operationIds.map Name.function := by
  simp [consistent.named, Entries.keys, Function.comp_def]

theorem Consistent.name_mem {registered : Registered} (consistent : registered.Consistent)
    {id : String} (member : id ∈ registered.operationIds) :
    Name.function id ∈ registered.functionNames.keys := by
  rw [consistent.keys_eq]
  exact List.mem_map_of_mem member

theorem Consistent.take {registered : Registered} (consistent : registered.Consistent)
    {operationId : String} (free : Name.function operationId ∉ registered.functionNames.keys) :
    (registered.take operationId).Consistent where
  named := by simp [Registered.take, consistent.named]
  distinct := by
    rw [keys_take]
    exact List.concat_eq_append ▸ consistent.distinct.concat free

theorem Consistent.mem_iff {registered : Registered} (consistent : registered.Consistent)
    (name id : String) :
    (name, id) ∈ registered.functionNames ↔
      id ∈ registered.operationIds ∧ Name.function id = name := by
  simp only [consistent.named, List.mem_map, Prod.mk.injEq]
  constructor
  · rintro ⟨other, member, named, rfl⟩
    exact ⟨member, named⟩
  · rintro ⟨member, named⟩
    exact ⟨id, member, named, rfl⟩

theorem Consistent.get?_iff {registered : Registered} (consistent : registered.Consistent)
    (name id : String) :
    Entries.get? registered.functionNames name = some id ↔
      id ∈ registered.operationIds ∧ Name.function id = name := by
  rw [← consistent.mem_iff]
  exact ⟨Entries.mem_of_get?, Entries.get?_of_mem consistent.distinct⟩

end Registered

/-- An operation for which a function is asked. -/
structure Call where
  path : String
  item : PathItem
  method : String
  operation : Operation

namespace Call

def operationId (call : Call) : String := call.operation.operationId.getD ""

def functionName (call : Call) : String := Name.function call.operationId

def result (components : Components) (registered : Registered) (call : Call) :
    Registered × Logged Route :=
  generate components registered call.path call.item call.method call.operation

inductive Takes (components : Components) (registered : Registered) (call : Call) :
    Registered × Logged Route → Prop where
  | missing (empty : call.operationId = "") :
      Takes components registered call
        (registered, .fail (.missingOperationId call.method call.path))
  | duplicate (filled : call.operationId ≠ "")
      (taken : call.functionName ∈ registered.functionNames.keys) :
      Takes components registered call
        (registered, .fail (.duplicateOperation call.operationId call.method call.path))
  | new (filled : call.operationId ≠ "")
      (free : call.functionName ∉ registered.functionNames.keys) :
      Takes components registered call
        (registered.take call.operationId,
          ofOperation components call.functionName call.path call.item call.method call.operation)

theorem registered_iff {registered : Registered} (consistent : registered.Consistent)
    (operationId : String) :
    (registered.operationIds.contains operationId ||
        registered.functionNames.contains (Name.function operationId)) = true ↔
      Name.function operationId ∈ registered.functionNames.keys := by
  rw [Bool.or_eq_true, Entries.contains, ← Option.ne_none_iff_isSome, Ne, Entries.get?_eq_none_iff,
    not_not, List.contains_iff_mem]
  -- An id that is taken has taken its name with it.
  exact or_iff_right_of_imp consistent.name_mem

theorem result_takes {registered : Registered} (consistent : registered.Consistent)
    (components : Components) (call : Call) :
    Takes components registered call (call.result components registered) := by
  have known := registered_iff consistent call.operationId
  rw [result, generate]
  by_cases empty : call.operationId = ""
  · have refused : register registered call.method call.path call.operation =
        .error (.missingOperationId call.method call.path) := if_pos empty
    rw [refused]
    exact .missing empty
  · by_cases taken : call.functionName ∈ registered.functionNames.keys
    · have refused : register registered call.method call.path call.operation =
          .error (.duplicateOperation call.operationId call.method call.path) :=
        (if_neg empty).trans (if_pos (known.mpr taken))
      rw [refused]
      exact .duplicate empty taken
    · have accepted : register registered call.method call.path call.operation =
          .ok (call.functionName, registered.take call.operationId) := by
        rw [Registered.take_eq_put taken]
        exact (if_neg empty).trans (if_neg (mt known.mp taken))
      rw [accepted]
      exact .new empty taken

end Call

/-- The names that are taken after some operations, whether these gave functions or not. -/
def registeredFrom (components : Components) (registered : Registered) (calls : List Call) :
    Registered :=
  calls.foldl (fun registered call => (call.result components registered).1) registered

/-- The functions for those of the operations that give one. -/
def returned (components : Components) (registered : Registered) : List Call → List Route
  | [] => []
  | call :: rest =>
      (call.result components registered).2.outcome.toOption.toList ++
        returned components (call.result components registered).1 rest

namespace Call

variable {components : Components} {registered : Registered} {call : Call}

theorem Takes.consistent {result : Registered × Logged Route}
    (takes : Takes components registered call result) (consistent : registered.Consistent) :
    result.1.Consistent := by
  cases takes with
  | missing empty => exact consistent
  | duplicate filled taken => exact consistent
  | new filled free => exact consistent.take free

theorem Takes.mem_keys {result : Registered × Logged Route}
    (takes : Takes components registered call result) (name : String) :
    name ∈ result.1.functionNames.keys ↔
      name ∈ registered.functionNames.keys ∨ call.operationId ≠ "" ∧ call.functionName = name := by
  cases takes with
  | missing empty => simp [empty]
  | duplicate filled taken =>
    constructor
    · exact .inl
    · rintro (member | ⟨_, rfl⟩)
      · exact member
      · exact taken
  | new filled free =>
    rw [Registered.keys_take, List.mem_append, List.mem_singleton]
    exact or_congr_right ⟨fun same => ⟨filled, same.symm⟩, fun same => same.2.symm⟩

theorem Takes.duplicate_iff {result : Registered × Logged Route}
    (takes : Takes components registered call result) (filled : call.operationId ≠ "") :
    (∃ id method path, result.2.outcome = .error (.duplicateOperation id method path)) ↔
      call.functionName ∈ registered.functionNames.keys := by
  cases takes with
  | missing empty => exact absurd empty filled
  | duplicate _ taken => exact ⟨fun _ => taken, fun _ => ⟨_, _, _, rfl⟩⟩
  | new _ free =>
    constructor
    · rintro ⟨id, method, path, refused⟩
      have admitted := ofOperation_admits _ _ _ _ _ _ _ refused
      cases admitted
    · exact fun taken => absurd taken free

theorem Takes.unchanged {result : Registered × Logged Route}
    (takes : Takes components registered call result) {failure : Failure}
    (refused : result.2.outcome = .error failure) (turned : failure.turnsAway = true) :
    result.1 = registered := by
  cases takes with
  | missing empty => rfl
  | duplicate filled taken => rfl
  | new filled free =>
    have admitted := ofOperation_admits _ _ _ _ _ _ _ refused
    rw [turned] at admitted
    cases admitted

theorem Takes.named {result : Registered × Logged Route}
    (takes : Takes components registered call result) {route : Route}
    (made : result.2.outcome = .ok route) :
    route.name = call.functionName ∧ route.name ∉ registered.functionNames.keys ∧
      result.1.functionNames.keys = registered.functionNames.keys ++ [route.name] := by
  cases takes with
  | missing empty => cases made
  | duplicate filled taken => cases made
  | new filled free =>
    obtain ⟨named, _⟩ := ofOperation_eq_ok_iff.mp made
    rw [named]
    exact ⟨rfl, free, Registered.keys_take _ _⟩

theorem Takes.keys_sublist {result : Registered × Logged Route}
    (takes : Takes components registered call result) :
    registered.functionNames.keys.Sublist result.1.functionNames.keys := by
  cases takes with
  | missing empty => exact List.Sublist.refl _
  | duplicate filled taken => exact List.Sublist.refl _
  | new filled free =>
    rw [Registered.keys_take]
    exact List.sublist_append_left _ _

end Call

theorem registeredFrom_consistent (components : Components) {registered : Registered}
    (consistent : registered.Consistent) (calls : List Call) :
    (registeredFrom components registered calls).Consistent := by
  induction calls generalizing registered with
  | nil => exact consistent
  | cons call rest ih =>
    exact ih ((Call.result_takes consistent components call).consistent consistent)

theorem mem_registeredFrom (components : Components) {registered : Registered}
    (consistent : registered.Consistent) (calls : List Call) (name : String) :
    name ∈ (registeredFrom components registered calls).functionNames.keys ↔
      name ∈ registered.functionNames.keys ∨
        ∃ call ∈ calls, call.operationId ≠ "" ∧ call.functionName = name := by
  induction calls generalizing registered with
  | nil => simp [registeredFrom]
  | cons call rest ih =>
    have takes := Call.result_takes consistent components call
    rw [registeredFrom, List.foldl_cons, ← registeredFrom, ih (takes.consistent consistent),
      takes.mem_keys, or_assoc, List.exists_mem_cons_iff]

theorem returned_names (components : Components) {registered : Registered}
    (consistent : registered.Consistent) (calls : List Call) :
    (registered.functionNames.keys ++
      (returned components registered calls).map (·.name)).Nodup := by
  -- Taken and returned names stand in one list; a call that fails may still take a name.
  induction calls generalizing registered with
  | nil => simpa [returned] using consistent.distinct
  | cons call rest ih =>
    have takes := Call.result_takes consistent components call
    have later := ih (takes.consistent consistent)
    rw [returned]
    cases made : (call.result components registered).2.outcome with
    | error failure => exact (takes.keys_sublist.append (List.Sublist.refl _)).nodup later
    | ok route =>
      rw [(takes.named made).2.2] at later
      simpa [Except.toOption] using later

/-- Whatever operations came before, a name is taken once and stays taken: an operation is refused
as a duplicate exactly when one before it had its function name, a refusal changes nothing, and the
functions that are given have different names. -/
theorem operations_take_names (components : Components) (earlier : List Call) (call : Call) :
    let before := registeredFrom components .empty earlier
    let after := registeredFrom components .empty (earlier ++ [call])
    let outcome := (call.result components before).2.outcome
    after.Consistent ∧
      (∀ name id, Entries.get? after.functionNames name = some id ↔
        id ∈ after.operationIds ∧ Name.function id = name) ∧
      (call.operationId ≠ "" →
        ((∃ id method path, outcome = .error (.duplicateOperation id method path)) ↔
          ∃ prior ∈ earlier, prior.operationId ≠ "" ∧ prior.functionName = call.functionName)) ∧
      (∀ failure, outcome = .error failure → failure.turnsAway = true → after = before) ∧
      ((returned components .empty (earlier ++ [call])).map (·.name)).Nodup := by
  intro before after outcome
  have consistent := registeredFrom_consistent components .empty earlier
  have takes := Call.result_takes consistent components call
  have step : after = (call.result components before).1 := List.foldl_concat ..
  have next : after.Consistent := step ▸ takes.consistent consistent
  have taken := mem_registeredFrom components .empty earlier call.functionName
  refine ⟨next, next.get?_iff, ?_, ?_, ?_⟩
  · intro filled
    rw [takes.duplicate_iff filled, taken]
    simp [Registered.empty, Entries.keys]
  · intro failure refused turned
    rw [step]
    exact takes.unchanged refused turned
  · have distinct := returned_names components .empty (earlier ++ [call])
    simpa [Registered.empty, Entries.keys] using distinct

def Call.unsendable : Call :=
  ⟨"/items", PathItem.empty, "POST",
    ⟨some "postItem", none, none, [], false, [],
      some (.inline ⟨[("text/csv", ⟨none⟩)], none, false⟩), []⟩⟩

def Call.respelled : Call :=
  ⟨"/items", PathItem.empty, "PUT", ⟨some "post_item", none, none, [], false, [], none, []⟩⟩

theorem operations_take_names_failed :
    (Call.unsendable.result .empty .empty).2.outcome =
        .error (.unsupportedMediaType "POST /items" ["text/csv"]) ∧
      Call.respelled.operationId ≠ "" ∧
      ∃ failure, (Call.respelled.result .empty
          (registeredFrom .empty .empty [Call.unsendable])).2.outcome = .error failure ∧
        failure.turnsAway = true ∧
        registeredFrom .empty .empty [Call.unsendable, Call.respelled] =
          registeredFrom .empty .empty [Call.unsendable] := by
  have filled : Call.respelled.operationId ≠ "" := by decide
  have folded : Call.unsendable.functionName = Call.respelled.functionName := by decide +kernel
  obtain ⟨_, _, duplicate, unchanged, _⟩ :=
    operations_take_names .empty [Call.unsendable] Call.respelled
  obtain ⟨id, method, path, refused⟩ := (duplicate filled).mpr
    ⟨Call.unsendable, List.mem_singleton_self _, by decide, folded⟩
  exact ⟨rfl, filled, _, refused, rfl, unchanged _ refused rfl⟩

end Route
end OpenApiClient
