import OpenApiClient.Reference.Pointer
import OpenApiClient.Logged

set_option autoImplicit false

namespace OpenApiClient

inductive Entity where
  | schema (schema : Schema)
  | parameter (parameter : Parameter)
  | response (response : Response)
  | requestBody (body : RequestBody)

namespace Entity

def kind : Entity → Kind
  | .schema _ => .schema
  | .parameter _ => .parameter
  | .response _ => .response
  | .requestBody _ => .requestBody

def dump : Entity → Value
  | .schema s => s.dump
  | .parameter p => p.dump
  | .response r => r.dump
  | .requestBody b => b.dump

def shown : Entity → Shown
  | .schema s => s.shown
  | .parameter p => p.shown
  | .response r => r.shown
  | .requestBody b => b.shown

end Entity

def Schema.pointer? (schema : Schema) : Option String :=
  if schema.isPointer then schema.reference else none

def Handle.pointer? : Handle Entity → Option String
  | .reference pointer => some pointer
  | .inline (.schema schema) => schema.pointer?
  | .inline _ => none

def Handle.map {α β : Type} (f : α → β) : Handle α → Handle β
  | .reference pointer => .reference pointer
  | .inline entity => .inline (f entity)

namespace Components

def registry (components : Components) : Kind → List (String × Handle Entity)
  | .schema => components.schemas.map fun entry => (entry.1, .inline (.schema entry.2))
  | .parameter => components.parameters.map fun entry => (entry.1, entry.2.map .parameter)
  | .response => components.responses.map fun entry => (entry.1, entry.2.map .response)
  | .requestBody => components.requestBodies.map fun entry => (entry.1, entry.2.map .requestBody)

def find? (components : Components) (kind : Kind) (name : String) : Option (Handle Entity) :=
  Entries.get? (components.registry kind) name

def storedPointers (components : Components) : List String :=
  [Kind.schema, .parameter, .response, .requestBody].flatMap fun kind =>
    (components.registry kind).filterMap fun entry => entry.2.pointer?

theorem mem_storedPointers {components : Components} {kind : Kind} {name pointer : String}
    {handle : Handle Entity} (found : components.find? kind name = some handle)
    (held : handle.pointer? = some pointer) : pointer ∈ components.storedPointers := by
  have member := Entries.mem_of_get? found
  refine List.mem_flatMap.mpr ⟨kind, ?_, List.mem_filterMap.mpr ⟨_, member, held⟩⟩
  cases kind <;> simp

end Components

/-- A component, the kind under which it was found, and whether it was written in place instead of
found in a registry. -/
structure Resolved where
  kind : Kind
  entity : Entity
  owned : Bool

def Resolved.text (resolved : Resolved) : String :=
  resolved.kind.name ++ "(" ++ resolved.entity.shown.toText ++ ")"

namespace Reference

def unseen (components : Components) (seen : List String) : List String :=
  components.storedPointers.filter fun pointer => !seen.contains pointer

theorem unseen_length_lt {components : Components} {seen : List String} {pointer : String}
    (stored : pointer ∈ components.storedPointers) (new : pointer ∉ seen) :
    (unseen components (seen ++ [pointer])).length < (unseen components seen).length := by
  unfold unseen
  generalize components.storedPointers = pointers at stored
  induction pointers with
  | nil => simp at stored
  | cons first rest ih =>
    have shorter : (rest.filter fun p => !(seen ++ [pointer]).contains p).length ≤
        (rest.filter fun p => !seen.contains p).length := by
      rw [← List.countP_eq_length_filter, ← List.countP_eq_length_filter]
      apply List.countP_mono_left
      intro p _ h
      simp_all
    by_cases same : first = pointer
    · subst same
      have kept : (!seen.contains first) = true := by simpa using new
      have dropped : (!(seen ++ [first]).contains first) = false := by simp
      simp only [List.filter_cons, kept, dropped]
      simp only [Bool.false_eq_true, if_false, if_true, List.length_cons]
      omega
    · have tail := ih (by simpa [Ne.symm same] using stored)
      have both : (!(seen ++ [pointer]).contains first) = !seen.contains first := by
        simp [same]
      simp only [List.filter_cons, both]
      split
      · simpa using tail
      · exact tail

/-- Follows a pointer. `seen` holds the pointers followed so far, this one included; a pointer that
comes back closes a cycle. -/
def follow (components : Components) (seen : List String) (pointer : String) :
    Logged (Option Resolved) :=
  match Pointer.parse pointer with
  | .error failure => .fail failure
  | .ok target =>
      match Kind.ofCategory? target.category with
      | none => do
          Logged.warn .resolver ("Unsupported component type " ++ target.category)
          pure none
      | some kind =>
          match _found : components.find? kind target.name with
          | none => pure none
          | some handle =>
              match _held : handle.pointer? with
              | some next =>
                  -- The chain is closed before the pointer is read again.
                  if _new : next ∈ seen then .fail (.referenceCycle (seen ++ [next]))
                  else follow components (seen ++ [next]) next
              | none =>
                  match handle with
                  | .inline entity => pure (some ⟨kind, entity, false⟩)
                  | .reference _ => pure none
termination_by (unseen components seen).length
decreasing_by exact unseen_length_lt (Components.mem_storedPointers _found _held) _new

def resolve (components : Components) (pointer : String) : Logged (Option Resolved) :=
  follow components [pointer] pointer

end Reference

def Handle.resolve (components : Components) (expected : Kind) (handle : Option (Handle Entity)) :
    Logged (Option Resolved) :=
  match handle with
  | none => pure none
  | some (.reference pointer) => Reference.resolve components pointer
  | some (.inline entity) =>
      if entity.kind = expected then
        match (Handle.inline entity).pointer? with
        | some pointer => Reference.resolve components pointer
        | none => pure (some ⟨expected, entity, true⟩)
      else .fail (.taxonomyMismatch expected.name entity.kind.name none)

end OpenApiClient
