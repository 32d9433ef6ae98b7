import OpenApiClient.Client.Route.Statement
import OpenApiClient.Proofs.Code.Types

set_option autoImplicit false

namespace OpenApiClient

namespace MappedType

open Code

def Valued (mapped : MappedType) : Prop :=
  mapped.kind ≠ .unit → mapped.expression.render ≠ "None"

theorem append_ne_none {first : Char} {opening : String} (other : first ≠ 'N')
    (begins : opening.toList.head? = some first) (rest : String) : opening ++ rest ≠ "None" := by
  intro same
  have heads := congrArg (fun text : String => text.toList.head?) same
  simp [String.toList_append, List.head?_append, begins] at heads
  exact other heads

theorem record_valued (pointer : String) : (record pointer).Valued := by
  intro _
  rw [record, Expression.render_ofText, Name.modelPath]
  exact append_ne_none (by decide) rfl _

theorem listOf_valued (item : MappedType) : (listOf item).Valued := by
  intro _
  rw [listOf, Expression.render_wrap, String.append_assoc, String.append_assoc]
  exact append_ne_none (by decide) rfl _

theorem formatType?_ne_none {format name : String} {kind : TypeKind}
    (known : formatType? format = some (name, kind)) : name ≠ "None" := by
  refine (?_ : ∀ entry ∈ _, entry.2.1 ≠ "None") _ (Entries.mem_of_get? known)
  decide

theorem instanceType_ne_none {type : InstanceType} (valued : (instanceType type).2 ≠ .unit) :
    (instanceType type).1.render ≠ "None" := by
  cases type with
  | null => exact absurd rfl valued
  | _ => decide +kernel

theorem Written.valued {mapped : MappedType} (written : mapped.Written) : mapped.Valued := by
  intro unit
  cases written with
  | format known =>
    rw [Expression.render_ofText]
    exact formatType?_ne_none known
  | single type owned => exact instanceType_ne_none unit
  | records pointer =>
    rw [Expression.render_wrapText, String.append_assoc, String.append_assoc]
    exact append_ne_none (by decide) rfl _
  | record pointer => exact record_valued pointer unit

end MappedType

namespace Route

open Code

theorem bodyType_written {schema : Schema} {usage : Usage} {field : String} {mapped : MappedType}
    (made : bodyType schema usage field = .ok mapped) :
    mapped.Written ∨ ∃ item : MappedType, item.Written ∧ mapped = item.listOf := by
  rw [bodyType] at made
  split at made
  next =>
    obtain rfl := Except.ok.inj made
    exact .inl (.record _)
  next =>
    split at made
    next =>
      rw [arrayType.eq_def] at made
      split at made
      next => cases made
      next => cases made
      next => cases made
      next item =>
        split at made
        next => cases made
        next type typed =>
          obtain rfl := Except.ok.inj made
          exact .inr ⟨type, MappedType.ofSchema_written typed, rfl⟩
    next => exact .inl (MappedType.ofSchema_written made)

theorem bodyType_valued {schema : Schema} {usage : Usage} {field : String} {mapped : MappedType}
    (made : bodyType schema usage field = .ok mapped) : mapped.Valued := by
  rcases bodyType_written made with written | ⟨item, _, rfl⟩
  · exact written.valued
  · exact MappedType.listOf_valued item

/-- The content of the answer that an operation expects; empty when it declares none. -/
def answerContent (components : Components) (operation : Operation) (place : String) : Content :=
  let handle := (Entries.get? operation.responses "200").map (Handle.map .response)
  match (component components .response place handle).outcome with
  | .ok (some (.response response)) => response.content
  | _ => []

/-- The statements that end a function for an answer of this content, and its annotation. -/
inductive Returned (content : Content) : List String → String → Prop where
  | nothing (absent : content = [] ∨ (Entries.get? content "application/json").isSome) :
      Returned content [] "None"
  | decoded {type : String} (json : (Entries.get? content "application/json").isSome)
      (valued : type ≠ "None") :
      Returned content ["return TypeAdapter(" ++ type ++ ").validate_json(response.content)"] type
  | text (noJson : Entries.get? content "application/json" = none)
      (plain : Entries.contains content "text/plain" = true) :
      Returned content ["return response.text"] "str"
  | octets (filled : content ≠ []) (noJson : Entries.get? content "application/json" = none)
      (noPlain : Entries.contains content "text/plain" = false) :
      Returned content ["return response.content"] "bytes"

theorem Returned.absent_iff {content : Content} {lines : List String} {response : String}
    (returned : Returned content lines response) : lines = [] ↔ response = "None" := by
  cases returned with
  | nothing => simp
  | decoded json valued => simpa using valued
  | text noJson plain => decide
  | octets filled noJson noPlain => decide

theorem Returned.length_le {content : Content} {lines : List String} {response : String}
    (returned : Returned content lines response) : lines.length ≤ 1 := by
  cases returned <;> simp

inductive Answered (content : Content) (place : String) : Answer → Prop where
  | empty (absent : content = []) : Answered content place .nothing
  | unit {media : MediaType} {schema : Schema} {type : MappedType}
      (found : Entries.get? content "application/json" = some media)
      (typed : bodyType schema .owned (place ++ " response") = .ok type)
      (unit : type.kind = .unit) : Answered content place .nothing
  | decoded {media : MediaType} {schema : Schema} {type : MappedType}
      (found : Entries.get? content "application/json" = some media)
      (typed : bodyType schema .owned (place ++ " response") = .ok type)
      (valued : type.kind ≠ .unit) : Answered content place (.decoded type)
  | text (noJson : Entries.get? content "application/json" = none)
      (plain : Entries.contains content "text/plain" = true) : Answered content place .text
  | octets (filled : content ≠ []) (noJson : Entries.get? content "application/json" = none)
      (noPlain : Entries.contains content "text/plain" = false) : Answered content place .octets

theorem answerOfContent_answered {content : Content} {place : String} {answer : Answer}
    (done : (answerOfContent content place).outcome = .ok answer) :
    Answered content place answer := by
  rw [answerOfContent] at done
  split at done
  next empty =>
    obtain rfl := Except.ok.inj done
    exact .empty (List.isEmpty_iff.mp empty)
  next filled =>
    rw [List.isEmpty_iff] at filled
    split at done
    next media found =>
      split at done
      next => cases done
      next schema written =>
        obtain ⟨type, typed, same⟩ := Logged.outcome_bind_eq_ok.mp done
        obtain rfl := Except.ok.inj same
        by_cases unit : type.kind = .unit
        · rw [if_pos unit]
          exact .unit found typed unit
        · rw [if_neg unit]
          exact .decoded found typed unit
    next noJson =>
      split at done
      next plain =>
        obtain rfl := Except.ok.inj done
        exact .text noJson plain
      next notPlain =>
        have noPlain := Bool.eq_false_iff.mpr notPlain
        split at done
        next =>
          obtain rfl := Except.ok.inj done
          exact .octets filled noJson noPlain
        next =>
          obtain ⟨_, _, same⟩ := Logged.outcome_bind_eq_ok.mp done
          obtain rfl := Except.ok.inj same
          exact .octets filled noJson noPlain

theorem answerOfContent_of_expectedAnswer {components : Components} {operation : Operation}
    {place : String} {answer : Answer}
    (done : (expectedAnswer components operation place).outcome = .ok answer) :
    (answerOfContent (answerContent components operation place) place).outcome = .ok answer := by
  obtain ⟨found, resolved, more⟩ := Logged.outcome_bind_eq_ok.mp done
  simp only [answerContent, resolved]
  split at more
  next response => exact more
  -- An operation without an answer expects what one without content expects.
  next other =>
    obtain rfl := Except.ok.inj more
    split
    next same => exact absurd (Except.ok.inj same) (other _)
    next => rfl

theorem expectedAnswer_answered {components : Components} {operation : Operation}
    {place : String} {answer : Answer}
    (done : (expectedAnswer components operation place).outcome = .ok answer) :
    Answered (answerContent components operation place) place answer :=
  answerOfContent_answered (answerOfContent_of_expectedAnswer done)

theorem Answered.returned {content : Content} {place : String} {answer : Answer}
    (answered : Answered content place answer) :
    Returned content (answer.statements.map Statement.render) answer.type.render := by
  cases answered with
  | empty absent => exact .nothing (.inl absent)
  | unit found typed unit => exact .nothing (.inr (Option.isSome_of_eq_some found))
  -- A type without a value is the only one that leaves nothing to return.
  | decoded found typed valued =>
    exact .decoded (Option.isSome_of_eq_some found) (bodyType_valued typed valued)
  | text noJson plain => exact .text noJson plain
  | octets filled noJson noPlain => exact .octets filled noJson noPlain

end Route
end OpenApiClient
