import OpenApiClient.Client.TypeMapping
import OpenApiClient.Reference.Resolve

set_option autoImplicit false

namespace OpenApiClient

namespace Code

@[simp] theorem Expression.render_ofText (text : String) : (ofText text).render = text := by
  simp [ofText, render, renderParts, Part.render]

@[simp] theorem Expression.render_wrapText (wrapper text : String) :
    (wrapText wrapper text).render = wrapper ++ "[" ++ text ++ "]" := by
  simp [wrapText, render, renderParts, Part.render]

@[simp] theorem Expression.render_wrap (wrapper : String) (expression : Expression) :
    (wrap wrapper expression).render = wrapper ++ "[" ++ expression.render ++ "]" := by
  simp [wrap, render, renderParts, Part.render]

end Code

namespace MappedType

open Code

inductive Written : MappedType → Prop where
  | format {format name : String} {kind : TypeKind}
      (known : formatType? format = some (name, kind)) : Written ⟨.ofText name, kind, true, false⟩
  | single (type : InstanceType) (owned : Bool) :
      Written ⟨(instanceType type).1, (instanceType type).2, owned, false⟩
  | records (pointer : String) :
      Written ⟨.wrapText "List" (Name.modelPath pointer), .list, true, false⟩
  | record (pointer : String) : Written (record pointer)

theorem ofInstanceType_written (type : InstanceType) (reference : Option String) (usage : Usage) :
    (ofInstanceType type reference usage).Written := by
  rw [ofInstanceType]
  split
  next => exact .records _
  next => exact .single type _

theorem ofReference_written {reference field : Option String} {schema : Shown}
    {mapped : MappedType} (made : ofReference reference field schema = .ok mapped) :
    mapped.Written := by
  rw [ofReference] at made
  split at made
  next =>
    obtain rfl := Except.ok.inj made
    exact .record _
  next => cases made

theorem ofSchema_written {schema : Schema} {usage : Usage} {field : Option String}
    {mapped : MappedType} (made : ofSchema schema usage field = .ok mapped) : mapped.Written := by
  simp only [ofSchema, ofParts] at made
  split at made
  next name kind known =>
    obtain rfl := Except.ok.inj made
    obtain ⟨format, _, found⟩ := Option.bind_eq_some_iff.mp known
    exact .format found
  next =>
    split at made
    next single _ =>
      obtain rfl := Except.ok.inj made
      exact ofInstanceType_written _ _ _
    next => exact ofReference_written made

theorem Written.required {mapped : MappedType} (written : mapped.Written) :
    mapped.optional = false := by
  cases written <;> rfl

theorem Written.opens {mapped : MappedType} (written : mapped.Written) :
    mapped.expression.render.toList.head? ≠ some 'O' := by
  cases written with
  | @format format name kind known =>
    refine Expression.render_ofText name ▸ ?_
    refine (?_ : ∀ entry ∈ _, entry.2.1.toList.head? ≠ some 'O') _ (Entries.mem_of_get? known)
    decide
  | single type owned =>
    change (instanceType type).1.render.toList.head? ≠ some 'O'
    -- None of the fixed types is an optional one.
    cases type <;> decide +kernel
  | records pointer => simp [String.toList_append]
  | record pointer => simp [MappedType.record, Name.modelPath, String.toList_append]

theorem Written.render_wrapOptional {mapped : MappedType} (written : mapped.Written)
    (required : Bool) :
    (mapped.wrapOptional required).expression.render =
      if required then mapped.expression.render
      else "Optional[" ++ mapped.expression.render ++ "]" := by
  cases required <;> simp [wrapOptional, written.required]

theorem toOption_ofSchema (schema : Schema) (usage : Usage) (field other : Option String) :
    (ofSchema schema usage field).toOption = (ofSchema schema usage other).toOption := by
  simp only [ofSchema, ofParts, ofReference]
  split
  next => rfl
  next =>
    split
    next => rfl
    next => split <;> rfl

end MappedType
end OpenApiClient
