import OpenApiClient.Checked
import OpenApiClient.Code.File

set_option autoImplicit false

namespace OpenApiClient.Code

open Checked

mutual

def Expression.read (value : Value) : Checked Expression :=
  match value with
  | .object fields =>
      Expression.mk
        <$> (match found : Value.field? fields "value" with
            | none => .valid []
            | some parts =>
                have := Value.sizeOf_field?_lt found
                within (.key "value")
                  (match parts with
                  | .array items => Expression.readParts 0 items
                  | part => List.singleton <$> within (.index 0) (Part.read part)))
        <*> fieldOr none fields "wrap_name" "wrap_name" (optional text)
  | _ => fault .notRecord
termination_by (sizeOf value, 0)
decreasing_by
  all_goals
    apply Prod.Lex.left
    simp only [Value.array.sizeOf_spec, Value.object.sizeOf_spec] at *
    omega

def Part.read (value : Value) : Checked Part :=
  firstOf
    [("Variable", Part.nested <$> Expression.read value),
      ("str", Part.text <$> text value)]
termination_by (sizeOf value, 1)
decreasing_by exact Prod.Lex.right _ (by omega)

def Expression.readParts (position : Nat) (items : List Value) : Checked (List Part) :=
  match items with
  | [] => .valid []
  | item :: rest =>
      List.cons <$> within (.index position) (Part.read item)
        <*> Expression.readParts (position + 1) rest
termination_by (sizeOf items, 0)
decreasing_by
  all_goals
    apply Prod.Lex.left
    simp only [List.cons.sizeOf_spec]
    omega

end

def given {α : Type} (absent : α) (fields : List (Scalar × Value)) (name : String)
    (read : Value → Checked α) : Checked α :=
  fieldOr absent fields name name read

def Parameter.read : Value → Checked Parameter :=
  object fun fields =>
    Parameter.mk
      <$> field fields "name" "name" text
      <*> given none fields "default" (optional Expression.read)
      <*> given none fields "var_type" (optional Expression.read)
      <*> given none fields "description" (optional text)
      <*> given 0 fields "order" integer

def Block.read : Value → Checked Block :=
  object fun fields =>
    Block.mk <$> given 0 fields "order" integer <*> given "pass" fields "code" text

def Function.read : Value → Checked Function :=
  object fun fields =>
    Function.mk
      <$> field fields "name" "name" text
      <*> given [] fields "parameters" (list Parameter.read)
      <*> given "None" fields "response" text
      <*> given false fields "async_def" flag
      <*> given [] fields "decorators" (list text)
      <*> given none fields "description" (optional text)
      <*> given Block.standard fields "code" Block.read
      <*> given 0 fields "order" integer

def Class.read : Value → Checked Class :=
  object fun fields =>
    Class.mk
      <$> field fields "name" "name" text
      <*> given [] fields "functions" (mapping Function.read)
      <*> given [] fields "code_blocks" (list Block.read)
      <*> given [] fields "parameters" (list Parameter.read)
      <*> given [] fields "inherits" (list text)
      <*> given none fields "description" (optional text)
      <*> given 0 fields "order" integer

def File.read : Value → Checked File :=
  object fun fields =>
    File.mk
      <$> field fields "file_name" "file_name" text
      <*> given [] fields "imports" (list text)
      <*> given [] fields "functions" (mapping Function.read)
      <*> given [] fields "classes" (mapping Class.read)
      <*> given [] fields "code_blocks" (list Block.read)

end OpenApiClient.Code
