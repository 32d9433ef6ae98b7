import OpenApiClient.Client.Route.Bodies

set_option autoImplicit false

namespace OpenApiClient

namespace Code

mutual

def Expression.texts : Expression → List String
  | ⟨parts, _⟩ => Expression.partTexts parts

def Part.texts : Part → List String
  | .text text => [text]
  | .nested expression => expression.texts

def Expression.partTexts : List Part → List String
  | [] => []
  | part :: rest => part.texts ++ Expression.partTexts rest

end

def isModelName (text : String) : Bool := "models.".toList.isPrefixOf text.toList

/-- The names of the module with the records that an expression reads. -/
def Expression.modelNames (expression : Expression) : List String :=
  expression.texts.filter isModelName

@[simp] theorem Expression.modelNames_ofText (text : String) :
    (Expression.ofText text).modelNames = [text].filter isModelName := by
  simp [modelNames, ofText, texts, partTexts, Part.texts]

@[simp] theorem Expression.modelNames_wrapText (wrapper text : String) :
    (Expression.wrapText wrapper text).modelNames = [text].filter isModelName := by
  simp [modelNames, wrapText, texts, partTexts, Part.texts]

@[simp] theorem Expression.modelNames_wrap (wrapper : String) (expression : Expression) :
    (Expression.wrap wrapper expression).modelNames = expression.modelNames := by
  simp [modelNames, wrap, texts, partTexts, Part.texts]

@[simp] theorem isModelName_modelPath (pointer : String) :
    isModelName (Name.modelPath pointer) = true := by
  simp [isModelName, Name.modelPath, String.toList_append]

end Code

namespace MappedType

open Code

@[simp] theorem modelNames_wrapOptional (mapped : MappedType) (required : Bool) :
    (mapped.wrapOptional required).expression.modelNames = mapped.expression.modelNames := by
  rw [wrapOptional]
  split <;> simp

@[simp] theorem modelNames_listOf (item : MappedType) :
    (listOf item).expression.modelNames = item.expression.modelNames := by
  simp [listOf]

@[simp] theorem modelNames_record (pointer : String) :
    (record pointer).expression.modelNames = [Name.modelPath pointer] := by
  simp [record]

theorem formatType?_not_model {format name : String} {kind : TypeKind}
    (known : formatType? format = some (name, kind)) : isModelName name = false := by
  refine (?_ : ∀ entry ∈ _, isModelName entry.2.1 = false) _ (Entries.mem_of_get? known)
  decide

theorem instanceType_modelNames (type : InstanceType) :
    (instanceType type).1.modelNames = [] := by
  cases type <;> decide

end MappedType

def filled? (reference : Option String) : Option String := reference.filter (· ≠ "")

theorem filled?_of_ne {reference : Option String} (set : reference.getD "" ≠ "") :
    filled? reference = some (reference.getD "") := by
  cases reference with
  | none => simp at set
  | some text => simpa [filled?, Option.filter] using set

theorem filled?_of_eq {reference : Option String} (unset : reference.getD "" = "") :
    filled? reference = none := by
  cases reference with
  | none => rfl
  | some text => simpa [filled?, Option.filter] using unset

namespace Schema

def typePointer? (schema : Schema) : Option String :=
  if (schema.format.bind MappedType.formatType?).isSome then none
  else
    match schema.singleType? with
    | none | some .array => filled? (MappedType.decidingReference schema)
    | some _ => none

def bodyPointer? (schema : Schema) : Option String :=
  match filled? schema.reference with
  | some pointer => some pointer
  | none =>
      if schema.singleType? = some .array ∨ schema.items.isSome then
        match schema.items with
        | some (.every (.schema item)) => item.typePointer?
        | _ => none
      else schema.typePointer?

end Schema

structure MappedType.NamedAfter (mapped : MappedType) (pointer : Option String) : Prop where
  names : mapped.expression.modelNames = pointer.toList.map Name.modelPath
  unit : mapped.kind = .unit → pointer = none

namespace MappedType

theorem record_namedAfter (pointer : String) : NamedAfter (record pointer) (some pointer) :=
  ⟨modelNames_record pointer, fun unit => by cases unit⟩

theorem formatType?_ne_unit {format name : String} {kind : TypeKind}
    (known : formatType? format = some (name, kind)) : kind ≠ .unit := by
  refine (?_ : ∀ entry ∈ _, entry.2.2 ≠ TypeKind.unit) _ (Entries.mem_of_get? known)
  decide

theorem ofInstanceType_namedAfter (type : InstanceType) (reference : Option String)
    (usage : Usage) :
    NamedAfter (ofInstanceType type reference usage)
      (if type = .array then filled? reference else none) := by
  rw [ofInstanceType]
  by_cases list : type = .array
  · by_cases set : reference.getD "" = ""
    · rw [if_neg (by simp [set]), if_pos list, filled?_of_eq set]
      exact ⟨instanceType_modelNames type, fun _ => rfl⟩
    · rw [if_pos ⟨list, set⟩, if_pos list, filled?_of_ne set]
      exact ⟨by simp, fun unit => by cases unit⟩
  · rw [if_neg (by simp [list]), if_neg list]
    exact ⟨instanceType_modelNames type, fun _ => rfl⟩

theorem ofReference_namedAfter {reference field : Option String} {schema : Shown}
    {mapped : MappedType} (typed : ofReference reference field schema = .ok mapped) :
    NamedAfter mapped (filled? reference) := by
  rw [ofReference] at typed
  split at typed
  next set =>
    obtain rfl := Except.ok.inj typed
    rw [filled?_of_ne set]
    exact record_namedAfter _
  next => cases typed

theorem ofSchema_namedAfter {schema : Schema} {usage : Usage} {field : Option String}
    {mapped : MappedType} (typed : ofSchema schema usage field = .ok mapped) :
    NamedAfter mapped schema.typePointer? := by
  simp only [ofSchema, ofParts] at typed
  rw [Schema.typePointer?]
  cases known : schema.format.bind formatType? with
  | some entry =>
    obtain ⟨name, kind⟩ := entry
    rw [known] at typed
    obtain rfl := Except.ok.inj typed
    obtain ⟨format, _, found⟩ := Option.bind_eq_some_iff.mp known
    refine ⟨by simp [formatType?_not_model found], fun unit => ?_⟩
    exact absurd unit (formatType?_ne_unit found)
  | none =>
    -- Without a known format, a list of types counts as no type.
    simp only [known] at typed
    simp only [Schema.singleType?, Option.isSome_none, Bool.false_eq_true, if_false]
    cases written : schema.type with
    | none =>
      rw [written] at typed
      exact ofReference_namedAfter typed
    | some choice =>
      rw [written] at typed
      cases choice with
      | several types => exact ofReference_namedAfter typed
      | one single =>
        obtain rfl := Except.ok.inj typed
        have named := ofInstanceType_namedAfter single (decidingReference schema) usage
        cases single <;> exact named

end MappedType

namespace Route

theorem arrayType_namedAfter {items : Option Items} {usage : Usage} {field : String}
    {mapped : MappedType} (typed : arrayType items usage field = .ok mapped) :
    ∃ item, items = some (.every (.schema item)) ∧ mapped.NamedAfter item.typePointer? := by
  rw [arrayType.eq_def] at typed
  split at typed
  next => cases typed
  next => cases typed
  next => cases typed
  next item =>
    split at typed
    next => cases typed
    next type made =>
      obtain rfl := Except.ok.inj typed
      have named := MappedType.ofSchema_namedAfter made
      exact ⟨item, rfl, by simpa using named.names, fun unit => by cases unit⟩

theorem bodyType_namedAfter {schema : Schema} {usage : Usage} {field : String}
    {mapped : MappedType} (typed : bodyType schema usage field = .ok mapped) :
    mapped.NamedAfter schema.bodyPointer? := by
  rw [bodyType] at typed
  rw [Schema.bodyPointer?]
  split at typed
  next set =>
    obtain rfl := Except.ok.inj typed
    rw [filled?_of_ne set]
    exact MappedType.record_namedAfter _
  next unset =>
    rw [filled?_of_eq (Decidable.not_not.mp unset)]
    split at typed
    next list =>
      obtain ⟨item, items, named⟩ := arrayType_namedAfter typed
      rw [if_pos list, items]
      exact named
    next single =>
      rw [if_neg single]
      exact MappedType.ofSchema_namedAfter typed

end Route
end OpenApiClient
