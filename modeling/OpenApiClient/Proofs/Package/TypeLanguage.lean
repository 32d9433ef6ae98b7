import OpenApiClient.Client.Models
import OpenApiClient.Client.Routes
import OpenApiClient.Proofs.Code.FreeNames
import OpenApiClient.Proofs.Name.ClassName
import OpenApiClient.Proofs.Package.RecordModules
import OpenApiClient.Proofs.Package.ServerClients

set_option autoImplicit false

namespace OpenApiClient

namespace Name

open Text

structure IsCapitalised (word : String) : Prop where
  capital : word.toList.head?.any isAsciiUpper = true
  chars : ∀ c ∈ word.toList, isLetterOrDigit c = true

instance (word : String) : Decidable (IsCapitalised word) :=
  decidable_of_iff (word.toList.head?.any isAsciiUpper = true ∧
      word.toList.all isLetterOrDigit = true)
    ⟨fun both => ⟨both.1, List.all_eq_true.mp both.2⟩,
      fun word => ⟨word.capital, List.all_eq_true.mpr word.chars⟩⟩

theorem underscore_not_mem_pascalChars (cs : List Char) : '_' ∉ pascalChars cs := by
  have words := underscore_not_mem_words (snakeChars cs)
  have standard : '_' ∉ "Model".toList := by decide
  rw [pascalChars]
  split
  next => exact standard
  next =>
    split
    next =>
      rw [List.mem_append]
      exact not_or.mpr ⟨standard, words⟩
    next => exact words

theorem isCapitalised_pascal (name : String) : IsCapitalised (pascal name) := by
  rw [pascal]
  refine ⟨?_, fun c member => ?_⟩
  · rw [String.toList_ofList]
    exact isAsciiUpper_head_pascalChars name.toList
  · rw [String.toList_ofList] at member
    have named := isNameChar_of_mem_pascalChars member
    have other : c ≠ '_' := fun same => underscore_not_mem_pascalChars _ (same ▸ member)
    simpa [isNameChar, isLetterOrDigit, other, or_comm, or_assoc, or_left_comm] using named

theorem exists_modelPath_eq (pointer : String) :
    ∃ word, IsCapitalised word ∧ modelPath pointer = "models." ++ word :=
  ⟨_, isCapitalised_pascal (String.ofList (afterLastSlash pointer.toList)), by
    rw [modelPath, pascal, String.toList_ofList]⟩

end Name

namespace Code

def uncommented (line : String) : String := String.ofList (line.toList.takeWhile (· ≠ '#'))

def File.importedNames (file : File) : List String :=
  file.boundNames ++ file.blocks.flatMap fun block => Code.boundNames (uncommented block.code)

end Code

namespace Schema

open MappedType

/-- A schema for which there is no type: no known format, no single type, and no reference. -/
structure Unmapped (schema : Schema) : Prop where
  format : schema.format.bind formatType? = none
  type : schema.type = none ∨ ∃ types, schema.type = some (.several types)
  reference : schema.reference = none ∨ schema.reference = some ""

def isPlainText (schema : Schema) : Bool :=
  (schema.format.bind formatType?).isNone && schema.type == some (.one .string)

end Schema

namespace MappedType

open Code Name

def fixedTypes : List String :=
  ["Base64Uuid", "Int32", "Int64", "Float32", "Float64", "bytes", "datetime", "SecureString",
    "None", "bool", "Dict[str, str]", "List[Any]", "str"]

inductive IsBaseType : String → Prop where
  | fixed {text : String} (listed : text ∈ fixedTypes) : IsBaseType text
  | record {word : String} (capitalised : IsCapitalised word) : IsBaseType ("models." ++ word)
  | records {word : String} (capitalised : IsCapitalised word) :
      IsBaseType ("List[models." ++ word ++ "]")

theorem Written.isBaseType {mapped : MappedType} (written : mapped.Written) :
    IsBaseType mapped.expression.render := by
  cases written with
  | @format format name kind known =>
    rw [Expression.render_ofText]
    refine .fixed ((?_ : ∀ entry ∈ _, entry.2.1 ∈ fixedTypes) _ (Entries.mem_of_get? known))
    decide
  | single type owned =>
    change IsBaseType (instanceType type).1.render
    cases type <;> exact .fixed (by decide +kernel)
  | records pointer =>
    obtain ⟨word, capitalised, path⟩ := exists_modelPath_eq pointer
    rw [Expression.render_wrapText, path]
    exact String.append_assoc .. ▸ .records capitalised
  | record pointer =>
    obtain ⟨word, capitalised, path⟩ := exists_modelPath_eq pointer
    rw [MappedType.record, Expression.render_ofText, path]
    exact .record capitalised

def builtins : List String := ["None", "bool", "bytes", "str"]

def Imported (name : String) : Prop :=
  (∀ folder count routes, name ∈ (Routes.file folder count routes).importedNames) ∧
    ∀ folder model schema fields,
      name ∈ (Models.recordFile folder model schema fields).importedNames

def routeImports : List String :=
  ["annotations", "json", "datetime", "Any", "Dict", "List", "Optional", "TypeAdapter", "models",
    "ApiClient", "Base64Uuid", "Float32", "Float64", "Int32", "Int64", "SecureString"]

def recordImports : List String :=
  ["annotations", "datetime", "Any", "Dict", "List", "Optional", "BaseModel", "ConfigDict",
    "Field", "Base64Uuid", "Float32", "Float64", "Int32", "Int64", "SecureString"] ++ ["models"]

theorem importedNames_routes (folder : String) (count : Nat) (routes : List Route) :
    (Routes.file folder count routes).importedNames = routeImports := by
  have bound : (Routes.file folder count routes).importedNames =
      Routes.imports.flatMap Code.boundNames ++ [] := by
    rw [Routes.file, File.foldl_addFunction]
    rfl
  rw [bound]
  decide +kernel

theorem importedNames_record (folder : String) (model : Models.ModelName) (schema : Schema)
    (fields : List Models.Field) :
    (Models.recordFile folder model schema fields).importedNames = recordImports := by
  have late : Code.boundNames (uncommented Models.lateImport) = ["models"] := by decide +kernel
  have bound : (Models.recordFile folder model schema fields).importedNames =
      Models.imports.flatMap Code.boundNames ++
        (Code.boundNames (uncommented Models.lateImport) ++ []) := rfl
  rw [bound, late, Models.boundNames_imports, List.append_nil, recordImports]

theorem origin_of_typeWord {name : String} (member : name ∈ "Optional" :: typeWords) :
    name ∈ builtins ∨ Imported name := by
  have known : ∀ name ∈ "Optional" :: typeWords,
      name ∈ builtins ∨ name ∈ routeImports ∧ name ∈ recordImports := by decide
  refine (known name member).imp_right fun imported => ⟨fun folder count routes => ?_,
    fun folder model schema fields => ?_⟩
  · exact importedNames_routes folder count routes ▸ imported.1
  · exact importedNames_record folder model schema fields ▸ imported.2

section Wrapped

variable {mapped : MappedType}

theorem foldl_wrapOptional_of_optional (optional : mapped.optional = true) (flags : List Bool) :
    flags.foldl wrapOptional mapped = mapped := by
  induction flags with
  | nil => rfl
  | cons required rest ih =>
    have same : mapped.wrapOptional required = mapped := by simp [wrapOptional, optional]
    rw [List.foldl_cons, same, ih]

theorem foldl_wrapOptional (required : mapped.optional = false) (flags : List Bool) :
    flags.foldl wrapOptional mapped =
      if flags.all id then mapped else mapped.wrapOptional false := by
  induction flags with
  | nil => rfl
  | cons flag rest ih =>
    cases flag with
    | true => simpa [wrapOptional] using ih
    | false =>
      have wrapped : (mapped.wrapOptional false).optional = true := by
        simp [wrapOptional, required]
      simpa using foldl_wrapOptional_of_optional wrapped rest

def textAfter (mapped : MappedType) (flags : List Bool) : String :=
  (flags.foldl wrapOptional mapped).expression.render

/-- The type is written in the language of types, however often it is wrapped. -/
structure Speaks (mapped : MappedType) : Prop where
  base : IsBaseType mapped.expression.render
  wrapped (flags : List Bool) : mapped.textAfter flags =
    if flags.all id then mapped.expression.render
    else "Optional[" ++ mapped.expression.render ++ "]"
  once (inner : String) : mapped.expression.render ≠ "Optional[" ++ inner ++ "]"
  names (flags : List Bool) : ∀ name ∈ (namesFound (mapped.textAfter flags)).read,
    name ∈ builtins ∨ Imported name

theorem Written.textAfter (written : mapped.Written) (flags : List Bool) :
    mapped.textAfter flags =
      if flags.all id then mapped.expression.render
      else "Optional[" ++ mapped.expression.render ++ "]" := by
  rw [MappedType.textAfter, foldl_wrapOptional written.required]
  split
  next => rfl
  next => exact written.render_wrapOptional false

theorem Written.speaks (written : mapped.Written) : mapped.Speaks where
  base := written.isBaseType
  wrapped := written.textAfter
  once := by
    intro inner same
    refine written.opens ?_
    rw [same, String.append_assoc, String.toList_append]
    rfl
  names := by
    intro flags name member
    refine origin_of_typeWord ?_
    have known : TypeOver ("Optional" :: typeWords) (mapped.textAfter flags) := by
      have base := written.typeOver.mono (List.subset_cons_self "Optional" typeWords)
      rw [written.textAfter]
      split
      next => exact base
      next => exact base.wrap "Optional" (by decide) (by decide)
    obtain ⟨names, typed, listed⟩ := known
    exact listed (typed.namesFound_read ▸ member)

end Wrapped

section Schema

variable {schema : Schema}

theorem ofSchema_of_unmapped (unmapped : schema.Unmapped) (usage : Usage)
    (field : Option String) :
    ofSchema schema usage field = .error (.typeMapping field schema.outline) := by
  have reference : (decidingReference schema).getD "" = "" := by
    rcases unmapped.reference with absent | empty
    · rcases unmapped.type with untyped | ⟨types, several⟩ <;>
        simp [decidingReference, Schema.singleType?, *]
    · simp [decidingReference, empty]
  simp only [ofSchema, ofParts, unmapped.format]
  rcases unmapped.type with untyped | ⟨types, several⟩
  · simp [untyped, ofReference, reference]
  · simp [several, ofReference, reference]

theorem ofSchema_of_not_unmapped (mappable : ¬ schema.Unmapped) (usage : Usage)
    (field : Option String) : ∃ mapped, ofSchema schema usage field = .ok mapped := by
  simp only [ofSchema, ofParts]
  split
  next => exact ⟨_, rfl⟩
  next unknown =>
    split
    next => exact ⟨_, rfl⟩
    next listed =>
      have type : schema.type = none ∨ ∃ types, schema.type = some (.several types) := by
        rcases typed : schema.type with _ | single | types
        · exact .inl rfl
        · exact absurd typed (listed single)
        · exact .inr ⟨types, rfl⟩
      have pointed : ¬ (schema.reference = none ∨ schema.reference = some "") := fun none =>
        mappable ⟨unknown, type, none⟩
      obtain ⟨pointer, reference⟩ := Option.ne_none_iff_exists'.mp (not_or.mp pointed).1
      have filled : pointer ≠ "" := fun empty => (not_or.mp pointed).2 (empty ▸ reference)
      simp [decidingReference, ofReference, reference, filled]

theorem ofInstanceType_usage (single : InstanceType) (reference : Option String)
    (usage other : Usage) :
    ofInstanceType single reference other =
      { ofInstanceType single reference usage with
        owned := !(single == .string && other == .borrowedParameter) } := by
  rw [ofInstanceType, ofInstanceType]
  split
  next array => simp [array.1]
  next => cases single <;> rfl

theorem ofSchema_usage (schema : Schema) (usage other : Usage) (field : Option String) :
    ofSchema schema other field = (ofSchema schema usage field).map fun mapped =>
      { mapped with owned := !(schema.isPlainText && other == .borrowedParameter) } := by
  simp only [ofSchema, ofParts, Schema.isPlainText]
  split
  next known => simp [known, Except.map]
  next unknown =>
    rw [unknown]
    split
    next single typed =>
      have plain : (some (TypeChoice.one single) == some (.one .string)) =
          (single == .string) := by
        cases single <;> rfl
      rw [typed, plain]
      exact congrArg Except.ok (ofInstanceType_usage single _ usage other)
    next listed =>
      have other : schema.type ≠ some (.one .string) := listed _
      simp only [ofReference]
      split <;> simp [other, Except.map, record]

/-- The type of a schema, or the failure that reports that there is none. -/
theorem ofSchema_speaks (schema : Schema) (usage : Usage) (field : Option String) :
    (schema.Unmapped ∧
        ofSchema schema usage field = .error (.typeMapping field schema.outline) ∨
      ¬ schema.Unmapped ∧ ∃ mapped, ofSchema schema usage field = .ok mapped ∧ mapped.Speaks) ∧
    ∀ other, ofSchema schema other field = (ofSchema schema usage field).map fun mapped =>
      { mapped with owned := !(schema.isPlainText && other == .borrowedParameter) } := by
  refine ⟨?_, fun other => ofSchema_usage schema usage other field⟩
  by_cases unmapped : schema.Unmapped
  · exact .inl ⟨unmapped, ofSchema_of_unmapped unmapped usage field⟩
  · obtain ⟨mapped, made⟩ := ofSchema_of_not_unmapped unmapped usage field
    exact .inr ⟨unmapped, mapped, made, (ofSchema_written made).speaks⟩

end Schema

end MappedType
end OpenApiClient
