import OpenApiClient.Proofs.Name.ClassName
import OpenApiClient.Proofs.Package.FileNames

set_option autoImplicit false

namespace OpenApiClient

open Name Text

namespace Name

/-- A name under which an import line can find a module. -/
def IsModuleName (name : String) : Prop := IsIdentifier name ∧ isKeyword name = false

instance (name : String) : Decidable (IsModuleName name) :=
  inferInstanceAs (Decidable (IsIdentifier name ∧ isKeyword name = false))

theorem beginsWithDigit_snakeOr {fallback : String} (word : IsFoldedWord fallback) (name : String) :
    beginsWithDigit (snakeOr fallback name) = (letters name.toList).head?.any isAsciiDigit := by
  have kept := letters_snakeChars name.toList
  rw [snakeOr]
  by_cases empty : snake name = ""
  · have chars : snakeChars name.toList = [] := String.ofList_eq_empty_iff.mp empty
    obtain ⟨first, rest, text, lower, _⟩ := word
    rw [chars] at kept
    have none : letters name.toList = [] := List.map_eq_nil_iff.mp kept.symm
    simp [empty, none, beginsWithDigit, text, startsWithDigit, isAsciiDigit_of_isAsciiLower lower]
  · cases chars : snakeChars name.toList with
    | nil => exact absurd (String.ofList_eq_empty_iff.mpr chars) empty
    | cons first rest =>
      -- The first character is no underscore, so it is the first letter or digit of the name.
      have folded := isFoldedChar_of_mem_snakeChars (chars ▸ List.mem_cons_self)
      have letter := isLetterOrDigit_of_isFoldedChar folded (head_snakeChars chars)
      rw [chars, letters_cons, if_pos letter] at kept
      obtain ⟨original, more, split, rfl, _⟩ := List.map_eq_cons_iff.mp kept.symm
      simp [beginsWithDigit, snake, chars, split, startsWithDigit, isAsciiDigit_lowerChar]

theorem isIdentifier_iff_of_folded {fallback : String} (word : IsFoldedWord fallback)
    (name : String) :
    IsIdentifier (snakeOr fallback name) ↔
      (letters name.toList).head?.any isAsciiDigit = false := by
  rw [← beginsWithDigit_snakeOr word]
  constructor
  · rintro ⟨first, rest, text, _, notDigit, _⟩
    rw [beginsWithDigit, text, startsWithDigit, notDigit]
  · exact fun plain => (snakeOr_word word plain).isIdentifier

end Name

namespace Models

/-- The line that takes a record from its module. -/
def recordImport (name : ModelName) : String :=
  "from ." ++ name.stem ++ " import " ++ name.className

theorem isModuleName_stem (name : String) :
    IsModuleName (modelName name).stem ↔
      (letters name.toList).head?.any isAsciiDigit = false ∧ snake name ∉ keywords := by
  have word : IsFoldedWord "model" := by decide
  rw [IsModuleName, stem_modelName, isIdentifier_iff_of_folded word]
  refine and_congr_right fun _ => ?_
  rw [isKeyword, List.contains_eq_mem, decide_eq_false_iff_not, snakeOr]
  split
  next empty =>
    rw [empty]
    decide
  next => exact Iff.rfl

section Registry

variable {folder : String} {extraModules classNames : List String}
  {schemas : List (String × Schema)}

theorem file?_index (extraModules : List String) (done : (models folder schemas).failure = none) :
    Code.Project.file? (generate folder extraModules schemas).files
        (recordPath folder "__init__") =
      some (indexFile folder extraModules (schemas.map fun entry => modelName entry.1)) := by
  have names : (models folder schemas).items.map Model.name =
      schemas.map fun entry => modelName entry.1 := by
    rw [models, items_modelsFrom done, List.map_map]
    rfl
  have member : indexFile folder extraModules ((models folder schemas).items.map Model.name) ∈
      (generate folder extraModules schemas).files := by
    rw [files_of_done extraModules done]
    exact List.mem_append_right _ (List.mem_singleton_self _)
  have found := Code.Project.file?_of_mem (names_files_nodup extraModules done) member
  rw [name_indexFile, names] at found
  exact found

/-- The index takes each record from the module with its class. This is a module that can be
imported exactly when the first letter or digit of the schema's name is no digit and the name does
not fold to a keyword. -/
theorem generate_importable
    (made : (generate folder extraModules schemas).outcome = .ok classNames) :
    (∃ index, Code.Project.file? (generate folder extraModules schemas).files
        (recordPath folder "__init__") = some index ∧
      index.imports =
        ["# Auto-generated models"] ++
          schemas.map (fun entry => recordImport (modelName entry.1)) ++
            extraModules.map fun name => "from " ++ name ++ " import *  # noqa: F401,F403") ∧
    ∀ entry ∈ schemas,
      (∃ file, Code.Project.file? (generate folder extraModules schemas).files
          (recordPath folder (modelName entry.1).stem) = some file ∧
        file.classes.keys = [(modelName entry.1).className]) ∧
      (IsModuleName (modelName entry.1).stem ↔
        (letters entry.1.toList).head?.any isAsciiDigit = false ∧ snake entry.1 ∉ keywords) := by
  have done := done_of_generate made
  refine ⟨⟨_, file?_index extraModules done, ?_⟩,
    fun entry member => ⟨?_, isModuleName_stem entry.1⟩⟩
  · rw [indexFile, List.map_map]
    rfl
  · exact ⟨_, file?_record extraModules done member, rfl⟩

end Registry

def recordOf (properties : List (String × Subschema)) : Schema :=
  ⟨none, some (.one .object), none, none, some properties, [], none, none, none⟩

def mixedRegistry : List (String × Schema) :=
  [("class", recordOf []), ("2fa", recordOf []), ("OrderItem", recordOf [])]

theorem mixedRegistry_generates :
    (generate "shop" [] mixedRegistry).outcome = .ok ["Class", "Model2fa", "OrderItem"] := by
  have computed : (generate "shop" [] mixedRegistry).outcome.toOption.map id =
      some ["Class", "Model2fa", "OrderItem"] := by decide +kernel
  obtain ⟨_, made, rfl⟩ := exists_of_toOption computed
  exact made

theorem generate_importable_mixed :
    (generate "shop" [] mixedRegistry).outcome = .ok ["Class", "Model2fa", "OrderItem"] ∧
      IsModuleName (modelName "OrderItem").stem ∧ ¬ IsModuleName (modelName "class").stem ∧
        ¬ IsModuleName (modelName "2fa").stem := by
  obtain ⟨_, modules⟩ := generate_importable mixedRegistry_generates
  have plain := (modules ("OrderItem", recordOf []) (by simp [mixedRegistry])).2
  have keyword := (modules ("class", recordOf []) (by simp [mixedRegistry])).2
  have digit := (modules ("2fa", recordOf []) (by simp [mixedRegistry])).2
  refine ⟨mixedRegistry_generates, plain.mpr ?_, keyword.not.mpr ?_, digit.not.mpr ?_⟩ <;>
    decide +kernel

/-- Two import lines that cannot be read. -/
theorem generate_not_importable :
    ∃ index, Code.Project.file? (generate "shop" [] mixedRegistry).files
        "shop/models/__init__.py" = some index ∧
      "from .class import Class" ∈ index.imports ∧ isKeyword "class" = true ∧
        "from .2fa import Model2fa" ∈ index.imports ∧ ¬ IsIdentifier "2fa" := by
  have found := file?_index [] (done_of_generate mixedRegistry_generates)
  have path : recordPath "shop" "__init__" = "shop/models/__init__.py" := by decide
  rw [path] at found
  exact ⟨_, found, by decide⟩

/-- The keys of the names whose class is a keyword or has the name of an import of its module. -/
def shadowingKeys : List String :=
  ["false", "none", "true", "any", "dict", "list", "optional", "base_model", "config_dict", "field",
    "base64_uuid", "float32", "float64", "int32", "int64", "secure_string"]

theorem boundNames_imports :
    imports.flatMap Code.boundNames =
      ["annotations", "datetime", "Any", "Dict", "List", "Optional", "BaseModel", "ConfigDict",
        "Field", "Base64Uuid", "Float32", "Float64", "Int32", "Int64", "SecureString"] := by
  decide +kernel

theorem className_shadows_iff (name : String) :
    (modelName name).className ∈ keywords ++ imports.flatMap Code.boundNames ↔
      classKey name ∈ shadowingKeys := by
  rw [boundNames_imports, modelName, pascal_mem_iff (by decide)]
  have keys : ((keywords ++ ["annotations", "datetime", "Any", "Dict", "List", "Optional",
      "BaseModel", "ConfigDict", "Field", "Base64Uuid", "Float32", "Float64", "Int32", "Int64",
      "SecureString"]).filter fun word => word.toList.head?.any isAsciiUpper).map keyOfClass =
        shadowingKeys := by decide
  rw [keys]

section Registry

variable {folder : String} {extraModules classNames : List String}
  {schemas : List (String × Schema)}

theorem classNames_eq (made : (generate folder extraModules schemas).outcome = .ok classNames) :
    classNames = schemas.map fun entry => (modelName entry.1).className := by
  have done := done_of_generate made
  rw [generate_of_done extraModules done, models, items_modelsFrom done] at made
  simp only [List.map_map] at made
  exact (Except.ok.inj made).symm

/-- Every class has an identifier for its name. It is no keyword and none of the names that its
module imports exactly when the name of the schema folds to none of sixteen names. -/
theorem generate_shadows (made : (generate folder extraModules schemas).outcome = .ok classNames) :
    classNames = schemas.map (fun entry => (modelName entry.1).className) ∧
    ∀ entry ∈ schemas, ∃ file,
      Code.Project.file? (generate folder extraModules schemas).files
        (recordPath folder (modelName entry.1).stem) = some file ∧
      file.classes.keys = [(modelName entry.1).className] ∧
      IsIdentifier (modelName entry.1).className ∧
      (isKeyword (modelName entry.1).className = false ∧
          (modelName entry.1).className ∉ file.boundNames ↔
        classKey entry.1 ∉ shadowingKeys) := by
  have done := done_of_generate made
  refine ⟨classNames_eq made, fun entry member => ⟨_, file?_record extraModules done member, rfl,
    isIdentifier_pascal entry.1, ?_⟩⟩
  have bound : (recordFile folder (modelName entry.1) entry.2
      (fields entry.1 entry.2).items).boundNames = imports.flatMap Code.boundNames := rfl
  rw [← className_shadows_iff, bound, List.mem_append, not_or, isKeyword, List.contains_eq_mem,
    decide_eq_false_iff_not]

end Registry

def shadowingRegistry : List (String × Schema) :=
  [("none", recordOf []),
    ("list", recordOf
      [("tags", .schema ⟨none, some (.one .array), none, none, none, [], none, none, none⟩)]),
    ("Int_32", recordOf []), ("listing", recordOf [])]

theorem shadowingRegistry_generates :
    (generate "shop" [] shadowingRegistry).outcome =
      .ok ["None", "List", "Int32", "Listing"] := by
  have computed : (generate "shop" [] shadowingRegistry).outcome.toOption.map id =
      some ["None", "List", "Int32", "Listing"] := by decide +kernel
  obtain ⟨_, made, rfl⟩ := exists_of_toOption computed
  exact made

theorem generate_shadows_some :
    (generate "shop" [] shadowingRegistry).outcome = .ok ["None", "List", "Int32", "Listing"] ∧
      ∃ file, Code.Project.file? (generate "shop" [] shadowingRegistry).files
          "shop/models/listing.py" = some file ∧
        isKeyword "Listing" = false ∧ "Listing" ∉ file.boundNames := by
  obtain ⟨_, records⟩ := generate_shadows shadowingRegistry_generates
  obtain ⟨file, found, _, _, plain⟩ :=
    records ("listing", recordOf []) (by simp [shadowingRegistry])
  have path : recordPath "shop" (modelName "listing").stem = "shop/models/listing.py" := by
    decide +kernel
  have className : (modelName "listing").className = "Listing" := by decide +kernel
  rw [className] at plain
  exact ⟨shadowingRegistry_generates, file, path ▸ found, plain.mpr (by decide +kernel)⟩

/-- A class that is called as a keyword, and one that its own annotation means instead of the list
that was imported. -/
theorem generate_shadowed :
    (generate "shop" [] shadowingRegistry).outcome = .ok ["None", "List", "Int32", "Listing"] ∧
      isKeyword "None" = true ∧
      ∃ file, Code.Project.file? (generate "shop" [] shadowingRegistry).files
          "shop/models/list.py" = some file ∧
        "List" ∈ file.boundNames ∧ ∃ record, file.classes = [("List", record)] ∧
          record.parameters.map (fun field => field.type.map Code.Expression.render) =
            [some "Optional[List[Any]]"] := by
  refine ⟨shadowingRegistry_generates, by decide, ?_⟩
  have done := done_of_generate shadowingRegistry_generates
  have member : shadowingRegistry[1] ∈ shadowingRegistry := List.getElem_mem _
  have found := file?_record [] done member
  have path : recordPath "shop" (modelName shadowingRegistry[1].1).stem =
      "shop/models/list.py" := by decide
  rw [path] at found
  refine ⟨_, found, by decide, _, rfl, ?_⟩
  decide

end Models
end OpenApiClient
