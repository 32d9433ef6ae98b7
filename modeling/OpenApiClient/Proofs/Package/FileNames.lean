import OpenApiClient.Proofs.Code.Sections
import OpenApiClient.Proofs.Package.ClassNames
import OpenApiClient.Proofs.Package.Exports

set_option autoImplicit false

namespace OpenApiClient

open Name Text

def Name.classChars (folded : List Char) : List Char :=
  let joined := (separated '_' folded).flatMap capitalise
  if joined.isEmpty then "Model".toList
  else if startsWithDigit joined then "Model".toList ++ joined
  else joined

theorem Name.pascalChars_eq (cs : List Char) : pascalChars cs = classChars (snakeChars cs) := rfl

theorem Code.Project.file?_of_mem {files : Project} (distinct : (files.map (·.name)).Nodup)
    {file : File} (member : file ∈ files) : file? files file.name = some file := by
  induction files with
  | nil => cases member
  | cons first rest ih =>
    obtain ⟨new, later⟩ := List.nodup_cons.mp distinct
    rcases List.mem_cons.mp member with rfl | behind
    · exact List.find?_cons_of_pos (beq_self_eq_true _)
    · have other : first.name ≠ file.name := fun same =>
        new (List.mem_map.mpr ⟨file, behind, same.symm⟩)
      rw [file?, List.find?_cons_of_neg (by simpa using other)]
      exact ih later behind

namespace Models

theorem stem_modelName (name : String) : (modelName name).stem = snakeOr "model" name := by
  rw [modelName, snakeOr, snakeOr]
  by_cases empty : snake name = ""
  · have chars : snakeChars name.toList = [] := String.ofList_eq_empty_iff.mp empty
    simp only [empty, if_true, pascal, pascalChars, chars, ← String.toList_inj, String.toList_map]
    decide
  · simp only [empty, if_false]

theorem className_modelName (name : String) :
    (modelName name).className = String.ofList (classChars (modelName name).stem.toList) := by
  rw [stem_modelName, snakeOr]
  by_cases empty : snake name = ""
  · have chars : snakeChars name.toList = [] := String.ofList_eq_empty_iff.mp empty
    have agree : classChars [] = classChars "model".toList := by decide
    rw [if_pos empty, modelName, pascal, pascalChars_eq, chars, agree]
  · rw [if_neg empty, modelName, pascal, pascalChars_eq, snake, String.toList_ofList]

theorem className_of_stem {name other : String}
    (same : (modelName name).stem = (modelName other).stem) :
    (modelName name).className = (modelName other).className := by
  rw [className_modelName, className_modelName, same]

theorem stem_ne_init (name : String) : (modelName name).stem ≠ "__init__" := by
  rw [stem_modelName, snakeOr]
  split
  next => decide
  next =>
    intro same
    have chars : snakeChars name.toList = "__init__".toList := by
      rw [← same, snake, String.toList_ofList]
    exact head_snakeChars chars rfl

/-- The name of a file among the records. -/
def recordPath (folder stem : String) : String := folder ++ ("/models/" ++ stem ++ ".py")

theorem recordPath_injective (folder : String) : Function.Injective (recordPath folder) := by
  intro stem other same
  simpa [recordPath, String.append_right_inj, String.append_left_inj] using same

section Registry

variable {folder : String} {schemas : List (String × Schema)}

theorem stems_nodup (done : (models folder schemas).failure = none) :
    (schemas.map (fun entry => (modelName entry.1).stem) ++ ["__init__"]).Nodup := by
  obtain ⟨_, _, apart⟩ := modelsFrom_done_iff.mp done
  have stems : (schemas.map fun entry => (modelName entry.1).stem).Nodup :=
    List.pairwise_map.mpr (apart.imp ModelName.Apart.stem)
  refine List.concat_eq_append ▸ stems.concat ?_
  intro taken
  obtain ⟨entry, _, same⟩ := List.mem_map.mp taken
  exact stem_ne_init entry.1 same

theorem name_recordFile (folder : String) (name : ModelName) (schema : Schema)
    (fields : List Field) :
    (recordFile folder name schema fields).name = recordPath folder name.stem := by
  simp only [recordFile, recordPath, Code.File.named, String.append_assoc]

theorem name_indexFile (folder : String) (extraModules : List String) (names : List ModelName) :
    (indexFile folder extraModules names).name = recordPath folder "__init__" := by
  simp only [indexFile, recordPath, Code.File.named, String.append_assoc]
  rfl

theorem files_of_done (extraModules : List String) (done : (models folder schemas).failure = none) :
    (generate folder extraModules schemas).files =
      (models folder schemas).items.map Model.file ++
        [indexFile folder extraModules ((models folder schemas).items.map Model.name)] := by
  rw [generate_of_done extraModules done]

theorem names_files (extraModules : List String) (done : (models folder schemas).failure = none) :
    (generate folder extraModules schemas).files.map (·.name) =
      (schemas.map (fun entry => (modelName entry.1).stem) ++ ["__init__"]).map
        (recordPath folder) := by
  rw [files_of_done extraModules done, models, items_modelsFrom done]
  simp only [List.map_append, List.map_map, List.map_singleton, name_indexFile, Function.comp_def,
    name_recordFile]

theorem names_files_nodup (extraModules : List String)
    (done : (models folder schemas).failure = none) :
    ((generate folder extraModules schemas).files.map (·.name)).Nodup := by
  rw [names_files extraModules done]
  exact (stems_nodup done).map (recordPath_injective folder)

theorem file?_record (extraModules : List String) (done : (models folder schemas).failure = none)
    {entry : String × Schema} (member : entry ∈ schemas) :
    Code.Project.file? (generate folder extraModules schemas).files
        (recordPath folder (modelName entry.1).stem) =
      some (recordFile folder (modelName entry.1) entry.2 (fields entry.1 entry.2).items) := by
  rw [← name_recordFile folder (modelName entry.1) entry.2 (fields entry.1 entry.2).items]
  refine Code.Project.file?_of_mem (names_files_nodup extraModules done) ?_
  rw [files_of_done extraModules done, models, items_modelsFrom done, List.map_map]
  exact List.mem_append_left _ (List.mem_map.mpr ⟨entry, member, rfl⟩)

theorem modelsFrom_append {earlier : List ModelName} {before : List (String × Schema)}
    (done : (modelsFrom folder earlier before).failure = none) (rest : List (String × Schema)) :
    (modelsFrom folder earlier (before ++ rest)).items =
        (modelsFrom folder earlier before).items ++
          (modelsFrom folder (earlier ++ before.map fun entry => modelName entry.1) rest).items ∧
      (modelsFrom folder earlier (before ++ rest)).failure =
        (modelsFrom folder (earlier ++ before.map fun entry => modelName entry.1)
          rest).failure := by
  induction before generalizing earlier with
  | nil => simp [modelsFrom, Collected.empty]
  | cons entry before ih =>
    obtain ⟨name, schema⟩ := entry
    obtain ⟨free, complete, later⟩ := modelsFrom_cons_done.mp done
    simpa [modelsFrom, free, complete, Collected.cons] using ih later

theorem isTaken_iff {earlier : List (String × Schema)} {name : String} :
    isTaken (earlier.map fun entry => modelName entry.1) (modelName name) = true ↔
      ∃ other ∈ earlier, (modelName other.1).className = (modelName name).className := by
  simp only [isTaken, List.any_map, List.any_eq_true, Function.comp_apply, Bool.or_eq_true,
    beq_iff_eq]
  refine exists_congr fun other => and_congr_right fun _ => or_iff_left_of_imp className_of_stem

/-- A schema is turned away for its name. -/
def taken (name : String) : Failure :=
  .unsupportedSchema
    ("model name \"" ++ (modelName name).className ++ "\" is already used by another schema")
    ("#/components/schemas/" ++ name)

theorem models_taken_iff {earlier : List (String × Schema)}
    (done : (models folder earlier).failure = none) (entry : String × Schema)
    (rest : List (String × Schema)) :
    ((models folder (earlier ++ entry :: rest)).items = (models folder earlier).items ∧
        (models folder (earlier ++ entry :: rest)).failure = some (taken entry.1)) ↔
      ∃ other ∈ earlier, (modelName other.1).className = (modelName entry.1).className := by
  obtain ⟨name, schema⟩ := entry
  obtain ⟨items, failure⟩ := modelsFrom_append done ((name, schema) :: rest)
  rw [← isTaken_iff, models, items, failure, models, List.append_right_eq_self, List.nil_append,
    modelsFrom]
  cases isTaken (earlier.map fun entry => modelName entry.1) (modelName name) with
  | true => simp [Collected.stop, taken]
  | false => cases stopped : (fields name schema).failure <;> simp [stopped, Collected.cons]

end Registry

end Models
end OpenApiClient
