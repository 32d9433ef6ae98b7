import OpenApiClient.Proofs.Package.Keeping
import OpenApiClient.Proofs.Reference.Spelling

set_option autoImplicit false

namespace OpenApiClient

namespace Models

theorem modelsFrom_cons_of_done {folder name : String} {earlier : List ModelName}
    {schema : Schema} {rest : List (String × Schema)}
    (done : (modelsFrom folder earlier ((name, schema) :: rest)).failure = none) :
    modelsFrom folder earlier ((name, schema) :: rest) =
      .cons ⟨modelName name, recordFile folder (modelName name) schema (fields name schema).items⟩
        (fields name schema).log (modelsFrom folder (earlier ++ [modelName name]) rest) := by
  obtain ⟨free, complete, _⟩ := modelsFrom_cons_done.mp done
  simp only [modelsFrom, free, complete, Bool.false_eq_true, if_false]

theorem items_modelsFrom {folder : String} {earlier : List ModelName}
    {schemas : List (String × Schema)}
    (done : (modelsFrom folder earlier schemas).failure = none) :
    (modelsFrom folder earlier schemas).items = schemas.map fun entry =>
      ⟨modelName entry.1,
        recordFile folder (modelName entry.1) entry.2 (fields entry.1 entry.2).items⟩ := by
  induction schemas generalizing earlier with
  | nil => rfl
  | cons entry rest ih =>
    obtain ⟨name, schema⟩ := entry
    obtain ⟨_, _, later⟩ := modelsFrom_cons_done.mp done
    rw [modelsFrom_cons_of_done done, List.map_cons, ← ih later, Collected.cons]

theorem classNames_nodup {folder : String} {schemas : List (String × Schema)}
    (done : (models folder schemas).failure = none) :
    (schemas.map fun entry => (modelName entry.1).className).Nodup := by
  obtain ⟨_, _, apart⟩ := modelsFrom_done_iff.mp done
  exact List.pairwise_map.mpr (apart.imp ModelName.Apart.className)

theorem generate_classNames {folder : String} {extraModules classNames : List String}
    {schemas : List (String × Schema)}
    (made : (generate folder extraModules schemas).outcome = .ok classNames) :
    classNames = (schemas.map fun entry => (modelName entry.1).className) ∧ classNames.Nodup := by
  have done := done_of_generate made
  rw [generate_of_done extraModules done, models, items_modelsFrom done] at made
  have same := Except.ok.inj made
  simp only [List.map_map, Function.comp_def] at same
  exact ⟨same.symm, same ▸ classNames_nodup done⟩

end Models

namespace Pointer

open Text Name Models

theorem modelPath_eq_iff {pointer name : String} :
    modelPath pointer = "models." ++ pascal name ↔
      pascalChars (afterLastSlash pointer.toList) = pascalChars name.toList := by
  rw [modelPath, pascal, String.append_right_inj, String.ofList_inj]

theorem afterLastSlash_of_segments {pointer : String} {category written : List Char}
    {following : List (List Char)}
    (segments : (separated '/' pointer.toList).drop 2 = category :: written :: following) :
    afterLastSlash pointer.toList = following.getLast?.getD written := by
  have last := congrArg List.getLast? segments
  rw [List.getLast?_drop, getLast?_separated, List.getLast?_cons_cons, List.getLast?_cons] at last
  split at last
  next => cases last
  next => exact Option.some.inj last

/-- The class of a registered schema is the one written for a pointer to it exactly when the last
segment of the pointer gives the same class as the name; for a pointer that ends at the name,
exactly when the name is written without escapes. -/
theorem modelPath_className {folder pointer name : String}
    {extraModules classNames : List String} {components : Components} {schema : Schema}
    (made : (generate folder extraModules components.schemas).outcome = .ok classNames)
    (read : parse pointer = .ok ⟨"schemas", name⟩)
    (present : Entries.get? components.schemas name = some schema) :
    classNames.Nodup ∧ (modelName name).className ∈ classNames ∧
      recordFile folder (modelName name) schema (fields name schema).items ∈
        (generate folder extraModules components.schemas).files ∧
      ∃ written following,
        (separated '/' pointer.toList).drop 2 = "schemas".toList :: written :: following ∧
        unescape written = name.toList ∧
        (modelPath pointer = "models." ++ (modelName name).className ↔
          pascalChars (following.getLast?.getD written) = pascalChars (unescape written)) ∧
        (following = [] →
          (modelPath pointer = "models." ++ (modelName name).className ↔
            ¬ HasEscape written)) := by
  obtain ⟨named, distinct⟩ := generate_classNames made
  have entry := Entries.mem_of_get? present
  refine ⟨distinct, ?_, ?_, ?_⟩
  · rw [named]
    exact List.mem_map.mpr ⟨_, entry, rfl⟩
  · have done := done_of_generate made
    rw [generate_of_done extraModules done, models, items_modelsFrom done]
    simp only [List.map_map, List.mem_append, List.mem_map]
    exact .inl ⟨_, entry, rfl⟩
  · obtain ⟨category, written, following, segments, _, _, same⟩ := parse_eq_ok_iff.mp read
    obtain ⟨category_eq, name_eq⟩ := Target.mk.inj same
    have decoded : unescape written = name.toList := by rw [name_eq, String.toList_ofList]
    have agree : modelPath pointer = "models." ++ (modelName name).className ↔
        pascalChars (following.getLast?.getD written) = pascalChars (unescape written) := by
      rw [modelName, modelPath_eq_iff, afterLastSlash_of_segments segments, decoded]
    refine ⟨written, following, ?_, decoded, agree, ?_⟩
    · rw [segments, category_eq, String.toList_ofList]
    · rintro rfl
      rw [agree]
      exact pascalChars_unescape_iff

def slashRegistry : Components :=
  let plain : Schema := ⟨none, some (.one .object), none, none, none, [], none, none, none⟩
  { Components.empty with schemas := [("a/b", plain), ("item~list", plain)] }

theorem modelPath_className_tilde :
    ∃ classNames, (generate "pkg" [] slashRegistry.schemas).outcome = .ok classNames ∧
      parse "#/components/schemas/item~list" = .ok ⟨"schemas", "item~list"⟩ ∧
      modelPath "#/components/schemas/item~list" =
        "models." ++ (modelName "item~list").className := by
  have computed : (generate "pkg" [] slashRegistry.schemas).outcome.toOption.map List.length =
      some 2 := by
    decide +kernel
  have split : (separated '/' "#/components/schemas/item~list".toList).drop 2 =
      ["schemas".toList, "item~list".toList] := by
    decide +kernel
  have plain : ¬ HasEscape "item~list".toList := by decide +kernel
  have read : parse "#/components/schemas/item~list" = .ok ⟨"schemas", "item~list"⟩ :=
    parse_eq_ok_iff.mpr ⟨_, _, _, split, by decide, by decide, by rw [unescape_of_plain plain]; rfl⟩
  obtain ⟨classNames, made, _⟩ := exists_of_toOption computed
  obtain ⟨_, _, _, written, following, segments, _, _, ends⟩ := modelPath_className made read rfl
  obtain ⟨rfl, rfl⟩ : written = "item~list".toList ∧ following = [] := by
    simpa [eq_comm] using split.symm.trans segments
  exact ⟨classNames, made, read, (ends rfl).mpr plain⟩

/-- A slash in the name stays escaped in the class that a pointer is written as. -/
theorem modelPath_of_escape :
    ∃ classNames, (generate "pkg" [] slashRegistry.schemas).outcome = .ok classNames ∧
      parse "#/components/schemas/a~1b" = .ok ⟨"schemas", "a/b"⟩ ∧
      (Entries.get? slashRegistry.schemas "a/b").isSome ∧
      classNames = ["AB", "ItemList"] ∧
      modelPath "#/components/schemas/a~1b" = "models.A1b" ∧
      modelPath "#/components/schemas/a~1b" ≠ "models." ++ (modelName "a/b").className := by
  have computed : (generate "pkg" [] slashRegistry.schemas).outcome.toOption.map id =
      some ["AB", "ItemList"] := by
    decide +kernel
  have split : (separated '/' "#/components/schemas/a~1b".toList).drop 2 =
      ["schemas".toList, "a~1b".toList] := by
    decide +kernel
  have decoded : unescape "a~1b".toList = "a/b".toList := by decide +kernel
  have read : parse "#/components/schemas/a~1b" = .ok ⟨"schemas", "a/b"⟩ :=
    parse_eq_ok_iff.mpr ⟨_, _, _, split, by decide, by decide, by rw [decoded]; rfl⟩
  obtain ⟨classNames, made, same⟩ := exists_of_toOption computed
  exact ⟨classNames, made, read, rfl, same, by decide +kernel, by decide +kernel⟩

end Pointer
end OpenApiClient
