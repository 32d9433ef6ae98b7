import OpenApiClient.Proofs.FileTree.Writing
import OpenApiClient.Proofs.Toml.Printed
import OpenApiClient.Proofs.Toml.Tables
import OpenApiClient.Settings

set_option autoImplicit false

namespace OpenApiClient

namespace Entries

variable {κ α : Type} [DecidableEq κ]

theorem get?_filter_value {entries : Entries κ α} (distinct : entries.keys.Nodup)
    (kept : α → Bool) (key : κ) :
    get? (entries.filter fun entry => kept entry.2) key = (entries.get? key).filter kept := by
  induction entries with
  | nil => rfl
  | cons entry rest ih =>
    obtain ⟨new, later⟩ := List.nodup_cons.mp distinct
    by_cases same : entry.1 = key
    · subst same
      have absent := (get?_eq_none_iff rest entry.1).mpr new
      by_cases here : kept entry.2 <;> simp [get?, here, ih later, absent, Option.filter_some]
    · by_cases here : kept entry.2 <;> simp [get?, here, same, ih later]

end Entries

namespace Toml

/-- The table is written to a text that is read as the same table. -/
def ReadsBack (table : Table) : Prop := ∃ text, write table = .ok text ∧ read text = .ok table

theorem eq_text_of_text? {value : Value} {text : String} (is : value.text? = some text) :
    value = .text text := by
  rw [Value.text?.eq_def] at is
  split at is
  next => rw [Option.some.inj is]
  next => cases is

theorem eq_of_texts {table : Table} {fields : List (String × String)}
    (texts : table.map (fun entry => (entry.1, entry.2.text?)) =
      fields.map fun field => (Scalar.text field.1, some field.2)) :
    table = fields.map fun field => (.text field.1, .text field.2) := by
  induction table generalizing fields with
  | nil => rw [List.map_eq_nil_iff.mp texts.symm, List.map_nil]
  | cons entry rest ih =>
    obtain _ | ⟨field, more⟩ := fields
    · cases texts
    · obtain ⟨key, value⟩ := entry
      simp only [List.map_cons, List.cons.injEq, Prod.mk.injEq] at texts
      obtain ⟨⟨rfl, text⟩, later⟩ := texts
      rw [List.map_cons, eq_text_of_text? text, ih later]

theorem readsBack_of_texts {text : String} {fields : List (String × String)}
    (written : write (fields.map fun field => (.text field.1, .text field.2)) = .ok text)
    (texts : (read text).map (List.map fun entry => (entry.1, entry.2.text?)) =
      .ok (fields.map fun field => (Scalar.text field.1, some field.2))) :
    ReadsBack (fields.map fun field => (.text field.1, .text field.2)) := by
  refine ⟨text, written, ?_⟩
  cases found : read text with
  | error error =>
    rw [found] at texts
    cases texts
  | ok table =>
    rw [found] at texts
    exact congrArg Except.ok (eq_of_texts (Except.ok.inj texts))

end Toml

namespace Settings

/-- Every setting is a text or unset, and the models are a list of texts. -/
structure Typed (settings : Settings) : Prop where
  options : ∀ field ∈ settings.fields, field.1 ≠ "models" → Manifest.IsOption field.2
  models : ∃ names, settings.models = .texts names

variable {settings : Settings}

theorem names_nodup : names.Nodup := by decide

theorem keys_fields (settings : Settings) : Entries.keys settings.fields = names := rfl

theorem getD_saved {value default : Value} (left : isSaved value = false → value = default) :
    ((some value).filter isSaved).getD default = value := by
  cases saved : isSaved value with
  | true => rw [Option.filter_some, if_pos saved, Option.getD_some]
  | false => rw [Option.filter_some, if_neg (Bool.eq_false_iff.mp saved), left saved,
      Option.getD_none]

theorem eq_null_of_option {value : Value} (option : Manifest.IsOption value)
    (left : isSaved value = false) : value = .null := by
  rcases option with rfl | ⟨text, rfl⟩
  · rfl
  · cases left

theorem eq_empty_of_texts {names : List String} (left : isSaved (.texts names) = false) :
    Value.texts names = .array [] := by
  cases names with
  | nil => rfl
  | cons name rest => cases left

theorem named_toTable (settings : Settings) :
    settings.toTable.map (fun entry => (Json.keyName entry.1, entry.2)) =
      settings.fields.filter fun field => isSaved field.2 := by
  rw [toTable, List.map_map]
  exact List.map_id _

theorem get?_toTable (settings : Settings) (name : String) :
    Entries.get? (settings.fields.filter fun field => isSaved field.2) name =
      (Entries.get? settings.fields name).filter isSaved :=
  Entries.get?_filter_value (keys_fields settings ▸ names_nodup) isSaved name

theorem ofFieldsOver_saved (typed : settings.Typed) :
    ofFieldsOver unset (settings.fields.filter fun field => isSaved field.2) = settings := by
  have option (name : String) {value : Value} (other : name ≠ "models")
      (found : Entries.get? settings.fields name = some value) :
      ((Entries.get? settings.fields name).filter isSaved).getD .null = value := by
    rw [found]
    exact getD_saved (eq_null_of_option (typed.options _ (Entries.mem_of_get? found) other))
  have models : ((Entries.get? settings.fields "models").filter isSaved).getD (.array []) =
      settings.models := by
    obtain ⟨names, texts⟩ := typed.models
    rw [show Entries.get? settings.fields "models" = some settings.models from rfl, texts]
    exact getD_saved eq_empty_of_texts
  simp only [ofFieldsOver, unset, get?_toTable]
  rw [option "url" (by decide) rfl, option "dirname" (by decide) rfl,
    option "package_name" (by decide) rfl, option "version" (by decide) rfl,
    option "license" (by decide) rfl, option "description" (by decide) rfl,
    option "readme" (by decide) rfl, option "documentation" (by decide) rfl,
    option "repository" (by decide) rfl, models]

theorem ofTable_toTable (typed : settings.Typed) (path : String) :
    ofTable path settings.toTable = .ok settings := by
  have known : ((settings.fields.filter fun field => isSaved field.2).map Prod.fst).filter
      (fun name => !names.contains name) = [] := by
    refine List.filter_eq_nil_iff.mpr fun name member => ?_
    obtain ⟨field, inside, rfl⟩ := List.mem_map.mp member
    have named : field.1 ∈ names :=
      keys_fields settings ▸ List.mem_map_of_mem (List.mem_filter.mp inside).1
    simpa using named
  have listed : ∃ items, (Entries.get? (settings.fields.filter fun field => isSaved field.2)
      "models").getD (.array []) = .array items := by
    obtain ⟨texts, models⟩ := typed.models
    refine ⟨texts.map .text, ?_⟩
    exact (congrArg Settings.models (ofFieldsOver_saved typed)).trans models
  obtain ⟨items, listed⟩ := listed
  simp only [ofTable, named_toTable, known, listed, ofFieldsOver_saved typed]
  rfl

theorem isFlat_of_saved (typed : settings.Typed) : ∀ entry ∈ settings.toTable,
    Toml.IsFlat entry.2 := by
  intro entry member
  obtain ⟨field, inside, rfl⟩ := List.mem_map.mp member
  obtain ⟨inside, saved⟩ := List.mem_filter.mp inside
  by_cases models : field.1 = "models"
  · obtain ⟨names, texts⟩ := typed.models
    have value : field.2 = settings.models := by
      have found := Entries.get?_of_mem (keys_fields settings ▸ names_nodup) inside
      rw [models] at found
      exact (Option.some.inj found).symm
    exact .inr ⟨names, value.trans texts⟩
  · rcases typed.options field inside models with null | text
    · rw [null] at saved
      cases saved
    · exact .inl text

theorem load_of_holds {tree : FileTree} {path text : String} {asked : String}
    {folder : Option String} {table : Toml.Table} (led : pathIn tree asked folder = path)
    (holds : tree.Holds path text) (lined : Text.Lined text.toList)
    (reads : Toml.read text = .ok table) (made : ofTable path table = .ok settings) :
    load tree asked folder = .ok (some settings) := by
  have file : tree.read path = .ok text := by
    rw [holds.read, lined.unifyBreaks, String.ofList_toList]
  simp only [load, led, holds.has, file, reads, made]
  rfl

/-- Settings come back as they were saved, if the table of what is set comes back as it was written.
No other settings have this table. -/
theorem load_save {tree emptied : FileTree} {path : String} (typed : settings.Typed)
    (opened : tree.write path "" = .ok emptied) (kept : Toml.ReadsBack settings.toTable) :
    ∃ saved, settings.save tree path = (saved, none) ∧
      (∀ asked folder, pathIn saved asked folder = path →
        load saved asked folder = .ok (some settings)) ∧
      ∀ other : Settings, other.Typed → other.toTable = settings.toTable → other = settings := by
  obtain ⟨text, written, reads⟩ := kept
  obtain ⟨saved, put⟩ := FileTree.write_of_write opened text
  have lined := Toml.lined_write (isFlat_of_saved typed) written
  have holds := (FileTree.write_eq_ok put).2.2
  refine ⟨saved, by simp only [save, opened, written, put], fun asked folder led => ?_,
    fun other typedOther same => ?_⟩
  · exact load_of_holds led holds lined reads (ofTable_toTable typed path)
  · have both := ofTable_toTable typedOther path
    rw [same, ofTable_toTable typed path] at both
    exact (Except.ok.inj both).symm

def partlyEmpty : Settings :=
  { unset with folder := .text "", description := .text "# \"a\"\r\n" }

theorem readsBack_partlyEmpty : Toml.ReadsBack partlyEmpty.toTable := by
  have written : Toml.write
      [(.text "dirname", .text ""), (.text "description", .text "# \"a\"\r\n")] =
      .ok "dirname = \"\"\ndescription = \"# \\\"a\\\"\\r\\n\"\n" := by decide +kernel
  exact @Toml.readsBack_of_texts _ [("dirname", ""), ("description", "# \"a\"\r\n")] written
    (by decide +kernel)

theorem load_save_partlyEmpty :
    ∃ saved, partlyEmpty.save .empty fileName = (saved, none) ∧
      load saved fileName none = .ok (some partlyEmpty) := by
  have typed : partlyEmpty.Typed := by
    refine ⟨?_, [], rfl⟩
    simp [fields, partlyEmpty, unset, Manifest.IsOption]
  have opened : ∃ emptied, FileTree.empty.write fileName "" = .ok emptied := ⟨_, rfl⟩
  obtain ⟨emptied, opened⟩ := opened
  obtain ⟨saved, done, loaded, _⟩ := load_save typed opened readsBack_partlyEmpty
  exact ⟨saved, done, loaded fileName none rfl⟩

end Settings
end OpenApiClient
