import OpenApiClient.Client.Manifest
import OpenApiClient.Proofs.Toml.Spelling

set_option autoImplicit false

namespace OpenApiClient

def Succeeds {ε α : Type} (computed : Except ε α) : Prop := ∃ result, computed = .ok result

section Succeeds

variable {ε α β : Type}

@[simp] theorem succeeds_ok (result : α) : Succeeds (.ok result : Except ε α) := ⟨result, rfl⟩

@[simp] theorem succeeds_pure (result : α) : Succeeds (pure result : Except ε α) := ⟨result, rfl⟩

@[simp] theorem not_succeeds_error (error : ε) : ¬ Succeeds (.error error : Except ε α) := nofun

theorem succeeds_bind_iff {computed : Except ε α} {f : α → Except ε β} {next : Prop}
    (rest : ∀ result, Succeeds (f result) ↔ next) :
    Succeeds (computed >>= f) ↔ Succeeds computed ∧ next := by
  cases computed with
  | error error => exact iff_of_false nofun fun both => not_succeeds_error error both.1
  | ok result => exact (rest result).trans (and_iff_right (succeeds_ok result)).symm

theorem succeeds_bind_of {computed : Except ε α} {f : α → Except ε β}
    (rest : ∀ result, Succeeds (f result)) : Succeeds (computed >>= f) ↔ Succeeds computed :=
  (succeeds_bind_iff fun result => iff_true_intro (rest result)).trans (and_iff_left trivial)

instance (computed : Except ε α) : Decidable (Succeeds computed) :=
  match computed with
  | .ok result => isTrue (succeeds_ok result)
  | .error error => isFalse (not_succeeds_error error)

end Succeeds

namespace Toml

theorem succeeds_quoted_iff (text : String) : Succeeds (quoted text) ↔ HasSpelling text :=
  quoted_eq_ok_iff text

mutual

inductive HasTexts : Value → List String → Prop
  | text (text : String) : HasTexts (.text text) [text]
  | list (texts : List String) : HasTexts (.texts texts) texts
  | table {entries : List (Scalar × Value)} {texts : List String} :
      TableHasTexts entries texts → HasTexts (.object entries) texts

inductive TableHasTexts : List (Scalar × Value) → List String → Prop
  | nil : TableHasTexts [] []
  | cons {key : Scalar} {value : Value} {rest : List (Scalar × Value)} {texts more : List String} :
      Succeeds (keyText (Json.keyName key)) → HasTexts value texts → TableHasTexts rest more →
        TableHasTexts ((key, value) :: rest) (texts ++ more)

end

theorem succeeds_itemTexts (texts : List String) :
    Succeeds (itemTexts (texts.map Value.text)) ↔ ∀ text ∈ texts, HasSpelling text := by
  induction texts with
  | nil => simp [itemTexts]
  | cons text rest ih =>
    rw [List.map_cons, itemTexts, List.forall_mem_cons, ← ih, ← succeeds_quoted_iff]
    exact succeeds_bind_iff fun _ => succeeds_bind_of fun _ => succeeds_pure _

theorem succeeds_scalar (path name text : String) :
    Succeeds (plainEntry path name (.text text)) ↔ HasSpelling text := by
  rw [plainEntry, if_neg (by simp), ← succeeds_quoted_iff]
  exact succeeds_bind_of fun _ => succeeds_pure _

theorem succeeds_list (path name : String) (texts : List String) :
    Succeeds (plainEntry path name (.texts texts)) ↔ ∀ text ∈ texts, HasSpelling text := by
  have plain : (texts.map Value.text).any isTable = false := by
    rw [List.any_map, List.any_eq_false]
    exact fun _ _ => Bool.false_ne_true
  rw [plainEntry, plain, if_neg Bool.false_ne_true, ← succeeds_itemTexts, valueText]
  exact (succeeds_bind_of fun _ => succeeds_pure _).trans
    (succeeds_bind_of fun _ => succeeds_pure _)

def Writable (path : String) (entries : List (Scalar × Value)) : Prop :=
  Succeeds (plainEntries path entries) ∧
    ∀ table ∈ (levels path entries).flatten, Succeeds table.text

mutual

theorem writable_entry {value : Value} {texts : List String} (path name : String)
    (has : HasTexts value texts) :
    Succeeds (plainEntry path name value) ∧
        (∀ table ∈ (levelsOfEntry path (.ok name) value).flatten, Succeeds table.text) ↔
      ∀ text ∈ texts, HasSpelling text := by
  cases has with
  | text text =>
    rw [succeeds_scalar, levelsOfEntry]
    · simp
    · nofun
  | list =>
    rw [succeeds_list, levelsOfEntry]
    · simp
    · nofun
  | @table entries _ has =>
    have inner := writable_entries (pathTo path name) has
    rw [plainEntry, levelsOfEntry, List.flatten_cons]
    simp only [succeeds_pure, true_and, List.singleton_append, List.forall_mem_cons]
    rw [← inner, Writable]
    refine and_congr_left fun _ => ?_
    cases plainEntries (pathTo path name) entries <;> simp [Except.map]

theorem writable_entries {entries : List (Scalar × Value)} {texts : List String} (path : String)
    (has : TableHasTexts entries texts) :
    Writable path entries ↔ ∀ text ∈ texts, HasSpelling text := by
  cases has with
  | nil => simp [Writable, plainEntries, levels]
  | @cons key value rest texts more named first behind =>
    obtain ⟨name, named⟩ := named
    have here := writable_entry path name first
    have later := writable_entries path behind
    have lines : Succeeds (plainEntries path ((key, value) :: rest)) ↔
        Succeeds (plainEntry path name value) ∧ Succeeds (plainEntries path rest) := by
      rw [plainEntries, named]
      exact succeeds_bind_iff fun _ => succeeds_bind_of fun _ => succeeds_pure _
    rw [List.forall_mem_append, ← here, ← later, Writable, Writable, lines, levels, named]
    simp only [mem_flatten_mergeLevels, or_imp, forall_and]
    exact and_and_and_comm

end

theorem succeeds_appendTable (before : String) (table : Section) :
    Succeeds (appendTable before table) ↔ Succeeds table.text := by
  rw [appendTable]
  refine succeeds_bind_of fun text => ?_
  split <;> exact succeeds_pure _

theorem succeeds_foldlM (tables : List Section) (before : String) :
    Succeeds (tables.foldlM appendTable before) ↔ ∀ table ∈ tables, Succeeds table.text := by
  induction tables generalizing before with
  | nil => simp
  | cons table rest ih =>
    rw [List.foldlM_cons, List.forall_mem_cons, ← succeeds_appendTable before]
    exact succeeds_bind_iff fun next => ih next

theorem succeeds_write_iff {entries : List (Scalar × Value)} {texts : List String}
    (has : TableHasTexts entries texts) :
    Succeeds (write entries) ↔ ∀ text ∈ texts, HasSpelling text := by
  rw [← writable_entries "" has, write, Writable]
  exact succeeds_bind_iff fun lines => succeeds_foldlM _ _

theorem TableHasTexts.append {first second : List (Scalar × Value)} {texts more : List String}
    (here : TableHasTexts first texts) (behind : TableHasTexts second more) :
    TableHasTexts (first ++ second) (texts ++ more) := by
  match here with
  | .nil => exact behind
  | .cons named value rest =>
    rw [List.cons_append, List.append_assoc]
    exact .cons named value (rest.append behind)

theorem TableHasTexts.single {name : String} {value : Value} {texts : List String}
    (named : Succeeds (keyText name)) (has : HasTexts value texts) :
    TableHasTexts [(.text name, value)] texts :=
  List.append_nil texts ▸ .cons named has .nil

end Toml

namespace Manifest

open Text Toml

def IsOption (value : Value) : Prop := value = .null ∨ ∃ text, value = .text text

/-- The values of all options. -/
def values (options : ManifestOptions) : List Value :=
  [options.version, options.description, options.license, options.readme, options.documentation,
    options.repository]

def filledTexts (value : Value) : List String :=
  if value.isFilled then value.text?.toList else []

section Option

variable {value : Value}

theorem hasTexts_filled (option : IsOption value) (filled : value.isFilled = true) :
    HasTexts value (filledTexts value) := by
  rw [filledTexts, if_pos filled]
  rcases option with rfl | ⟨text, rfl⟩
  · cases filled
  · exact .text text

theorem hasTexts_filledEntry (name : String) {written : Value}
    (named : Succeeds (keyText name))
    (has : value.isFilled = true → HasTexts written (filledTexts value)) :
    TableHasTexts ((filledEntry name value written).map fun field => (.text field.1, field.2))
      (filledTexts value) := by
  rw [filledEntry]
  split
  next filled => exact .single named (has filled)
  next unfilled =>
    rw [filledTexts, if_neg unfilled]
    exact .nil

theorem forall_filledTexts (option : IsOption value) :
    (∀ text ∈ filledTexts value, HasSpelling text) ↔
      ∀ text, value = .text text → HasSpelling text := by
  rcases option with rfl | ⟨text, rfl⟩
  · simp [filledTexts, Value.isFilled]
  · by_cases empty : text = ""
    · subst empty
      have spelling : HasSpelling "" := by decide
      simp [filledTexts, Value.isFilled, spelling]
    · simp [filledTexts, Value.isFilled, empty, Value.text?]

end Option

section Build

variable {packageName : String} {options : ManifestOptions}

def versionTexts (options : ManifestOptions) : List String :=
  if options.version.isFilled then filledTexts options.version else [standardVersion]

def projectTexts (packageName : String) (options : ManifestOptions) : List String :=
  [projectName packageName] ++ versionTexts options ++ filledTexts options.description ++
    filledTexts options.license ++ filledTexts options.readme ++ (">=3.10" :: dependencies) ++
    (filledTexts options.documentation ++ filledTexts options.repository)

def manifestTexts (packageName : String) (options : ManifestOptions) : List String :=
  ["setuptools>=61.0", "setuptools.build_meta"] ++ projectTexts packageName options ++
    [packageName, packageName ++ ".models"]

theorem hasTexts_version (given : IsOption options.version) :
    HasTexts (if options.version.isFilled then options.version else .text standardVersion)
      (versionTexts options) := by
  rw [versionTexts]
  split
  next filled => exact hasTexts_filled given filled
  next => exact .text standardVersion

theorem hasTexts_urls (documentation : IsOption options.documentation)
    (repository : IsOption options.repository) :
    TableHasTexts
      ((if (urls options).isEmpty then [] else [("urls", Value.record (urls options))]).map
        fun field => (.text field.1, field.2))
      (filledTexts options.documentation ++ filledTexts options.repository) := by
  have links : TableHasTexts ((urls options).map fun field => (.text field.1, field.2))
      (filledTexts options.documentation ++ filledTexts options.repository) := by
    rw [urls, List.map_append]
    exact (hasTexts_filledEntry "Documentation" (by decide) (hasTexts_filled documentation)).append
      (hasTexts_filledEntry "Repository" (by decide) (hasTexts_filled repository))
  split
  next empty =>
    rw [List.isEmpty_iff.mp empty] at links
    cases texts : filledTexts options.documentation ++ filledTexts options.repository with
    | nil => exact .nil
    | cons text rest =>
      rw [texts] at links
      cases links
  next => exact .single (by decide : Succeeds (keyText "urls")) (.table links)

theorem hasTexts_build (packageName : String)
    (given : ∀ value ∈ values options, IsOption value) :
    ∃ entries, build packageName options = .object entries ∧
      TableHasTexts entries (manifestTexts packageName options) := by
  simp only [values, List.forall_mem_cons] at given
  obtain ⟨version, description, license, readme, documentation, repository, _⟩ := given
  have system : TableHasTexts [(.text "requires", .texts ["setuptools>=61.0"]),
      (.text "build-backend", .text "setuptools.build_meta")]
      ["setuptools>=61.0", "setuptools.build_meta"] :=
    .cons (by decide) (.list _) (.single (by decide) (.text _))
  have named : TableHasTexts [(.text "name", .text (projectName packageName)),
      (.text "version", if options.version.isFilled then options.version
        else .text standardVersion)]
      ([projectName packageName] ++ versionTexts options) :=
    .cons (by decide) (.text _) (.single (by decide) (hasTexts_version version))
  have described := hasTexts_filledEntry "description" (by decide) (hasTexts_filled description)
  have licensed := hasTexts_filledEntry "license" (by decide) fun filled =>
    .table (.single (by decide : Succeeds (keyText "text")) (hasTexts_filled license filled))
  have read := hasTexts_filledEntry "readme" (by decide) (hasTexts_filled readme)
  have needed : TableHasTexts [(.text "requires-python", .text ">=3.10"),
      (.text "dependencies", .texts dependencies)] (">=3.10" :: dependencies) :=
    .cons (by decide) (.text _) (.single (by decide) (.list _))
  have project := ((((named.append described).append licensed).append read).append needed).append
    (hasTexts_urls documentation repository)
  have packages : TableHasTexts [(.text "packages", .texts [packageName, packageName ++ ".models"])]
      [packageName, packageName ++ ".models"] := .single (by decide) (.list _)
  have tool : TableHasTexts [(.text "setuptools", .object [(.text "packages",
      .texts [packageName, packageName ++ ".models"])])] [packageName, packageName ++ ".models"] :=
    .single (by decide) (.table packages)
  rw [manifestTexts, List.append_assoc, build]
  simp only [Value.record, List.map_cons, List.map_nil, List.map_append]
  refine ⟨_, rfl, .cons (by decide) (.table system) (.cons (by decide) (.table ?_)
    (.single (by decide) (.table tool)))⟩
  simpa only [projectTexts, Value.record, List.append_assoc] using project

theorem hasSpelling_projectName (packageName : String) :
    HasSpelling (projectName packageName) ↔ HasSpelling packageName := by
  have replaced (cs : List Char) :
      replaceChar '_' ['-'] cs = cs.map fun c => if c = '_' then '-' else c := by
    rw [replaceChar]
    induction cs with
    | nil => rfl
    | cons c rest ih =>
      rw [List.flatMap_cons, ih, List.map_cons]
      split <;> rfl
  rw [projectName, replaced]
  apply hasSpelling_map
  all_goals
    intro c
    by_cases line : c = '_'
    · subst line
      decide
    · rw [if_neg line]

theorem forall_versionTexts (given : IsOption options.version) :
    (∀ text ∈ versionTexts options, HasSpelling text) ↔
      ∀ text, options.version = .text text → HasSpelling text := by
  rw [versionTexts, ← forall_filledTexts given]
  split
  next => exact Iff.rfl
  next unfilled =>
    have spelling : HasSpelling standardVersion := by decide
    rw [filledTexts, if_neg unfilled]
    simpa using spelling

theorem succeeds_write_build (given : ∀ value ∈ values options, IsOption value) :
    Succeeds (file packageName options) ↔
      ∀ text ∈ manifestTexts packageName options, HasSpelling text := by
  obtain ⟨entries, built, has⟩ := hasTexts_build packageName given
  have same : Manifest.write (build packageName options) = Toml.write entries := by
    rw [built, Manifest.write]
  rw [← succeeds_write_iff has]
  delta file
  rw [same]
  cases Toml.write entries <;> simp

theorem succeeds_file_iff (given : ∀ value ∈ values options, IsOption value) :
    Succeeds (file packageName options) ↔
      HasSpelling packageName ∧
        ∀ value ∈ values options, ∀ text, value = .text text → HasSpelling text := by
  have constant : ∀ text ∈ ["setuptools>=61.0", "setuptools.build_meta", ">=3.10"] ++ dependencies,
      HasSpelling text := by decide
  have models : HasSpelling (packageName ++ ".models") ↔ HasSpelling packageName :=
    hasSpelling_append (by decide) packageName
  rw [succeeds_write_build given, manifestTexts, projectTexts]
  simp only [values, List.forall_mem_cons] at given ⊢
  obtain ⟨version, description, license, readme, documentation, repository, _⟩ := given
  obtain ⟨fixed, needed⟩ := List.forall_mem_append.mp constant
  simp only [List.forall_mem_cons] at fixed
  simp only [List.forall_mem_append, List.forall_mem_cons, hasSpelling_projectName, models,
    forall_versionTexts version, forall_filledTexts description, forall_filledTexts license,
    forall_filledTexts readme, forall_filledTexts documentation, forall_filledTexts repository,
    fixed, iff_true_intro needed, List.not_mem_nil, false_imp_iff, implies_true, and_true, true_and]
  constructor
  · rintro ⟨⟨⟨⟨⟨⟨named, version⟩, description⟩, license⟩, readme⟩, documentation, repository⟩, _⟩
    exact ⟨named, version, description, license, readme, documentation, repository⟩
  · rintro ⟨named, version, description, license, readme, documentation, repository⟩
    exact ⟨⟨⟨⟨⟨⟨named, version⟩, description⟩, license⟩, readme⟩, documentation, repository⟩,
      named, named⟩

end Build

end Manifest
end OpenApiClient
