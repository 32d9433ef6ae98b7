import OpenApiClient.Proofs.Document.Loading
import OpenApiClient.Proofs.Package.Contents
import OpenApiClient.Proofs.Toml.Tables

set_option autoImplicit false

namespace OpenApiClient

namespace Manifest

theorem options_of_known {given : List (String × Value)}
    (known : ∀ option ∈ given, option.1 ∈ optionNames) :
    ∃ found, options given = .ok found ∧
      values found = optionNames.map fun name => (Entries.get? given name).getD .null := by
  have none : given.find? (fun option => !optionNames.contains option.1) = none := by
    rw [List.find?_eq_none]
    intro option member
    simpa using known option member
  rw [options, none]
  exact ⟨_, rfl, rfl⟩

structure Fits (given : List (String × Value)) : Prop where
  known : ∀ option ∈ given, option.1 ∈ optionNames
  isOption : ∀ option ∈ given, IsOption option.2

theorem succeeds_file_of_fits {given : List (String × Value)} (fits : Fits given)
    (packageName : String) :
    ∃ found, options given = .ok found ∧
      (Succeeds (file packageName found) ↔
        Toml.HasSpelling packageName ∧
          ∀ name text, Entries.get? given name = some (.text text) → Toml.HasSpelling text) := by
  obtain ⟨found, options_eq, values_eq⟩ := options_of_known fits.known
  have isOption : ∀ value ∈ values found, IsOption value := by
    rw [values_eq, List.forall_mem_map]
    intro name _
    cases present : Entries.get? given name with
    | none => exact .inl rfl
    | some value => exact fits.isOption _ (Entries.mem_of_get? present)
  refine ⟨found, options_eq, (succeeds_file_iff isOption).trans (and_congr_right fun _ => ?_)⟩
  rw [values_eq, List.forall_mem_map]
  constructor
  · intro spelled name text present
    refine spelled name (fits.known _ (Entries.mem_of_get? present)) text ?_
    rw [present, Option.getD_some]
  · intro spelled name _ text value_eq
    cases present : Entries.get? given name with
    | none =>
      rw [present] at value_eq
      cases value_eq
    | some value =>
      rw [present, Option.getD_some] at value_eq
      exact spelled name text (present.trans (congrArg some value_eq))

end Manifest

namespace Package

/-- The package for the description at a source. -/
def fromSource (stack : Stack) (fetch : String → Web.Answer) (tree : FileTree)
    (settings : PackageSettings) (source : String) (name : Option String) :
    Except ClientError Code.Project :=
  match Load.within stack fetch tree source with
  | .error error => .error error
  | .ok spec =>
      match stack.refuses spec with
      | some failure => .error (.package (.failure failure))
      | none =>
          if stack.generates spec then (generate settings spec name).outcome.mapError .package
          else .error .exhausted

theorem fromSource_unlimited (fetch : String → Web.Answer) (tree : FileTree)
    (settings : PackageSettings) (source : String) (name : Option String) :
    fromSource .unlimited fetch tree settings source name =
      match Load.ofSource fetch tree source with
      | .error error => .error (.load error)
      | .ok spec => (generate settings spec name).outcome.mapError .package := by
  rw [fromSource, Load.within_unlimited]
  cases Load.ofSource fetch tree source <;> rfl

/-- The texts that go into the project file can be written there. -/
def Spelled (settings : PackageSettings) (document : Document) : Prop :=
  Toml.HasSpelling settings.packageName ∧
    ∀ name text, Entries.get? (manifestOptions document settings.manifest) name =
      some (.text text) → Toml.HasSpelling text

theorem fits_manifestOptions (document : Document) {given : List (String × Value)}
    (named : ∀ option ∈ given, option.1 ∈ Manifest.optionNames)
    (texts : ∀ option ∈ given, ∃ text, option.2 = .text text) :
    Manifest.Fits (manifestOptions document given) := by
  have fits : Manifest.Fits given := ⟨named, fun option member => .inr (texts option member)⟩
  rw [manifestOptions]
  split
  next => exact fits
  next =>
    refine ⟨List.forall_mem_append.mpr ⟨fits.known, ?_⟩,
      List.forall_mem_append.mpr ⟨fits.isOption, ?_⟩⟩
    · exact List.forall_mem_singleton.mpr (by decide : "description" ∈ Manifest.optionNames)
    · rw [List.forall_mem_singleton]
      cases document.info.description with
      | none => exact .inl rfl
      | some text => exact .inr ⟨text, rfl⟩

section Generate

variable {settings : PackageSettings}

theorem withManifest_reported_iff {document : Document}
    (fits : Manifest.Fits (manifestOptions document settings.manifest)) (before : Code.Project) :
    (∀ error, withManifest document settings before = .error error →
      (ClientError.package error).IsReported) ↔ Spelled settings document := by
  obtain ⟨found, options_eq, succeeds_iff⟩ :=
    Manifest.succeeds_file_of_fits fits settings.packageName
  rw [Spelled, ← succeeds_iff]
  simp only [withManifest, options_eq]
  cases Manifest.file settings.packageName found with
  | error error => exact iff_of_false (fun reported => reported _ rfl) (not_succeeds_error error)
  | ok file => exact iff_of_true (fun _ failed => by cases failed) (succeeds_ok file)

theorem generate_reported_iff
    (named : ∀ option ∈ settings.manifest, option.1 ∈ Manifest.optionNames)
    (texts : ∀ option ∈ settings.manifest, ∃ text, option.2 = .text text) (spec : Value)
    (name : Option String) :
    (∀ error, (generate settings spec name).outcome = .error error →
      (ClientError.package error).IsReported) ↔
      ∀ document, (Document.parse spec name).outcome = .ok document →
        Complete settings document → Spelled settings document := by
  simp only [generate]
  cases parsed : (Document.parse spec name).outcome with
  | error failure =>
    refine iff_of_true (fun error failed => ?_) nofun
    obtain rfl := Except.error.inj failed
    trivial
  | ok document =>
    simp only [Except.ok.injEq, forall_eq']
    -- Only the project file of a complete package can fail with anything but a failure.
    by_cases complete : Complete settings document
    · rw [ofDocument_of_complete complete, forall_prop_of_true complete]
      exact withManifest_reported_iff (fits_manifestOptions document named texts) _
    · obtain ⟨failure, failed⟩ := ofDocument_of_incomplete complete
      refine iff_of_true (fun error stopped => ?_) fun done => absurd done complete
      rw [failed] at stopped
      obtain rfl := Except.error.inj stopped
      trivial

variable {stack : Stack} {fetch : String → Web.Answer} {tree : FileTree} {path : String}

end Generate

def describedTree : FileTree :=
  ⟨[(["shop.json"], .file (.text "\x7b\x7d")), (["shop.yaml"], .file (.text "day: 2024-02-30")),
    (["bytes.json"], .file .bytes)], ⟨[], 0⟩⟩

def shopSettings (description : String) : PackageSettings :=
  ⟨"shop", [], [("version", .text "1.0"), ("description", .text description)]⟩

def offline : String → Web.Answer := fun _ => .unreached ""

def shortStack : Stack :=
  ⟨fun _ text => decide ((text.toList.filter fun c => c == '[' || c == '\x7b').length < 300),
    fun _ => none, fun _ => true⟩

theorem exists_of_unreported {result : Except ClientError Code.Project}
    (stopped : (match result with
      | .ok _ => true
      | .error error => decide error.IsReported) = false) :
    ∃ error, result = .error error ∧ ¬ error.IsReported := by
  cases result with
  | ok => cases stopped
  | error error => exact ⟨error, rfl, by simpa using stopped⟩

end Package
end OpenApiClient
