import OpenApiClient.Client.Package
import OpenApiClient.Proofs.Route.Listing

set_option autoImplicit false

namespace OpenApiClient

theorem Collected.outcome_eq_ok_iff {α β : Type} {collected : Collected α}
    {finish : List α → β} {answer : β} :
    collected.outcome finish = .ok answer ↔
      collected.failure = none ∧ finish collected.items = answer := by
  rw [outcome]
  cases collected.failure <;> simp

theorem Collected.outcome_eq_error_iff {α β : Type} {collected : Collected α}
    {finish : List α → β} {reason : Failure} :
    collected.outcome finish = .error reason ↔ collected.failure = some reason := by
  rw [outcome]
  cases collected.failure <;> simp

theorem Models.generate_of_done {folder : String} {schemas : List (String × Schema)}
    (extraModules : List String) (done : (models folder schemas).failure = none) :
    generate folder extraModules schemas =
      ⟨(models folder schemas).items.map Model.file ++
          [indexFile folder extraModules ((models folder schemas).items.map Model.name)],
        .ok (((models folder schemas).items.map Model.name).map ModelName.className),
        (models folder schemas).log⟩ := by
  simp only [generate]
  rw [done]

theorem Models.done_of_generate {folder : String} {extraModules names : List String}
    {schemas : List (String × Schema)}
    (made : (generate folder extraModules schemas).outcome = .ok names) :
    (models folder schemas).failure = none := by
  simp only [generate] at made
  split at made
  next => cases made
  next done => exact done

theorem Routes.generate_outcome_iff {folder : String} {document : Document}
    {names : List String} :
    (generate folder document).outcome = .ok names ↔
      (routes document).failure = none ∧ (routes document).items.map (·.name) = names := by
  have keys : (file folder document.operations.length (routes document).items).functions.keys =
      (routes document).items.map (·.name) := by
    rw [functions_file, Entries.keys, List.map_map, ← names_functionsFrom]
    rfl
  simp only [generate, Collected.outcome_eq_ok_iff, keys]

theorem Routes.generate_error_iff {folder : String} {document : Document} {reason : Failure} :
    (generate folder document).outcome = .error reason ↔
      (routes document).failure = some reason := by
  simp only [generate, Collected.outcome_eq_error_iff]

namespace Package

open Models

def filesBefore (settings : PackageSettings) (document : Document) (models : List Model)
    (routes : List Route) : Code.Project :=
  models.map Model.file ++
      [indexFile settings.packageName settings.extraModules (models.map Model.name)] ++
    [Routes.file settings.packageName document.operations.length routes] ++
    (Servers.generate settings.packageName document.servers (routes.map (·.name))).files

/-- The records and the routes of a package, and that nothing else keeps it from being generated. -/
structure Contents (settings : PackageSettings) (document : Document) (files : Code.Project)
    (models : List Model) (routes : List Route) : Prop where
  models_eq : (Models.models settings.packageName document.components.schemas).items = models
  modelsDone : (Models.models settings.packageName document.components.schemas).failure = none
  routes_eq : (Routes.routes document).items = routes
  routesDone : (Routes.routes document).failure = none
  serversDone : (Servers.generate settings.packageName document.servers
    (routes.map (·.name))).failure = none
  finished : withManifest document settings (filesBefore settings document models routes) =
    .ok files

/-- Nothing keeps the records, the requests and the servers of a document from being generated. -/
structure Complete (settings : PackageSettings) (document : Document) : Prop where
  models : (Models.models settings.packageName document.components.schemas).failure = none
  routes : (Routes.routes document).failure = none
  servers : (Servers.generate settings.packageName document.servers
    ((Routes.routes document).items.map (·.name))).failure = none

theorem ofDocument_of_complete {settings : PackageSettings} {document : Document}
    (complete : Complete settings document) :
    (ofDocument settings document).outcome =
      withManifest document settings
        (filesBefore settings document
          (Models.models settings.packageName document.components.schemas).items
          (Routes.routes document).items) := by
  have routesMade : (Routes.generate settings.packageName document).outcome =
      .ok ((Routes.routes document).items.map (·.name)) :=
    Routes.generate_outcome_iff.mpr ⟨complete.routes, rfl⟩
  simp only [ofDocument, Models.generate_of_done settings.extraModules complete.models, routesMade,
    complete.servers]
  rfl

theorem ofDocument_of_incomplete {settings : PackageSettings} {document : Document}
    (incomplete : ¬ Complete settings document) :
    ∃ failure, (ofDocument settings document).outcome = .error (.failure failure) := by
  simp only [ofDocument]
  split
  next failure _ => exact ⟨failure, rfl⟩
  next modelsMade =>
    split
    next failure _ => exact ⟨failure, rfl⟩
    next routesMade =>
      split
      next failure _ => exact ⟨failure, rfl⟩
      next serversDone =>
        obtain ⟨routesDone, rfl⟩ := Routes.generate_outcome_iff.mp routesMade
        exact absurd ⟨Models.done_of_generate modelsMade, routesDone, serversDone⟩ incomplete

theorem ofDocument_eq_ok_iff {settings : PackageSettings} {document : Document}
    {files : Code.Project} :
    (ofDocument settings document).outcome = .ok files ↔
      ∃ models routes, Contents settings document files models routes := by
  constructor
  · intro made
    by_cases complete : Complete settings document
    · rw [ofDocument_of_complete complete] at made
      exact ⟨_, _, rfl, complete.models, rfl, complete.routes, complete.servers, made⟩
    · obtain ⟨failure, failed⟩ := ofDocument_of_incomplete complete
      rw [failed] at made
      cases made
  · rintro ⟨models, routes, rfl, modelsDone, rfl, routesDone, serversDone, finished⟩
    rw [ofDocument_of_complete ⟨modelsDone, routesDone, serversDone⟩]
    exact finished

theorem withManifest_eq_ok {document : Document} {settings : PackageSettings}
    {before files : Code.Project} (made : withManifest document settings before = .ok files) :
    ∃ text, files = before ++ [(Code.File.named "pyproject.toml").addBlock ⟨0, text⟩] := by
  simp only [withManifest] at made
  split at made
  next => cases made
  next =>
    split at made
    next => cases made
    next file written =>
      unfold Manifest.file at written
      split at written
      next => cases written
      next text _ =>
        obtain rfl := Except.ok.inj written
        exact ⟨text, (Except.ok.inj made).symm⟩

section Contents

variable {settings : PackageSettings} {document : Document} {files : Code.Project}
  {models : List Model} {routes : List Route}

theorem Contents.modelFile (contents : Contents settings document files models routes)
    {model : Model} (member : model ∈ models) : model.file ∈ files := by
  obtain ⟨text, rfl⟩ := withManifest_eq_ok contents.finished
  have inside : model.file ∈ models.map Model.file := List.mem_map_of_mem member
  simp only [filesBefore, List.mem_append]
  exact .inl (.inl (.inl (.inl inside)))

theorem Contents.routeFile (contents : Contents settings document files models routes) :
    ∃ file ∈ files, file.functions.values =
      Routes.functionsFrom document.operations.length routes := by
  obtain ⟨text, rfl⟩ := withManifest_eq_ok contents.finished
  refine ⟨Routes.file settings.packageName document.operations.length routes, ?_, ?_⟩
  · simp [filesBefore]
  · rw [← contents.routes_eq, Routes.functions_file, Entries.values, List.map_map]
    exact List.map_id _

end Contents

end Package
end OpenApiClient
