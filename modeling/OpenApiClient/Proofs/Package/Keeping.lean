import Mathlib.Data.List.Perm.Subperm
import OpenApiClient.Proofs.Package.Contents
import OpenApiClient.Proofs.Reference.Keeping

set_option autoImplicit false

namespace OpenApiClient

namespace Route

variable {components : Components} {kept : String → Bool}

theorem mergeParameters_keeping (keeps : components.KeepsPointers kept) {place : String}
    {merged result : Entries ParameterKey Parameter} {handles : List (Handle Parameter)}
    (done : (mergeParameters components place merged handles).outcome = .ok result) :
    (mergeParameters (components.keeping kept) place merged handles).outcome = .ok result := by
  induction handles generalizing merged with
  | nil => exact done
  | cons handle rest ih =>
    obtain ⟨found, resolved, more⟩ := Logged.outcome_bind_eq_ok.mp done
    refine Logged.outcome_bind_eq_ok.mpr ⟨found, component_keeping keeps (by decide) resolved, ?_⟩
    cases parameter : found.bind asParameter? with
    | none =>
      rw [parameter] at more
      exact ih more
    | some parameter' =>
      rw [parameter] at more
      exact ih more

theorem collectParameters_keeping (keeps : components.KeepsPointers kept) {item : PathItem}
    {operation : Operation} {place : String} {parameters : List Parameter}
    (done : (collectParameters components item operation place).outcome = .ok parameters) :
    (collectParameters (components.keeping kept) item operation place).outcome =
      .ok parameters := by
  obtain ⟨merged, made, same⟩ := Logged.outcome_bind_eq_ok.mp done
  exact Logged.outcome_bind_eq_ok.mpr ⟨merged, mergeParameters_keeping keeps made, same⟩

theorem requestPayload_keeping (keeps : components.KeepsPointers kept) {operation : Operation}
    {place : String} {payload : Option Payload}
    (done : (requestPayload components operation place).outcome = .ok payload) :
    (requestPayload (components.keeping kept) operation place).outcome = .ok payload := by
  simp only [requestPayload] at done ⊢
  cases written : operation.requestBody with
  | none =>
    rw [written] at done
    exact done
  | some handle =>
    rw [written] at done
    obtain ⟨found, resolved, more⟩ := Logged.outcome_bind_eq_ok.mp done
    exact Logged.outcome_bind_eq_ok.mpr
      ⟨found, component_keeping keeps (by decide) resolved, more⟩

theorem expectedAnswer_keeping (keeps : components.KeepsPointers kept) {operation : Operation}
    {place : String} {answer : Answer}
    (done : (expectedAnswer components operation place).outcome = .ok answer) :
    (expectedAnswer (components.keeping kept) operation place).outcome = .ok answer := by
  obtain ⟨found, resolved, more⟩ := Logged.outcome_bind_eq_ok.mp done
  exact Logged.outcome_bind_eq_ok.mpr ⟨found, component_keeping keeps (by decide) resolved, more⟩

theorem Parts.keeping (keeps : components.KeepsPointers kept) {path method : String}
    {item : PathItem} {operation : Operation} {parameters : List Parameter} {route : Route}
    (parts : Parts components path item method operation parameters route) :
    Parts (components.keeping kept) path item method operation parameters route :=
  { parts with
    collected := collectParameters_keeping keeps parts.collected
    payload := requestPayload_keeping keeps parts.payload
    answer := expectedAnswer_keeping keeps parts.answer }

theorem generate_registered (components other : Components) (registered : Registered)
    (path : String) (item : PathItem) (method : String) (operation : Operation) :
    (generate components registered path item method operation).1 =
      (generate other registered path item method operation).1 := by
  simp only [generate]
  split <;> rfl

end Route

theorem Routes.routesFrom_keeping {components : Components} {kept : String → Bool}
    (keeps : components.KeepsPointers kept) {registered : Route.Registered}
    {operations : List (String × PathItem × Method × Operation)}
    (done : (routesFrom components registered operations).failure = none) :
    (routesFrom (components.keeping kept) registered operations).failure = none ∧
      (routesFrom (components.keeping kept) registered operations).items =
        (routesFrom components registered operations).items := by
  induction operations generalizing registered with
  | nil => exact ⟨rfl, rfl⟩
  | cons entry rest ih =>
    obtain ⟨path, item, method, operation⟩ := entry
    simp only [routesFrom] at done ⊢
    cases made :
        (Route.generate components registered path item method.name operation).2.outcome with
    | error failure =>
      rw [made] at done
      cases done
    | ok route =>
      rw [made] at done
      obtain ⟨next, accepted, parameters, parts⟩ := Route.generate_eq_ok_iff.mp made
      -- The names that are taken do not depend on the registry.
      have again := Route.generate_eq_ok_iff.mpr ⟨next, accepted, parameters, parts.keeping keeps⟩
      rw [Route.generate_registered (components.keeping kept) components, again]
      obtain ⟨complete, items⟩ := ih done
      exact ⟨complete, by simp [Collected.cons, items]⟩

theorem pairwise_of_subperm {α : Type} {R : α → α → Prop} {xs ys : List α}
    (symm : ∀ {a b : α}, R a b → R b a) (subperm : xs.Subperm ys) (pairwise : ys.Pairwise R) :
    xs.Pairwise R := by
  obtain ⟨chosen, perm, sublist⟩ := subperm
  exact (perm.pairwise_iff symm).mp (pairwise.sublist sublist)

namespace Models

structure ModelName.Apart (name other : ModelName) : Prop where
  className : name.className ≠ other.className
  stem : name.stem ≠ other.stem

theorem ModelName.Apart.symm {name other : ModelName} (apart : name.Apart other) :
    other.Apart name := ⟨apart.className.symm, apart.stem.symm⟩

theorem isTaken_eq_false_iff {earlier : List ModelName} {name : ModelName} :
    isTaken earlier name = false ↔ ∀ other ∈ earlier, other.Apart name := by
  simp only [isTaken, List.any_eq_false, Bool.or_eq_true, beq_iff_eq, not_or]
  exact forall₂_congr fun other _ =>
    ⟨fun apart => ⟨apart.1, apart.2⟩, fun apart => ⟨apart.className, apart.stem⟩⟩

theorem modelsFrom_cons_done {folder name : String} {earlier : List ModelName} {schema : Schema}
    {rest : List (String × Schema)} :
    (modelsFrom folder earlier ((name, schema) :: rest)).failure = none ↔
      isTaken earlier (modelName name) = false ∧
        (fields name schema).failure = none ∧
          (modelsFrom folder (earlier ++ [modelName name]) rest).failure = none := by
  simp only [modelsFrom]
  cases isTaken earlier (modelName name) with
  | true => simp [Collected.stop]
  | false => cases (fields name schema).failure <;> simp [Collected.cons]

theorem modelsFrom_done_iff {folder : String} {earlier : List ModelName}
    {schemas : List (String × Schema)} :
    (modelsFrom folder earlier schemas).failure = none ↔
      (∀ entry ∈ schemas, (fields entry.1 entry.2).failure = none) ∧
        (∀ entry ∈ schemas, isTaken earlier (modelName entry.1) = false) ∧
          schemas.Pairwise fun entry later => (modelName entry.1).Apart (modelName later.1) := by
  induction schemas generalizing earlier with
  | nil => simp [modelsFrom, Collected.empty]
  | cons entry rest ih =>
    obtain ⟨name, schema⟩ := entry
    rw [modelsFrom_cons_done, ih]
    simp only [isTaken_eq_false_iff, List.forall_mem_append, List.forall_mem_singleton,
      List.forall_mem_cons, List.pairwise_cons, forall_and]
    tauto

theorem models_subperm {folder : String} {schemas remaining : List (String × Schema)}
    (subperm : remaining.Subperm schemas) (done : (models folder schemas).failure = none) :
    (models folder remaining).failure = none := by
  obtain ⟨complete, _, apart⟩ := modelsFrom_done_iff.mp done
  exact modelsFrom_done_iff.mpr ⟨fun entry member => complete entry (subperm.subset member),
    fun _ _ => rfl, pairwise_of_subperm ModelName.Apart.symm subperm apart⟩

end Models

def Document.keeping (document : Document) (kept : String → Bool) : Document :=
  { document with components := document.components.keeping kept }

namespace Package

theorem withManifest_congr {document other : Document} {settings : PackageSettings}
    {before files : Code.Project} (info : other.info = document.info)
    (made : withManifest document settings before = .ok files) (beforeOther : Code.Project) :
    ∃ filesOther, withManifest other settings beforeOther = .ok filesOther := by
  simp only [withManifest, manifestOptions, info] at made ⊢
  split at made
  next => cases made
  next options filled =>
    split at made
    next => cases made
    next file written => exact ⟨beforeOther ++ [file], rfl⟩

theorem Contents.keeping {settings : PackageSettings} {document : Document}
    {files : Code.Project} {models : List Models.Model} {routes : List Route}
    (contents : Contents settings document files models routes) {kept : String → Bool}
    (keeps : document.components.KeepsPointers kept) :
    ∃ fewer remaining, Contents settings (document.keeping kept) fewer remaining routes := by
  obtain ⟨complete, items⟩ := Routes.routesFrom_keeping keeps contents.routesDone
  have info : (document.keeping kept).info = document.info := rfl
  obtain ⟨fewer, made⟩ := withManifest_congr info contents.finished
    (filesBefore settings (document.keeping kept) _ routes)
  refine ⟨fewer, _, rfl, ?_, items.trans contents.routes_eq, complete, contents.serversDone, made⟩
  exact Models.models_subperm List.filter_sublist.subperm contents.modelsDone

end Package
end OpenApiClient
