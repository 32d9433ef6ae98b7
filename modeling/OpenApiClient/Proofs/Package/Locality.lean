import Mathlib.Data.List.Flatten
import OpenApiClient.Proofs.Package.FileNames

set_option autoImplicit false

namespace OpenApiClient

structure PathItem.Thinned (item fewer : PathItem) : Prop where
  parameters : fewer.parameters = item.parameters
  operations : ∀ method operation, fewer.operation? method = some operation →
    item.operation? method = some operation

/-- Paths in any order, of which some are gone and others have lost operations. -/
def Reduced (paths fewer : List (String × PathItem)) : Prop :=
  ∃ chosen, chosen.Subperm paths ∧
    List.Forall₂ (fun entry other => other.1 = entry.1 ∧ entry.2.Thinned other.2) chosen fewer

theorem filterMap_sublist {α β : Type} {f g : α → Option β}
    (keeps : ∀ x y, f x = some y → g x = some y) (xs : List α) :
    (xs.filterMap f).Sublist (xs.filterMap g) := by
  induction xs with
  | nil => exact .slnil
  | cons x rest ih =>
    cases kept : f x with
    | none =>
      rw [List.filterMap_cons_none kept]
      exact ih.trans ((List.sublist_cons_self x rest).filterMap g)
    | some y =>
      rw [List.filterMap_cons_some kept, List.filterMap_cons_some (keeps x y kept)]
      exact ih.cons_cons y

namespace Route.Call

/-- All of an operation that its function is made from. -/
def view (call : Call) : String × List (Handle Parameter) × String × Operation :=
  (call.path, call.item.parameters, call.method, call.operation)

variable {call other : Call}

theorem functionNames_of_view (calls : List Call) :
    calls.map functionName =
      (calls.map view).map fun seen => Name.function (seen.2.2.2.operationId.getD "") := by
  rw [List.map_map]
  refine List.map_congr_left fun call _ => ?_
  rw [functionName, operationId, Function.comp_apply, view]

theorem functionName_of_view (same : call.view = other.view) :
    call.functionName = other.functionName := by
  have operation : call.operation = other.operation := congrArg (fun seen => seen.2.2.2) same
  rw [functionName, functionName, operationId, operationId, operation]

theorem alone_of_view (components : Components) (same : call.view = other.view) :
    call.alone components = other.alone components := by
  obtain ⟨path, item, method, operation⟩ := call
  obtain ⟨path, otherItem, method, operation⟩ := other
  simp only [view, Prod.mk.injEq] at same
  obtain ⟨rfl, parameters, rfl, rfl⟩ := same
  simp only [alone, result, generate, ofOperation, collectParameters, parameters]

end Route.Call

section Reduced

open Route

theorem PathItem.Thinned.views {item fewer : PathItem} (thinned : item.Thinned fewer)
    (path : String) :
    ((fewer.calls path).map Call.view).Sublist ((item.calls path).map Call.view) := by
  rw [PathItem.calls_eq, PathItem.calls_eq, List.map_filterMap, List.map_filterMap]
  refine filterMap_sublist (fun method seen kept => ?_) _
  simp only [Option.map_map, Option.map_eq_some_iff] at kept ⊢
  obtain ⟨operation, present, rfl⟩ := kept
  refine ⟨operation, thinned.operations method operation present, ?_⟩
  simp only [Function.comp_apply, Call.view, thinned.parameters]

theorem Reduced.views {paths fewer : List (String × PathItem)} (reduced : Reduced paths fewer) :
    (fewer.flatMap fun entry => (entry.2.calls entry.1).map Call.view).Subperm
      (paths.flatMap fun entry => (entry.2.calls entry.1).map Call.view) := by
  obtain ⟨chosen, ⟨listed, perm, sublist⟩, thinned⟩ := reduced
  have kept : (fewer.flatMap fun entry => (entry.2.calls entry.1).map Call.view).Sublist
      (chosen.flatMap fun entry => (entry.2.calls entry.1).map Call.view) := by
    clear perm sublist
    induction thinned with
    | nil => exact .slnil
    | cons here _ ih =>
      rw [List.flatMap_cons, List.flatMap_cons]
      exact List.Sublist.append (here.1 ▸ here.2.views _) ih
  have moved := (sublist.flatMap fun entry => (entry.2.calls entry.1).map Call.view).subperm
  exact kept.subperm.trans ((perm.flatMap_right _).symm.subperm.trans moved)

theorem Reduced.calls {document fewer : Document} (reduced : Reduced document.paths fewer.paths) :
    (fewer.calls.map Call.view).Subperm (document.calls.map Call.view) := by
  rw [Document.calls, Document.calls, List.map_flatMap, List.map_flatMap]
  exact reduced.views

theorem Reduced.functionNames {document fewer : Document}
    (reduced : Reduced document.paths fewer.paths)
    (distinct : (document.calls.map Call.functionName).Nodup) :
    (fewer.calls.map Call.functionName).Nodup := by
  rw [Call.functionNames_of_view] at distinct ⊢
  exact List.pairwise_map.mpr
    (pairwise_of_subperm Ne.symm reduced.calls (List.pairwise_map.mp distinct))

theorem Reduced.call {document fewer : Document} (reduced : Reduced document.paths fewer.paths)
    {call : Call} (member : call ∈ fewer.calls) :
    ∃ origin ∈ document.calls, origin.view = call.view := by
  obtain ⟨origin, inside, same⟩ :=
    List.mem_map.mp (reduced.calls.subset (List.mem_map_of_mem member))
  exact ⟨origin, inside, same⟩

end Reduced

namespace Routes

open Route

theorem routes_reduced {document fewer : Document}
    (components : fewer.components = document.components)
    (reduced : Reduced document.paths fewer.paths) (done : (routes document).failure = none) :
    (routes fewer).failure = none := by
  obtain ⟨functions, distinct⟩ := calls_given done
  have gives := routesFrom_gives fewer.components .empty fewer.operations
  rw [← fewer.calls_eq] at gives
  refine gives.complete .empty (fun call member => ?_) ?_
  · obtain ⟨origin, inside, same⟩ := reduced.call member
    obtain ⟨route, _, made⟩ := exists_of_forall₂ functions inside
    exact ⟨route, by rw [components, ← Call.alone_of_view _ same, made]⟩
  · simpa [Registered.empty, Entries.keys] using reduced.functionNames distinct

theorem function_of_call {document : Document} (done : (routes document).failure = none)
    (folder : String) {call : Call} (member : call ∈ document.calls) :
    ∃ route function, call.alone document.components = .ok route ∧
      Entries.get? (generate folder document).file.functions call.functionName = some function ∧
      function.render = (route.toFunction 0).render := by
  obtain ⟨route, inside, made⟩ := exists_of_forall₂ (calls_given done).1 member
  obtain ⟨place, written⟩ := Code.Function.mem_numberedDown inside document.operations.length
  have found := Code.File.get?_functions (functions_file folder document.operations.length document)
    (names_functionsFrom _ _ ▸ names_nodup document) written
  refine ⟨route, route.toFunction place, made, ?_, rfl⟩
  rw [← Call.name_of_alone made]
  exact found

end Routes

namespace Package

open Route Models

/-- A document that loses operations or whose paths are moved is generated again, each operation
that is left with its text; and so is a registry that loses schemas or whose schemas are moved, each
record that is left with its file. -/
theorem generation_local (folder : String) (extraModules : List String) :
    (∀ document fewer names, fewer.components = document.components →
      Reduced document.paths fewer.paths → (Routes.generate folder document).outcome = .ok names →
      (∃ left, (Routes.generate folder fewer).outcome = .ok left) ∧
        ∀ call ∈ fewer.calls, ∃ origin ∈ document.calls, origin.view = call.view ∧
          ∃ function same,
            Entries.get? (Routes.generate folder document).file.functions origin.functionName =
              some function ∧
            Entries.get? (Routes.generate folder fewer).file.functions call.functionName =
              some same ∧
            same.render = function.render) ∧
    (∀ schemas remaining names, remaining.Subperm schemas →
      (Models.generate folder extraModules schemas).outcome = .ok names →
      (∃ left, (Models.generate folder extraModules remaining).outcome = .ok left) ∧
        ∀ entry ∈ remaining, ∃ file,
          Code.Project.file? (Models.generate folder extraModules schemas).files
            (recordPath folder (modelName entry.1).stem) = some file ∧
          Code.Project.file? (Models.generate folder extraModules remaining).files
            (recordPath folder (modelName entry.1).stem) = some file) := by
  constructor
  · intro document fewer names components reduced made
    have done := (Routes.generate_outcome_iff.mp made).1
    have left := Routes.routes_reduced components reduced done
    refine ⟨⟨_, Routes.generate_outcome_iff.mpr ⟨left, rfl⟩⟩, fun call member => ?_⟩
    obtain ⟨origin, inside, same⟩ := reduced.call member
    obtain ⟨route, function, alone, found, text⟩ := Routes.function_of_call done folder inside
    obtain ⟨again, kept, aloneKept, foundKept, textKept⟩ :=
      Routes.function_of_call left folder member
    rw [components, ← Call.alone_of_view _ same, alone] at aloneKept
    obtain rfl := Except.ok.inj aloneKept
    exact ⟨origin, inside, same, function, kept, found, foundKept, textKept.trans text.symm⟩
  · intro schemas remaining names subperm made
    have done := done_of_generate made
    have left : (models folder remaining).failure = none := models_subperm subperm done
    refine ⟨⟨_, by rw [generate_of_done extraModules left]⟩, fun entry member => ?_⟩
    exact ⟨_, file?_record extraModules done (subperm.subset member),
      file?_record extraModules left member⟩

def bareOperation (id : String) : Operation := ⟨some id, none, none, [], false, [], none, []⟩

def listedUsers : PathItem := { PathItem.empty with get := some (bareOperation "listUsers") }

def changedItems : PathItem := { PathItem.empty with patch := some (bareOperation "changeItem") }

def spreadDocument : Document :=
  { version := Document.standardVersion
    info := .standard
    servers := []
    paths :=
      [("/items", { changedItems with get := some (bareOperation "listItems") }),
        ("/users", listedUsers)]
    components := .empty }

def movedDocument : Document :=
  { spreadDocument with paths := [("/users", listedUsers), ("/items", changedItems)] }

theorem movedDocument_reduced : Reduced spreadDocument.paths movedDocument.paths := by
  refine ⟨spreadDocument.paths.reverse, (List.reverse_perm _).subperm,
    .cons ⟨rfl, rfl, fun _ _ => id⟩ (.cons ⟨rfl, rfl, fun method operation present => ?_⟩ .nil)⟩
  cases method with
  | get => cases present
  | _ => exact present

def bareRegistry : List (String × Schema) :=
  let plain : Schema := ⟨none, some (.one .object), none, none, none, [], none, none, none⟩
  [("Item", plain), ("User", plain)]

theorem generation_local_moved :
    (∃ names left function same,
      (Routes.generate "pkg" spreadDocument).outcome = .ok names ∧
      (Routes.generate "pkg" movedDocument).outcome = .ok left ∧
      Entries.get? (Routes.generate "pkg" spreadDocument).file.functions "list_users" =
        some function ∧
      Entries.get? (Routes.generate "pkg" movedDocument).file.functions "list_users" = some same ∧
      same.render = function.render) ∧
    ∃ names left, (Models.generate "pkg" [] bareRegistry).outcome = .ok names ∧
      (Models.generate "pkg" [] bareRegistry.reverse).outcome = .ok left := by
  obtain ⟨operations, records⟩ := generation_local "pkg" []
  constructor
  · have computed : (Routes.generate "pkg" spreadDocument).outcome.toOption.map List.length =
        some 3 := by decide +kernel
    obtain ⟨names, made, _⟩ := exists_of_toOption computed
    obtain ⟨⟨left, again⟩, kept⟩ :=
      operations spreadDocument movedDocument names rfl movedDocument_reduced made
    let call : Call := ⟨"/users", listedUsers, "GET", bareOperation "listUsers"⟩
    have named : call.functionName = "list_users" := by decide +kernel
    obtain ⟨origin, _, same, function, other, found, foundOther, text⟩ :=
      kept call List.mem_cons_self
    rw [named] at foundOther
    rw [Call.functionName_of_view same, named] at found
    exact ⟨names, left, function, other, made, again, found, foundOther, text⟩
  · have computed : (Models.generate "pkg" [] bareRegistry).outcome.toOption.map
        List.length = some 2 := by decide +kernel
    obtain ⟨names, made, _⟩ := exists_of_toOption computed
    obtain ⟨⟨left, again⟩, _⟩ :=
      records bareRegistry bareRegistry.reverse names (List.reverse_perm _).subperm made
    exact ⟨names, left, made, again⟩

end Package
end OpenApiClient
