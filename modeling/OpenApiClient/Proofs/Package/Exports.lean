import OpenApiClient.Code.Edit
import OpenApiClient.Proofs.Code.Bindings
import OpenApiClient.Proofs.Package.ClassNames
import OpenApiClient.Proofs.Package.ServerClients

set_option autoImplicit false

namespace OpenApiClient

open Code

/-- The texts in quotes of a file whose code is a list of exports. -/
def Code.File.exported (file : File) : List String :=
  file.blocks.flatMap fun block => quotedTexts block.code

theorem Code.File.get?_functions {file : File} {functions : List Function}
    (listed : file.functions = functions.map fun function => (function.name, function))
    (distinct : (functions.map (·.name)).Nodup) {function : Function}
    (member : function ∈ functions) :
    Entries.get? file.functions function.name = some function := by
  have keys : file.functions.keys = functions.map (·.name) := by
    rw [listed, Entries.keys, List.map_map]
    rfl
  have entry : (function.name, function) ∈ file.functions := by
    rw [listed]
    exact List.mem_map_of_mem member
  exact Entries.get?_of_mem (keys ▸ distinct) entry

theorem forall₂_imp_of_mem {α β : Type} {R S : α → β → Prop} {first : List α} {second : List β}
    (both : List.Forall₂ R first second) (imp : ∀ a, ∀ b ∈ second, R a b → S a b) :
    List.Forall₂ S first second := by
  induction both with
  | nil => exact .nil
  | cons here _ ih =>
    exact .cons (imp _ _ List.mem_cons_self here)
      (ih fun a b member => imp a b (List.mem_cons_of_mem _ member))

namespace Routes

/-- The function for an operation stands under this name in a file. -/
def Defines (file : File) (entry : String × PathItem × Method × Operation) (name : String) : Prop :=
  ∃ (route : Route) (place : Int),
    Entries.get? file.functions name = some (route.toFunction place) ∧
      route.name = name ∧ name = Name.function (entry.2.2.2.operationId.getD "") ∧
      route.path = entry.1 ∧ route.method = entry.2.2.1.name

theorem file_defines {document : Document} (done : (routes document).failure = none)
    (folder : String) (count : Nat) :
    List.Forall₂ (Defines (file folder count (routes document).items)) document.operations
      ((routes document).items.map (·.name)) := by
  rw [List.forall₂_map_right_iff]
  refine forall₂_imp_of_mem (routes_operations done) fun entry route member made => ?_
  obtain ⟨named, _, parts⟩ := made
  obtain ⟨place, inside⟩ := Function.mem_numberedDown member count
  have found := File.get?_functions (functions_file folder count document)
    (names_functionsFrom count _ ▸ names_nodup document) inside
  exact ⟨route, place, found, rfl, named, parts.path_eq, parts.method_eq⟩

theorem names_free {document : Document} (done : (routes document).failure = none) :
    ∀ name ∈ (routes document).items.map (·.name),
      Name.IsIdentifier name ∧ name ∉ Name.packageExports := by
  intro name member
  rw [names_eq done] at member
  obtain ⟨call, _, rfl⟩ := List.mem_map.mp member
  exact ⟨(Name.function_word _).isIdentifier, Name.function_not_exported _⟩

end Routes

namespace Servers

/-- The function that opens a client for a server stands under this name in a file. -/
def Defines (file : File) (server : Server) (name : String) : Prop :=
  ∃ (client : ServerClient) (place : Int),
    Entries.get? file.functions name = some (client.toFunction place) ∧
      client.name = name ∧ IsClientName server name ∧
      client.url = server.url ∧ client.arguments = server.serverVariables.map argumentOf

theorem clients_nodup (routes : List String) (servers : List Server) :
    ((clients routes servers).items.map ServerClient.name).Nodup :=
  clientsFrom_names List.nodup_nil servers

theorem clients_free (routes : List String) (servers : List Server) :
    ∀ name ∈ (clients routes servers).items.map ServerClient.name,
      Name.IsIdentifier name ∧ name ∉ Name.packageExports ∧ name ∉ routes := by
  intro name member
  obtain ⟨client, inside, rfl⟩ := List.mem_map.mp member
  obtain ⟨_, _, opens⟩ := clientsFrom_opens servers client inside
  exact ⟨opens.named.word.isIdentifier, opens.named.not_exported, opens.noRoute⟩

theorem clientsFile_defines {routes : List String} {servers : List Server}
    (done : (clients routes servers).failure = none) (folder : String) (count : Nat) :
    List.Forall₂ (Defines (clientsFile folder count (clients routes servers).items)) servers
      ((clients routes servers).items.map ServerClient.name) := by
  have distinct := clients_nodup routes servers
  rw [List.forall₂_map_right_iff]
  refine forall₂_imp_of_mem (clientsFrom_servers done) fun server client member made => ?_
  obtain ⟨_, opens⟩ := made
  obtain ⟨place, inside⟩ := Function.mem_numberedDown member count
  have found := File.get?_functions (functions_clientsFile folder count distinct)
    (names_functionsFrom count _ ▸ distinct) inside
  exact ⟨client, place, found, rfl, opens.named, opens.url, opens.arguments⟩

theorem generate_of_done {folder : String} {servers : List Server} {routes : List String}
    (done : (generate folder servers routes).failure = none) :
    (clients routes servers).failure = none ∧
      (generate folder servers routes).files =
        [primitivesFile folder, clientsFile folder servers.length (clients routes servers).items,
          builderFile folder,
          indexFile folder ((clients routes servers).items.map ServerClient.name) routes] := by
  simp only [generate] at done ⊢
  split at done
  next => cases done
  next complete => exact ⟨complete, rfl⟩

section IndexFile

variable {clients routes : List String} (clientWords : ∀ name ∈ clients, Name.IsIdentifier name)
  (routeWords : ∀ name ∈ routes, Name.IsIdentifier name)

include clientWords routeWords

theorem isIdentifier_exports : ∀ name ∈ exports clients routes, Name.IsIdentifier name :=
  List.forall_mem_append.mpr
    ⟨List.forall_mem_append.mpr ⟨by decide +kernel, clientWords⟩, routeWords⟩

theorem exported_indexFile (folder : String) :
    (indexFile folder clients routes).exported = exports clients routes := by
  have blocks : (indexFile folder clients routes).blocks =
      [⟨0, "__all__ = " ++ Json.literalList (exports clients routes)⟩] := rfl
  rw [File.exported, blocks, List.flatMap_singleton]
  exact quotedTexts_literalList (isIdentifier_exports clientWords routeWords) (by decide)

theorem boundNames_indexFile (folder : String) :
    (indexFile folder clients routes).boundNames =
      ["models", "ApiClientBuilder", "ApiClient", "RequestBuilder", "default_config"] ++ clients ++
        routes := by
  have heading : Code.boundNames "# Auto-generated API client" = [] := by decide +kernel
  have models : Code.boundNames "from . import models" = ["models"] := by decide +kernel
  have builder : Code.boundNames "from .builder import ApiClientBuilder" =
      ["ApiClientBuilder"] := by decide +kernel
  have clientLine : Code.boundNames (importLine ".clients"
      (["ApiClient", "RequestBuilder", "default_config"] ++ clients)) =
        ["ApiClient", "RequestBuilder", "default_config"] ++ clients :=
    boundNames_importLine (by decide +kernel)
      (List.forall_mem_append.mpr ⟨by decide +kernel, clientWords⟩)
  have routeLine : (if routes.isEmpty then [] else [importLine ".routes" routes]).flatMap
      Code.boundNames = routes := by
    split
    next none => exact (List.isEmpty_iff.mp none).symm
    next =>
      rw [List.flatMap_singleton]
      exact boundNames_importLine (by decide +kernel) routeWords
  rw [File.boundNames, indexFile, List.flatMap_append, routeLine]
  simp only [List.flatMap_cons, List.flatMap_nil, heading, models, builder, clientLine,
    List.append_nil]
  rfl

end IndexFile

theorem exports_nodup {clients routes : List String} (clientsDistinct : clients.Nodup)
    (routesDistinct : routes.Nodup)
    (clientsFree : ∀ name ∈ clients, name ∉ Name.packageExports ∧ name ∉ routes)
    (routesFree : ∀ name ∈ routes, name ∉ Name.packageExports) :
    (exports clients routes).Nodup := by
  have fixed : ["models", "ApiClient", "ApiClientBuilder", "RequestBuilder", "default_config"] ⊆
      Name.packageExports := by decide
  refine List.nodup_append.mpr
    ⟨List.nodup_append.mpr ⟨by decide, clientsDistinct, ?_⟩, routesDistinct, ?_⟩
  · rintro name isFixed other isClient rfl
    exact (clientsFree name isClient).1 (fixed isFixed)
  · rintro name member other isRoute rfl
    rcases List.mem_append.mp member with isFixed | isClient
    · exact routesFree name isRoute (fixed isFixed)
    · exact (clientsFree name isClient).2 isRoute

end Servers

namespace Package

variable {settings : PackageSettings} {document : Document} {files : Code.Project}
  {models : List Models.Model} {routes : List Route}

def filesBeside (folder : String) (document : Document) (routes : List Route)
    (manifest : File) : Project :=
  let opened := (Servers.clients (routes.map (·.name)) document.servers).items
  [Routes.file folder document.operations.length routes, Servers.primitivesFile folder,
    Servers.clientsFile folder document.servers.length opened, Servers.builderFile folder,
    Servers.indexFile folder (opened.map Servers.ServerClient.name) (routes.map (·.name)), manifest]

theorem Contents.file?_eq (contents : Contents settings document files models routes)
    {name : String} (other : ∀ more, settings.packageName ++ ("/models/" ++ more) ≠ name) :
    ∃ manifest, Project.file? files name =
      Project.file? (filesBeside settings.packageName document routes manifest) name := by
  obtain ⟨text, rfl⟩ := withManifest_eq_ok contents.finished
  refine ⟨(File.named "pyproject.toml").addBlock ⟨0, text⟩, ?_⟩
  -- The records come first, and none of their files has the name.
  have modelFiles : ∀ file ∈ models.map Models.Model.file ++
      [Models.indexFile settings.packageName settings.extraModules
        (models.map Models.Model.name)], file.name ≠ name := by
    refine List.forall_mem_append.mpr ⟨?_, ?_⟩
    · intro file member
      obtain ⟨model, inside, rfl⟩ := List.mem_map.mp member
      rw [← contents.models_eq, Models.models,
        Models.items_modelsFrom contents.modelsDone] at inside
      obtain ⟨entry, _, rfl⟩ := List.mem_map.mp inside
      rw [Models.recordFile, String.append_assoc, String.append_assoc]
      exact other _
    · intro file member
      rw [List.mem_singleton.mp member]
      exact other "__init__.py"
  have none : (models.map Models.Model.file ++
      [Models.indexFile settings.packageName settings.extraModules
        (models.map Models.Model.name)]).find? (fun file => file.name == name) = none := by
    rw [List.find?_eq_none]
    simpa using modelFiles
  rw [filesBefore, (Servers.generate_of_done contents.serversDone).2, Project.file?, Project.file?,
    List.find?_append, List.find?_append, List.find?_append, none, Option.none_or,
    ← List.find?_append, ← List.find?_append]
  rfl

section Beside

variable (folder : String) (document : Document) (routes : List Route) (manifest : File)

theorem file?_routes :
    Project.file? (filesBeside folder document routes manifest) (folder ++ "/routes.py") =
      some (Routes.file folder document.operations.length routes) := by
  simp [Project.file?, filesBeside]

theorem file?_clients :
    Project.file? (filesBeside folder document routes manifest) (folder ++ "/clients.py") =
      some (Servers.clientsFile folder document.servers.length
        (Servers.clients (routes.map (·.name)) document.servers).items) := by
  simp [Project.file?, filesBeside, Servers.primitivesFile, File.addBlock, File.named]

theorem file?_index :
    Project.file? (filesBeside folder document routes manifest) (folder ++ "/__init__.py") =
      some (Servers.indexFile folder
        ((Servers.clients (routes.map (·.name)) document.servers).items.map
          Servers.ServerClient.name) (routes.map (·.name))) := by
  simp [Project.file?, filesBeside, Servers.primitivesFile, Servers.builderFile,
    Servers.indexFile, File.addBlock, File.named]

end Beside

theorem models_ne {folder name : String} (apart : name.toList.take 2 ≠ "/m".toList)
    (more : String) : folder ++ ("/models/" ++ more) ≠ folder ++ name := by
  intro same
  rw [String.append_right_inj] at same
  subst same
  exact apart (by simp [String.toList_append])

/-- What the root module exports it binds, each name once, and every server and every operation has
one of the names, for a function in the module that it is imported from. -/
theorem ofDocument_exports {settings : PackageSettings} {document : Document}
    {files : Code.Project} (made : (ofDocument settings document).outcome = .ok files) :
    ∃ index clients routes,
      Project.file? files (settings.packageName ++ "/__init__.py") = some index ∧
      Project.file? files (settings.packageName ++ "/clients.py") = some clients ∧
      Project.file? files (settings.packageName ++ "/routes.py") = some routes ∧
      index.exported.Nodup ∧ index.boundNames.Perm index.exported ∧
      ∃ clientNames routeNames,
        index.exported =
          ["models", "ApiClient", "ApiClientBuilder", "RequestBuilder", "default_config"] ++
            clientNames ++ routeNames ∧
        List.Forall₂ (Servers.Defines clients) document.servers clientNames ∧
        List.Forall₂ (Routes.Defines routes) document.operations routeNames := by
  obtain ⟨models, routes, contents⟩ := ofDocument_eq_ok_iff.mp made
  obtain rfl := contents.routes_eq
  let names := (Routes.routes document).items.map (·.name)
  let opened := (Servers.clients names document.servers).items
  have serversDone := (Servers.generate_of_done contents.serversDone).1
  have clientsFree := Servers.clients_free names document.servers
  have routesFree := Routes.names_free contents.routesDone
  have clientWords := fun name member => (clientsFree name member).1
  have routeWords := fun name member => (routesFree name member).1
  refine ⟨Servers.indexFile settings.packageName (opened.map Servers.ServerClient.name) names,
    Servers.clientsFile settings.packageName document.servers.length opened,
    Routes.file settings.packageName document.operations.length (Routes.routes document).items,
    ?index, ?clients, ?routes, ?distinct, ?bound, opened.map Servers.ServerClient.name, names,
    ?exported, Servers.clientsFile_defines serversDone _ _,
    Routes.file_defines contents.routesDone _ _⟩
  case index =>
    obtain ⟨manifest, found⟩ :=
      contents.file?_eq (models_ne (by decide : "/__init__.py".toList.take 2 ≠ _))
    rw [found, file?_index]
  case clients =>
    obtain ⟨manifest, found⟩ :=
      contents.file?_eq (models_ne (by decide : "/clients.py".toList.take 2 ≠ _))
    rw [found, file?_clients]
  case routes =>
    obtain ⟨manifest, found⟩ :=
      contents.file?_eq (models_ne (by decide : "/routes.py".toList.take 2 ≠ _))
    rw [found, file?_routes]
  case distinct =>
    rw [Servers.exported_indexFile clientWords routeWords]
    exact Servers.exports_nodup (Servers.clients_nodup _ _) (Routes.names_nodup document)
      (fun name member => (clientsFree name member).2) fun name member => (routesFree name member).2
  case bound =>
    rw [Servers.exported_indexFile clientWords routeWords,
      Servers.boundNames_indexFile clientWords routeWords]
    -- The imports have the builder before the client, the exports the other way round.
    exact ((List.Perm.swap _ _ _).cons _).append_right _ |>.append_right _
  case exported => exact Servers.exported_indexFile clientWords routeWords _

def crowdedDocument : Document :=
  let mainClient : Operation :=
    { operationId := some "mainClient"
      summary := none
      description := none
      tags := []
      deprecated := false
      parameters := []
      requestBody := none
      responses := [] }
  { version := Document.standardVersion
    info := .standard
    servers := [⟨"https://a", some "Main servers", []⟩, ⟨"https://b", some "Main", []⟩]
    paths := [("/main", { PathItem.empty with get := some mainClient })]
    components := .empty }

theorem ofDocument_exports_crowded :
    ∃ files index, (ofDocument ⟨"pkg", [], []⟩ crowdedDocument).outcome = .ok files ∧
      Project.file? files "pkg/__init__.py" = some index ∧
      index.exported =
        ["models", "ApiClient", "ApiClientBuilder", "RequestBuilder", "default_config",
          "main_client_1", "main_client_2", "main_client"] ∧
      index.exported.Nodup ∧ index.boundNames.Perm index.exported := by
  have computed : (ofDocument ⟨"pkg", [], []⟩ crowdedDocument).outcome.toOption.map
      (fun files => (Project.file? files "pkg/__init__.py").map File.exported) =
        some (some ["models", "ApiClient", "ApiClientBuilder", "RequestBuilder", "default_config",
          "main_client_1", "main_client_2", "main_client"]) := by
    decide +kernel
  obtain ⟨files, made, seen⟩ := exists_of_toOption computed
  obtain ⟨index, _, _, found, _, _, distinct, bound, _⟩ := ofDocument_exports made
  have same : Project.file? files "pkg/__init__.py" = some index := found
  rw [same] at seen
  exact ⟨files, index, made, same, Option.some.inj seen, distinct, bound⟩

end Package
end OpenApiClient
