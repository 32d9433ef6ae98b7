import OpenApiClient.Proofs.FileTree.Writing
import OpenApiClient.Proofs.Package.FileNames

set_option autoImplicit false

namespace OpenApiClient

open Models

theorem Path.plain_of_long {name : String} (noSlash : '/' ∉ name.toList) (long : 2 < name.length) :
    Plain name where
  noSlash := noSlash
  new := by
    simp only [Path.isStep, Bool.or_eq_false_iff, decide_eq_false_iff_not]
    refine ⟨⟨?_, ?_⟩, ?_⟩ <;>
      rintro rfl <;>
      exact absurd long (by decide)

theorem Models.plain_stem (name : String) : Path.Plain ((modelName name).stem ++ ".py") := by
  refine Path.plain_of_long ?_ ?_
  · rw [stem_modelName, String.toList_append, List.mem_append, not_or]
    refine ⟨fun inside => ?_, by decide⟩
    exact absurd (Name.snakeOr_folded (by decide) name '/' inside) (by decide)
  · have ending : ".py".length = 3 := by decide
    rw [String.length_append, ending]
    omega

namespace Package

def besideRecords : List (List String) :=
  [["routes.py"], ["primitives.py"], ["clients.py"], ["builder.py"], ["__init__.py"]]

def below (schemas : List (String × Schema)) : List (List String) :=
  (schemas.map (fun entry => (modelName entry.1).stem) ++ ["__init__"]).map
    (fun stem => ["models", stem ++ ".py"]) ++ besideRecords

def pathBelow (folder : String) (names : List String) : String :=
  folder ++ "/" ++ String.intercalate "/" names

section Below

variable {schemas : List (String × Schema)} {names : List String}

theorem mem_below (member : names ∈ below schemas) :
    (∃ stem, Path.Plain (stem ++ ".py") ∧ names = ["models", stem ++ ".py"]) ∨
      names ∈ besideRecords := by
  refine (List.mem_append.mp member).imp_left fun record => ?_
  obtain ⟨stem, inside, rfl⟩ := List.mem_map.mp record
  refine ⟨stem, ?_, rfl⟩
  rcases List.mem_append.mp inside with named | index
  · obtain ⟨entry, _, rfl⟩ := List.mem_map.mp named
    exact plain_stem entry.1
  · rw [List.mem_singleton.mp index]
    decide

theorem below_plain (member : names ∈ below schemas) :
    names ≠ [] ∧ ∀ name ∈ names, Path.Plain name := by
  rcases mem_below member with ⟨stem, plain, rfl⟩ | fixed
  · have folder : Path.Plain "models" := by decide
    exact ⟨List.cons_ne_nil _ _,
      List.forall_mem_cons.mpr ⟨folder, List.forall_mem_singleton.mpr plain⟩⟩
  · have plain : ∀ names ∈ besideRecords, names ≠ [] ∧ ∀ name ∈ names, Path.Plain name := by decide
    exact plain names fixed

theorem below_code (member : names ∈ below schemas) :
    names.getLast? ≠ some "pyproject.toml" := by
  rcases mem_below member with ⟨stem, _, rfl⟩ | fixed
  · intro same
    have last := congrArg (fun name => (String.toList name).getLast?) (Option.some.inj same)
    simp [List.getLast?_append] at last
  · have code : ∀ names ∈ besideRecords, names.getLast? ≠ some "pyproject.toml" := by decide
    exact code names fixed

theorem below_nodup {folder : String} (done : (models folder schemas).failure = none) :
    (below schemas).Nodup := by
  refine List.nodup_append.mpr ⟨(stems_nodup done).map ?_, by decide, ?_⟩
  · intro stem other same
    simpa [String.append_left_inj] using same
  · intro record inside fixed beside same
    obtain ⟨stem, _, rfl⟩ := List.mem_map.mp inside
    have single : ∀ names ∈ besideRecords, names.length = 1 := by decide
    have size := single fixed beside
    rw [← same] at size
    cases size

end Below

section Contents

variable {settings : PackageSettings} {document : Document} {files : Code.Project}
  {models : List Model} {routes : List Route}

theorem recordPath_eq (folder stem : String) :
    recordPath folder stem = pathBelow folder ["models", stem ++ ".py"] := by
  have slash : "/models/" = "/" ++ "models" ++ "/" := by decide
  simp only [recordPath, pathBelow, String.intercalate_cons_cons, String.intercalate_singleton,
    slash, String.append_assoc]

theorem pathBelow_singleton (folder name : String) :
    pathBelow folder [name] = folder ++ ("/" ++ name) := by
  rw [pathBelow, String.intercalate_singleton, String.append_assoc]

theorem Contents.names_eq (contents : Contents settings document files models routes) :
    files.map (·.name) =
      (below document.components.schemas).map (pathBelow settings.packageName) ++
        ["pyproject.toml"] := by
  obtain ⟨text, rfl⟩ := withManifest_eq_ok contents.finished
  obtain rfl := contents.models_eq
  have generated := Models.files_of_done settings.extraModules contents.modelsDone
  have records := Models.names_files settings.extraModules contents.modelsDone
  have recordPaths : recordPath settings.packageName =
      pathBelow settings.packageName ∘ fun stem => ["models", stem ++ ".py"] :=
    funext (recordPath_eq settings.packageName)
  rw [recordPaths, ← List.map_map] at records
  rw [filesBefore, ← generated, (Servers.generate_of_done contents.serversDone).2, below,
    besideRecords]
  simp only [List.map_append, records, List.map_cons, List.map_nil, pathBelow_singleton,
    Servers.name_clientsFile, Routes.name_file, List.append_assoc]
  rfl

theorem Contents.places_nodup (contents : Contents settings document files models routes)
    (tree : FileTree) (target : String) :
    (files.map fun file => tree.place (Path.join target file.name)).Nodup := by
  obtain ⟨base, joined⟩ := Path.join_below target settings.packageName
  have projectFile := Path.place_join (List.cons_ne_nil "pyproject.toml" []) (by decide) tree target
  rw [String.intercalate_singleton] at projectFile
  have places : (files.map fun file => tree.place (Path.join target file.name)) =
      (below document.components.schemas).map (tree.place (base ++ "/") ++ ·) ++
        [tree.place target ++ ["pyproject.toml"]] := by
    have paths := congrArg (List.map fun name => tree.place (Path.join target name))
      contents.names_eq
    rw [List.map_map, List.map_append, List.map_map, List.map_singleton, projectFile] at paths
    refine paths.trans (congrArg (· ++ _) (List.map_congr_left fun names member => ?_))
    obtain ⟨filled, plain⟩ := below_plain member
    rw [Function.comp_apply, pathBelow, joined, Path.place_below filled plain]
  rw [places]
  -- The manifest stands beside the folder of the code, in which no file has its name.
  refine List.concat_eq_append ▸
    ((below_nodup contents.modelsDone).map (List.append_right_injective _)).concat ?_
  intro taken
  obtain ⟨names, member, same⟩ := List.mem_map.mp taken
  have last := congrArg List.getLast? same
  rw [List.getLast?_append_of_ne_nil _ (below_plain member).1, List.getLast?_concat] at last
  exact below_code member last

theorem Contents.classNames_eq (contents : Contents settings document files models routes) :
    files.flatMap (·.classes.keys) =
      document.components.schemas.map fun entry => (modelName entry.1).className := by
  obtain ⟨text, rfl⟩ := withManifest_eq_ok contents.finished
  obtain rfl := contents.models_eq
  have records : ((Models.models settings.packageName document.components.schemas).items.map
      Model.file).flatMap (·.classes.keys) =
        document.components.schemas.map fun entry => (modelName entry.1).className := by
    rw [Models.models, items_modelsFrom contents.modelsDone, List.map_map, List.flatMap_map]
    exact List.flatMap_pure_eq_map _ _
  have routesFile (count : Nat) :
      (Routes.file settings.packageName count routes).classes.keys = [] := by
    rw [Routes.file, Code.File.foldl_addFunction]
    rfl
  have clientsFile (count : Nat) (clients : List Servers.ServerClient) :
      (Servers.clientsFile settings.packageName count clients).classes.keys = [] := by
    rw [Servers.clientsFile, Code.File.foldl_addFunction]
    rfl
  rw [filesBefore, (Servers.generate_of_done contents.serversDone).2]
  have none : Entries.keys ([] : Entries String Code.Class) = [] := rfl
  simp only [List.flatMap_append, records, List.flatMap_cons, List.flatMap_nil, routesFile,
    clientsFile, indexFile, Servers.primitivesFile, Servers.builderFile, Servers.indexFile,
    Code.File.addBlock, Code.File.named, none, List.append_nil]

end Contents

/-- The files of a package have different names, a record for each schema in order and then the
fixed files; all of them hold their texts when they are written; and a schema is turned away for its
name exactly when one before it has its class. -/
theorem ofDocument_files :
    (∀ settings document files, (ofDocument settings document).outcome = .ok files →
      files.map (·.name) =
          (document.components.schemas.map fun entry =>
            recordPath settings.packageName (modelName entry.1).stem) ++
          ["/models/__init__.py", "/routes.py", "/primitives.py", "/clients.py", "/builder.py",
            "/__init__.py"].map (settings.packageName ++ ·) ++
          ["pyproject.toml"] ∧
        (files.map (·.name)).Nodup ∧
        files.flatMap (·.classes.keys) =
          (document.components.schemas.map fun entry => (modelName entry.1).className) ∧
        (files.flatMap (·.classes.keys)).Nodup ∧
        ∀ target tree, (CommandLine.writeFiles target tree files).2 = none →
          ∀ file ∈ files, (CommandLine.writeFiles target tree files).1.Holds
            (Path.join target file.name) file.render) ∧
    (∀ folder earlier entry rest, (models folder earlier).failure = none →
      ((models folder (earlier ++ entry :: rest)).items = (models folder earlier).items ∧
          (models folder (earlier ++ entry :: rest)).failure = some (taken entry.1) ↔
        ∃ other ∈ earlier, (modelName other.1).className = (modelName entry.1).className)) ∧
    ∀ name other, (modelName name).stem = (modelName other).stem →
      (modelName name).className = (modelName other).className := by
  refine ⟨fun settings document files made => ?_, fun _ _ entry rest done =>
    models_taken_iff done entry rest, fun _ _ => className_of_stem⟩
  obtain ⟨models, routes, contents⟩ := ofDocument_eq_ok_iff.mp made
  refine ⟨?names, ?distinct, contents.classNames_eq, ?classes, ?written⟩
  case names =>
    rw [contents.names_eq, below, besideRecords]
    simp only [List.map_append, List.map_map, List.map_cons, List.map_nil, pathBelow_singleton,
      ← recordPath_eq, Function.comp_def, List.append_assoc]
    rfl
  case distinct =>
    -- Two files under one name would have one place.
    have places : ((files.map (·.name)).map fun name =>
        FileTree.empty.place (Path.join "" name)).Nodup := by
      rw [List.map_map]
      exact contents.places_nodup .empty ""
    exact places.of_map _
  case classes =>
    rw [contents.classNames_eq]
    exact classNames_nodup contents.modelsDone
  case written =>
    intro target tree done
    have apart := List.pairwise_map.mp (contents.places_nodup tree target)
    exact CommandLine.writeFiles_holds apart done

def numberedRegistry : List (String × Schema) :=
  [("a_1", ⟨none, some (.one .object), none, none, none, [], none, none, none⟩)]

def numberedDocument : Document :=
  { version := Document.standardVersion
    info := .standard
    servers := []
    paths := []
    components := { Components.empty with schemas := numberedRegistry } }

theorem ofDocument_files_numbered :
    (∃ files, (ofDocument ⟨"shop", [], []⟩ numberedDocument).outcome = .ok files ∧
      (files.map (·.name)).Nodup ∧ files.flatMap (·.classes.keys) = ["A1"] ∧
      (CommandLine.writeFiles "out" .empty files).2 = none ∧
      ∀ file ∈ files, (CommandLine.writeFiles "out" .empty files).1.Holds
        (Path.join "out" file.name) file.render) ∧
    ((models "shop" numberedRegistry).failure = none ∧
      (modelName "a_1").stem ≠ (modelName "a1").stem ∧
      ∀ schema, (models "shop" (numberedRegistry ++ [("a1", schema)])).failure =
        some (taken "a1")) ∧
    (modelName "A1").stem = (modelName "a1").stem ∧
      (modelName "A1").className = (modelName "a1").className := by
  obtain ⟨packages, names, stems⟩ := ofDocument_files
  refine ⟨?_, ?_, ?_⟩
  · have computed : (ofDocument ⟨"shop", [], []⟩ numberedDocument).outcome.toOption.map
        (fun files => (CommandLine.writeFiles "out" .empty files).2.isNone) = some true := by
      decide +kernel
    obtain ⟨files, made, written⟩ := exists_of_toOption computed
    have done := Option.isNone_iff_eq_none.mp written
    obtain ⟨_, distinct, classes, _, holds⟩ := packages _ _ files made
    refine ⟨files, made, distinct, classes.trans ?_, done, holds "out" .empty done⟩
    decide +kernel
  · have done : (models "shop" numberedRegistry).failure = none := by
      have complete : (models "shop" numberedRegistry).failure.isNone = true := by decide +kernel
      exact Option.isNone_iff_eq_none.mp complete
    have same : (modelName "a_1").className = (modelName "a1").className := by decide +kernel
    refine ⟨done, by decide +kernel, fun schema => ?_⟩
    exact ((names "shop" numberedRegistry ("a1", schema) [] done).mpr
      ⟨_, List.mem_singleton_self _, same⟩).2
  · have same : (modelName "A1").stem = (modelName "a1").stem := by decide +kernel
    exact ⟨same, stems _ _ same⟩

end Package
end OpenApiClient
