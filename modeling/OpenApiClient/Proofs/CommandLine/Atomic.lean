import OpenApiClient.Proofs.FileTree.Folders
import OpenApiClient.Proofs.Package.Files

set_option autoImplicit false

namespace OpenApiClient

open FileTree Models

section Contents

variable {settings : PackageSettings} {document : Document} {files : Code.Project}
  {models : List Model} {routes : List Route}

theorem Package.Contents.name_file (contents : Contents settings document files models routes)
    (plain : Path.Plain settings.packageName) {file : Code.File} (member : file ∈ files) :
    ∃ pieces, pieces ≠ [] ∧ (∀ piece ∈ pieces, Path.Plain piece) ∧
      file.name = String.intercalate "/" pieces := by
  have named : file.name ∈ files.map (·.name) := List.mem_map_of_mem member
  rw [contents.names_eq, List.mem_append, List.mem_map, List.mem_singleton] at named
  rcases named with ⟨names, inside, name_eq⟩ | name_eq
  · obtain ⟨filled, below⟩ := below_plain inside
    refine ⟨settings.packageName :: names, List.cons_ne_nil _ _,
      List.forall_mem_cons.mpr ⟨plain, below⟩, ?_⟩
    obtain ⟨first, rest, rfl⟩ := List.exists_cons_of_ne_nil filled
    rw [← name_eq, pathBelow, String.intercalate_cons_cons]
  · refine ⟨["pyproject.toml"], List.cons_ne_nil _ _, by decide, ?_⟩
    rw [name_eq, String.intercalate_singleton]

theorem Package.Contents.prefix_place (contents : Contents settings document files models routes)
    (plain : Path.Plain settings.packageName) (tree : FileTree) (path : String) {file : Code.File}
    (member : file ∈ files) : tree.place path <+: tree.place (Path.join path file.name) := by
  obtain ⟨pieces, filled, plain, name_eq⟩ := contents.name_file plain member
  rw [name_eq, Path.place_join filled plain]
  exact List.prefix_append _ _

theorem Package.Contents.isAbsolute_file (contents : Contents settings document files models routes)
    (plain : Path.Plain settings.packageName) {file : Code.File} (member : file ∈ files) :
    Path.isAbsolute file.name = false := by
  obtain ⟨pieces, filled, plain, name_eq⟩ := contents.name_file plain member
  exact name_eq ▸ Path.isAbsolute_of_plain filled plain

theorem Package.Contents.ne_nil (contents : Contents settings document files models routes) :
    files ≠ [] := by
  rintro rfl
  have names := contents.names_eq
  simp at names

end Contents

namespace CommandLine

def packageSettings (settings : Settings) (name : String) : PackageSettings :=
  { packageName := name
    extraModules :=
      match settings.models with
      | .array items => items.map shownText
      | _ => []
    manifest := settings.manifestOptions }

/-- The end of a run that is reported as a failure or breaks off. -/
inductive Ending.Unfinished : Ending → Prop
  | failed : Unfinished (.exit 1)
  | crashed (crash : Crash) : Unfinished (.crash crash)

/-- There is something already where the package would go. -/
def Target.IsTaken (target : Target) : Prop :=
  (∃ path, target = .present path) ∨ target = .stream

/-- A path under which nothing is found leads to a place that is free. Two points in a path can
break this: as long as `new` is missing, nothing is found under `new/../old`. -/
def Answers (tree : FileTree) (path : String) : Prop :=
  tree.has path = false →
    tree.place path ≠ [] ∧ tree.stored.contains (tree.place path) = false

/-- The files of a package stand at the place of its folder, and nothing else does. What is outside
is still there, and new there are at most folders on the way. -/
structure Delivered (tree after : FileTree) (folder : String) (files : Code.Project) : Prop where
  home : after.home.folder = tree.home.folder
  written : ∀ file ∈ files, tree.place folder <+: tree.place (Path.join folder file.name) ∧
    after.Holds (Path.join folder file.name) file.render
  kept : ∀ place stored, ¬ tree.place folder <+: place →
    tree.stored.get? place = some stored → after.stored.get? place = some stored
  added : ∀ place stored, after.stored.get? place = some stored →
    (¬ tree.place folder <+: place ∧ tree.stored.get? place = some stored) ∨
      ∃ file ∈ files, FileOn tree folder file place stored

section Session

-- How folders are made and files are written does not matter to the order of the steps.
attribute [local irreducible] FileTree.makeFolders FileTree.removeFolder writeFiles

variable {world : World} {session after : Session} {settings : Settings} {ending : Ending}

theorem tree_makePackage (session : Session) (settings : Settings) (source : String)
    (spec : Value) : (makePackage session settings source spec).1.tree = session.tree := by
  simp only [makePackage]
  split <;> split <;> rfl

theorem tree_generatePackage (world : World) (session : Session) (settings : Settings) :
    (generatePackage world session settings).1.tree = session.tree := by
  simp only [generatePackage]
  split
  next source _ =>
    split
    next spec _ => exact tree_makePackage _ settings source spec
    all_goals rfl
  next => rfl

theorem makePackage_unfinished {source : String} {spec : Value}
    (stopped : (makePackage session settings source spec).2 = .error ending) :
    ending.Unfinished := by
  simp only [makePackage] at stopped
  split at stopped <;> split at stopped <;> cases stopped <;> constructor

theorem generatePackage_unfinished
    (stopped : (generatePackage world session settings).2 = .error ending) :
    ending.Unfinished := by
  simp only [generatePackage] at stopped
  split at stopped
  next =>
    split at stopped
    next => exact makePackage_unfinished stopped
    all_goals
      cases stopped
      constructor
  next =>
    cases stopped
    constructor

theorem makePackage_eq_ok {source : String} {spec : Value} {files : Code.Project}
    (made : (makePackage session settings source spec).2 = .ok files) :
    ∃ name, settings.packageName = .text name ∧
      (Package.generate (packageSettings settings name) spec (some source)).outcome =
        .ok files := by
  simp only [makePackage] at made
  split at made
  next name named =>
    refine ⟨name, named, ?_⟩
    split at made
    next project generated =>
      obtain rfl := Except.ok.inj made
      exact generated
    all_goals cases made
  next => split at made <;> cases made

/-- What a generated package has been generated from. -/
structure Generated (world : World) (tree : FileTree) (settings : Settings)
    (files : Code.Project) (name source : String) (spec : Value) : Prop where
  address : settings.url = .text source
  loaded : Load.ofSource world.fetch tree source = .ok spec
  named : settings.packageName = .text name
  made : (Package.generate (packageSettings settings name) spec (some source)).outcome = .ok files

theorem Generated.contents {tree : FileTree} {files : Code.Project}
    {name source : String} {spec : Value}
    (generated : Generated world tree settings files name source spec) :
    ∃ document models routes,
      Package.Contents (packageSettings settings name) document files models routes := by
  have made := generated.made
  simp only [Package.generate] at made
  split at made
  next => cases made
  next document _ => exact ⟨document, Package.ofDocument_eq_ok_iff.mp made⟩

theorem generatePackage_eq_ok {files : Code.Project}
    (made : (generatePackage world session settings).2 = .ok files) :
    ∃ name source spec, Generated world session.tree settings files name source spec := by
  simp only [generatePackage] at made
  split at made
  next source address =>
    split at made
    next spec loaded =>
      obtain ⟨name, named, generated⟩ := makePackage_eq_ok made
      exact ⟨name, source, spec, address, loaded, named, generated⟩
    all_goals cases made
  next => cases made

theorem generatePackage_of_generated {files : Code.Project} {name source : String} {spec : Value}
    (generated : Generated world session.tree settings files name source spec) :
    (generatePackage world session settings).2 = .ok files := by
  have made := generated.made
  simp only [generatePackage, makePackage, Session.print, generated.address, generated.loaded,
    generated.named]
  split
  next other => exact congrArg Except.ok (Except.ok.inj (other.symm.trans made))
  all_goals next other => cases other.symm.trans made

theorem failAt_unfinished (session : Session) (failure : FileFailure) :
    (session.failAt failure).2.Unfinished := by
  rw [Session.failAt]
  split <;> constructor

theorem makeTarget_unfinished {path : String}
    (stopped : (makeTarget session path).2 = .error ending) : ending.Unfinished := by
  simp only [makeTarget] at stopped
  split at stopped
  next => cases stopped
  next failure _ =>
    obtain rfl := Except.error.inj stopped
    exact failAt_unfinished _ failure

theorem prepareTarget_unfinished {folder : Value} {force : Bool}
    (stopped : (prepareTarget session folder force).2 = .error ending) :
    ending.Unfinished := by
  simp only [prepareTarget] at stopped
  split at stopped
  next => exact makeTarget_unfinished stopped
  next =>
    split at stopped
    next =>
      split at stopped
      next => exact makeTarget_unfinished stopped
      next =>
        cases stopped
        constructor
    next =>
      cases stopped
      constructor
  next =>
    split at stopped <;> cases stopped <;> constructor
  next =>
    cases stopped
    constructor

theorem makeTarget_eq_ok {path reached : String}
    (made : makeTarget session path = (after, .ok reached)) :
    path = reached ∧ after.tree = (session.tree.makeFolders .refuse path).1 := by
  simp only [makeTarget] at made
  split at made
  next =>
    obtain ⟨rfl, reached_eq⟩ := Prod.mk.inj made
    exact ⟨Except.ok.inj reached_eq, rfl⟩
  next => cases (Prod.mk.inj made).2

theorem target_eq_new {tree : FileTree} {folder : Value} {path : String}
    (given : target tree folder = .new path) : folder = .text path ∧ tree.has path = false := by
  unfold target at given
  split at given
  next name =>
    split at given
    next => cases given
    next missing =>
      obtain rfl := Target.new.inj given
      exact ⟨rfl, Bool.not_eq_true _ ▸ missing⟩
  all_goals grind

theorem target_eq_present {tree : FileTree} {folder : Value} {path : String}
    (given : target tree folder = .present path) : folder = .text path := by
  unfold target at given
  split at given
  next name =>
    split at given
    next =>
      obtain rfl := Target.present.inj given
      rfl
    next => cases given
  all_goals grind

theorem prepareTarget_eq_ok {folder : Value} {force : Bool} {path : String}
    (prepared : prepareTarget session folder force = (after, .ok path)) :
    folder = .text path ∧ ∃ cleared, after.tree = (cleared.makeFolders .refuse path).1 ∧
      (session.tree.has path = false ∧ cleared = session.tree ∨
        cleared.IsWithout session.tree (session.tree.place path) ∧
          session.tree.place path ≠ []) := by
  simp only [prepareTarget] at prepared
  split at prepared
  next given =>
    obtain ⟨rfl, made⟩ := makeTarget_eq_ok prepared
    obtain ⟨folder_eq, missing⟩ := target_eq_new given
    exact ⟨folder_eq, session.tree, made, .inl ⟨missing, rfl⟩⟩
  next given =>
    split at prepared
    next =>
      split at prepared
      next removed =>
        obtain ⟨rfl, made⟩ := makeTarget_eq_ok prepared
        exact ⟨target_eq_present given, _, made,
          .inr (removeFolder_done (Prod.ext rfl removed))⟩
      next => cases (Prod.mk.inj prepared).2
    next => cases (Prod.mk.inj prepared).2
  next => split at prepared <;> cases (Prod.mk.inj prepared).2
  next => cases (Prod.mk.inj prepared).2

theorem prepareTarget_taken {folder : Value} (taken : (target session.tree folder).IsTaken) :
    (prepareTarget session folder false).1.tree = session.tree ∧
      (prepareTarget session folder false).2 = .error (.exit 1) := by
  simp only [prepareTarget]
  rcases taken with ⟨path, given⟩ | given <;>
    rw [given] <;>
    exact ⟨rfl, rfl⟩

inductive Course (world : World) (session : Session) (settings : Settings) (force : Bool)
    (outcome : Session × Ending) : Prop
  | stopped (made : Session) (ending : Ending) :
      generatePackage world session settings = (made, .error ending) → outcome = (made, ending) →
        Course world session settings force outcome
  | refused (made ready : Session) (files : Code.Project) (ending : Ending) :
      generatePackage world session settings = (made, .ok files) →
        prepareTarget made settings.folder force = (ready, .error ending) →
          outcome = (ready, ending) → Course world session settings force outcome
  | saved (made ready : Session) (files : Code.Project) (path : String) :
      generatePackage world session settings = (made, .ok files) →
        prepareTarget made settings.folder force = (ready, .ok path) →
          outcome = savePackage world ready path files →
            Course world session settings force outcome

theorem generate_course (world : World) (session : Session) (settings : Settings) (force : Bool) :
    Course world session settings force (generate world session settings force) := by
  simp only [generate]
  split
  next made ending first => exact .stopped made ending first rfl
  next made files first =>
    split
    next ready ending second => exact .refused made ready files ending first second rfl
    next ready path second => exact .saved made ready files path first second rfl

theorem Ending.Unfinished.ne_done (unfinished : ending.Unfinished) : ending ≠ .exit 0 := by
  rintro rfl
  cases unfinished

theorem savePackage_done {path : String} {files : Code.Project}
    (done : (savePackage world session path files).2 = .exit 0) :
    (writeFiles path session.tree files).2 = none ∧
      (savePackage world session path files).1.tree = (writeFiles path session.tree files).1 := by
  rcases written : writeFiles path session.tree files with ⟨tree, failure⟩
  simp only [savePackage, Session.print, written] at done ⊢
  cases failure with
  | some failure => exact absurd done (failAt_unfinished _ failure).ne_done
  | none =>
    simp only at done ⊢
    split at done
    next => cases done
    next home =>
      rw [if_neg home]
      exact ⟨trivial, rfl⟩

theorem generate_done {force : Bool}
    (done : (generate world session settings force).2 = .exit 0) :
    ∃ files name source spec path cleared,
      Generated world session.tree settings files name source spec ∧
        settings.folder = .text path ∧
        (session.tree.has path = false ∧ cleared = session.tree ∨
          cleared.IsWithout session.tree (session.tree.place path) ∧
            session.tree.place path ≠ []) ∧
        (writeFiles path (cleared.makeFolders .refuse path).1 files).2 = none ∧
        (generate world session settings force).1.tree =
          (writeFiles path (cleared.makeFolders .refuse path).1 files).1 := by
  have same := tree_generatePackage world session settings
  cases generate_course world session settings force with
  | stopped made ending first course =>
    rw [course] at done
    have unfinished := generatePackage_unfinished (congrArg Prod.snd first)
    exact absurd done unfinished.ne_done
  | refused made ready files ending first second course =>
    rw [course] at done
    have unfinished := prepareTarget_unfinished (congrArg Prod.snd second)
    exact absurd done unfinished.ne_done
  | saved made ready files path first second course =>
    rw [course] at done ⊢
    obtain ⟨name, source, spec, generated⟩ := generatePackage_eq_ok (congrArg Prod.snd first)
    obtain ⟨folder_eq, cleared, ready_eq, before⟩ := prepareTarget_eq_ok second
    obtain ⟨written, left⟩ := savePackage_done done
    rw [first] at same
    rw [same] at before
    rw [ready_eq] at written left
    exact ⟨files, name, source, spec, path, cleared, generated, folder_eq, before, written, left⟩

theorem generate_taken (session : Session)
    (taken : (target session.tree settings.folder).IsTaken) :
    (generate world session settings false).2.Unfinished ∧
      (generate world session settings false).1.tree = session.tree := by
  have same := tree_generatePackage world session settings
  cases generate_course world session settings false with
  | stopped made ending first course =>
    rw [first] at same
    rw [course]
    exact ⟨generatePackage_unfinished (congrArg Prod.snd first), same⟩
  | refused made ready files ending first second course =>
    rw [first] at same
    rw [course]
    obtain ⟨unchanged, failed⟩ := prepareTarget_taken (same.symm ▸ taken)
    rw [second] at unchanged failed
    rw [Except.error.inj failed]
    exact ⟨.failed, unchanged.trans same⟩
  | saved made ready files path first second course =>
    rw [first] at same
    obtain ⟨_, failed⟩ := prepareTarget_taken (same.symm ▸ taken)
    rw [second] at failed
    cases failed

theorem generate_taken_of_generated (session : Session)
    (taken : (target session.tree settings.folder).IsTaken) (files : Code.Project)
    (name source : String) (spec : Value)
    (generated : Generated world session.tree settings files name source spec) :
    (generate world session settings false).2 = .exit 1 := by
  have same := tree_generatePackage world session settings
  have made := generatePackage_of_generated generated
  rcases first : generatePackage world session settings with ⟨between, result⟩
  rw [first] at same made
  simp only at same made
  obtain ⟨-, failed⟩ := prepareTarget_taken (same.symm ▸ taken)
  rcases second : prepareTarget between settings.folder false with ⟨ready, prepared⟩
  rw [second] at failed
  simp only at failed
  rw [generate, first, made]
  simp only [second, failed]

theorem delivered {tree cleared : FileTree} {files : Code.Project} {name source path : String}
    {spec : Value} (generated : Generated world tree settings files name source spec)
    (plain : Path.Plain name) (without : cleared.IsWithout tree (tree.place path))
    (done : (writeFiles path (cleared.makeFolders .refuse path).1 files).2 = none) :
    Delivered tree (writeFiles path (cleared.makeFolders .refuse path).1 files).1 path files := by
  obtain ⟨document, models, routes, contents⟩ := generated.contents
  have keeps := makeFolders_keeps .refuse cleared path
  have same : cleared.place = tree.place := place_of_home without.folder
  have onSame : FileOn cleared = FileOn tree := fileOn_of_home without.folder
  -- A package has a file, and the way to that file leads through the folders made for the package.
  have onWay : ∀ place stored, cleared.FolderOn path place stored →
      ∃ file ∈ files, FileOn tree path file place stored := by
    rintro place stored ⟨folder, through⟩
    obtain ⟨file, rest, rfl⟩ := List.exists_cons_of_ne_nil contents.ne_nil
    have relative := contents.isAbsolute_file plain List.mem_cons_self
    exact ⟨file, List.mem_cons_self, onSame ▸ .inr ⟨folder, through.join relative⟩⟩
  refine ⟨?home, fun file member => ⟨contents.prefix_place plain tree path member, ?written⟩,
    ?kept, ?added⟩
  case home =>
    exact (congrArg Home.folder ((writeFiles_grows done).home.trans keeps.home)).trans
      without.folder
  case written =>
    exact writeFiles_holds (List.pairwise_map.mp (contents.places_nodup _ path)) done file member
  case kept =>
    intro place stored outside found
    have before : cleared.stored.get? place = some stored := by
      rw [without.stored place, if_neg outside, found]
    refine writeFiles_elsewhere done ?_ (keeps.stored place stored before)
    rintro file member rfl
    rw [keeps.grows.place, same] at outside
    exact outside (contents.prefix_place plain tree path member)
  case added =>
    intro place stored found
    have written := writeFiles_adds done
    rw [fileOn_of_home (congrArg Home.folder keeps.home), onSame] at written
    have added := ((makeFolders_adds .refuse cleared path).mono onWay).trans written
    refine (added place stored found).imp_left fun old => ?_
    rw [without.stored place] at old
    split at old
    next => cases old
    next outside => exact ⟨outside, old⟩

end Session

/-- The settings cannot be read, the description cannot be loaded, or no package can be generated
from it. -/
inductive Fails (world : World) (tree : FileTree) (arguments : Arguments) : Prop
  | reading (failure : Failure) :
      Settings.load tree Settings.fileName none = .error (.failure failure) →
        Fails world tree arguments
  | loading (settings : Settings) (source : String) (failure : Failure) :
      resolve tree arguments = .ok settings → arguments.initConfig = false →
        settings.url = .text source →
          Load.ofSource world.fetch tree source = .error (.failure failure) →
            Fails world tree arguments
  | generating (settings : Settings) (source name : String) (spec : Value) (failure : Failure) :
      resolve tree arguments = .ok settings → arguments.initConfig = false →
        settings.url = .text source → Load.ofSource world.fetch tree source = .ok spec →
          settings.packageName = .text name →
            (Package.generate (packageSettings settings name) spec (some source)).outcome =
                .error (.failure failure) →
              Fails world tree arguments

section Run

variable {world : World} {tree : FileTree} {arguments : Arguments} {settings : Settings}

theorem perform_of_resolve (session : Session)
    (resolved : resolve session.tree arguments = .ok settings)
    (generates : arguments.initConfig = false) :
    perform world session arguments =
      if settings.url.isFilled then generate world session settings arguments.force
      else (session.print noSource, .exit 1) := by
  delta perform
  rw [resolved]
  simp only [generates, Bool.false_eq_true, if_false, Bool.not_eq_true']
  cases settings.url.isFilled <;> rfl

theorem generate_of_stopped {session : Session} {ending : Ending} (force : Bool)
    (stopped : (generatePackage world session settings).2 = .error ending) :
    (generate world session settings force).2 = ending ∧
      (generate world session settings force).1.tree = session.tree := by
  have same := tree_generatePackage world session settings
  rcases first : generatePackage world session settings with ⟨made, result⟩
  rw [first] at stopped same
  simp only at stopped
  subst stopped
  rw [generate, first]
  exact ⟨rfl, same⟩

theorem generatePackage_loading {session : Session} {source : String} {failure : Failure}
    (address : settings.url = .text source)
    (failed : Load.ofSource world.fetch session.tree source = .error (.failure failure)) :
    (generatePackage world session settings).2 = .error (.exit 1) := by
  simp only [generatePackage, Session.print, address, failed]

theorem makePackage_generating {session : Session} {source name : String} {spec : Value}
    {failure : Failure} (named : settings.packageName = .text name)
    (failed : (Package.generate (packageSettings settings name) spec (some source)).outcome =
      .error (.failure failure)) :
    (makePackage session settings source spec).2 = .error (.exit 1) := by
  simp only [makePackage, named]
  split
  next project made => cases made.symm.trans failed
  next => rfl
  next made => cases made.symm.trans failed
  next made => cases made.symm.trans failed

theorem generatePackage_generating {session : Session} {source name : String} {spec : Value}
    {failure : Failure} (address : settings.url = .text source)
    (loaded : Load.ofSource world.fetch session.tree source = .ok spec)
    (named : settings.packageName = .text name)
    (failed : (Package.generate (packageSettings settings name) spec (some source)).outcome =
      .error (.failure failure)) :
    (generatePackage world session settings).2 = .error (.exit 1) := by
  simp only [generatePackage, Session.print, address, loaded]
  exact makePackage_generating named failed

theorem perform_fails (session : Session) (fails : Fails world session.tree arguments) :
    (perform world session arguments).2 = .exit 1 ∧
      (perform world session arguments).1.tree = session.tree := by
  have stops (settings : Settings) (resolved : resolve session.tree arguments = .ok settings)
      (generates : arguments.initConfig = false)
      (stopped : (generatePackage world session settings).2 = .error (.exit 1)) :
      (perform world session arguments).2 = .exit 1 ∧
        (perform world session arguments).1.tree = session.tree := by
    rw [perform_of_resolve session resolved generates]
    split
    next => exact generate_of_stopped arguments.force stopped
    next => exact ⟨rfl, rfl⟩
  cases fails with
  | reading failure failed =>
    delta perform resolve
    rw [failed]
    exact ⟨rfl, rfl⟩
  | loading settings source failure resolved generates address failed =>
    exact stops settings resolved generates (generatePackage_loading address failed)
  | generating settings source name spec failure resolved generates address loaded named failed =>
    exact stops settings resolved generates
      (generatePackage_generating address loaded named failed)

/-- A run that cannot read its settings, load the description or generate a package fails and
changes nothing, and neither does one that finds something where the package would go and is not
forced. One that ends well leaves the files of the package there, alone, and everything outside as
it was. -/
theorem run_atomic (world : World) (tree : FileTree) {words : List String}
    (given : parse words = .arguments arguments) :
    (Fails world tree arguments →
      (run world tree words).ending = .exit 1 ∧ (run world tree words).session.tree = tree) ∧
    ∀ settings, resolve tree arguments = .ok settings → arguments.initConfig = false →
      (arguments.force = false → (target tree settings.folder).IsTaken →
        (run world tree words).ending.Unfinished ∧ (run world tree words).session.tree = tree ∧
          (settings.url.isFilled = false ∨
              (∃ files name source spec, Generated world tree settings files name source spec) →
            (run world tree words).ending = .exit 1)) ∧
      ∀ path name, settings.folder = .text path → settings.packageName = .text name →
        Path.Plain name → tree.WellFormed → Answers tree path →
          (run world tree words).ending = .exit 0 →
            ∃ files source spec, Generated world tree settings files name source spec ∧
              Delivered tree (run world tree words).session.tree path files := by
  have performed : run world tree words =
      ⟨(perform world ⟨tree, "", []⟩ arguments).1, (perform world ⟨tree, "", []⟩ arguments).2,
        arguments.verbose, false⟩ := by
    rw [run, given]
  rw [performed]
  refine ⟨perform_fails ⟨tree, "", []⟩, fun settings resolved generates => ?_⟩
  rw [perform_of_resolve ⟨tree, "", []⟩ resolved generates]
  refine ⟨fun careful taken => ?taken, fun path name folder named plain wellFormed answers => ?done⟩
  case taken =>
    rw [careful]
    by_cases filled : settings.url.isFilled = true
    · rw [if_pos filled]
      obtain ⟨unfinished, unchanged⟩ := generate_taken ⟨tree, "", []⟩ taken
      refine ⟨unfinished, unchanged, ?_⟩
      rintro (empty | ⟨files, name, source, spec, generated⟩)
      · cases filled.symm.trans empty
      · exact generate_taken_of_generated ⟨tree, "", []⟩ taken files name source spec generated
    · -- Without an address there is nothing to generate, whatever lies at the target.
      rw [if_neg filled]
      exact ⟨.failed, rfl, fun _ => rfl⟩
  case done =>
    split
    next =>
      intro done
      obtain ⟨files, name', source, spec, path', cleared, generated, folder_eq, before, written,
        left⟩ := generate_done done
      obtain rfl : path = path' := by simpa using folder.symm.trans folder_eq
      obtain rfl : name = name' := by simpa using named.symm.trans generated.named
      refine ⟨files, source, spec, generated, left ▸ delivered generated plain ?_ written⟩
      -- Either nothing was at the target, or what was there has been removed.
      rcases before with ⟨missing, rfl⟩ | ⟨removed, _⟩
      · obtain ⟨filled, free⟩ := answers missing
        exact wellFormed.isWithout filled free
      · exact removed
    next =>
      intro done
      cases done

end Run

def offline : World := ⟨"/work", fun _ => .unreached ""⟩

def usedTree : FileTree :=
  ⟨[(["work"], .folder), (["work", "spec.json"], .file (.text "{}")), (["work", "out"], .folder),
    (["work", "out", "old.txt"], .file (.text "old"))], ⟨["work"], 0⟩⟩

def forcedArguments : Arguments :=
  { Arguments.empty with
    file := some "/work/spec.json", output := some "../work/out", force := true }

def usedSettings : Settings :=
  { Settings.unset with
    url := .text "/work/spec.json", folder := .text "../work/out", packageName := .text "out" }

theorem run_atomic_forced :
    ∃ files, Delivered usedTree
      (run offline usedTree ["/work/spec.json", "-o", "../work/out", "--force"]).session.tree
      "../work/out" files := by
  have given : parse ["/work/spec.json", "-o", "../work/out", "--force"] =
    .arguments forcedArguments := rfl
  have resolved : resolve usedTree forcedArguments = .ok usedSettings := rfl
  have ended : (run offline usedTree
      ["/work/spec.json", "-o", "../work/out", "--force"]).ending = .exit 0 := by decide +kernel
  have answers : Answers usedTree "../work/out" := by
    unfold Answers
    decide +kernel
  obtain ⟨_, runs⟩ := run_atomic offline usedTree given
  obtain ⟨_, delivers⟩ := runs usedSettings resolved rfl
  obtain ⟨files, _, _, _, delivered⟩ := delivers "../work/out" "out" rfl rfl (by decide)
    (wellFormed_of_keys (by decide)) answers ended
  exact ⟨files, delivered⟩

/-- Two runs without force that end well although the folder is there. One only writes the settings.
The other is led to the folder past one that is not there. -/
theorem run_not_atomic :
    usedTree.isFolderAt (usedTree.place "out") = true ∧
      (run offline usedTree ["-o", "out", "--init-config"]).ending = .exit 0 ∧
      (run offline usedTree ["-o", "out", "--init-config"]).session.tree.isFile "openapi.toml" =
        true ∧
      usedTree.place "new/../out/." = usedTree.place "out" ∧
      (run offline usedTree ["spec.json", "-o", "new/../out/."]).ending = .exit 0 := by
  refine ⟨?_, ?_, ?_, ?_, ?_⟩ <;> decide +kernel

end CommandLine
end OpenApiClient
