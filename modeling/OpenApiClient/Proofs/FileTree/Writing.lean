import OpenApiClient.CommandLine.Run
import OpenApiClient.Proofs.FileTree.Places

set_option autoImplicit false

namespace OpenApiClient

namespace FileTree

variable {tree next : FileTree}

theorem enter_eq_ok {place reached : Place} {name : String}
    (entered : tree.enter place name = .ok reached) : reached = Path.step place name := by
  rw [enter] at entered
  split at entered
  next => cases entered
  next => cases entered
  next =>
    split at entered
    next => exact (Except.ok.inj entered).symm
    next new =>
      split at entered
      next => cases entered
      next =>
        split at entered
        next =>
          rw [Path.step_of_new (Bool.eq_false_iff.mpr new)]
          exact (Except.ok.inj entered).symm
        next => cases entered

theorem follow_eq_ok {place reached : Place} {names : List String}
    (followed : tree.follow place names = .ok reached) : reached = names.foldl Path.step place := by
  induction names generalizing place with
  | nil => exact (Except.ok.inj followed).symm
  | cons name rest ih =>
    rw [follow] at followed
    split at followed
    next middle entered =>
      rw [List.foldl_cons, ← enter_eq_ok entered]
      exact ih followed
    next => cases followed

theorem follow_concat {place middle : Place} {names : List String}
    (followed : tree.follow place names = .ok middle) (name : String) :
    tree.follow place (names ++ [name]) = tree.enter middle name := by
  induction names generalizing place with
  | nil =>
    obtain rfl := Except.ok.inj followed
    rw [List.nil_append, follow]
    cases tree.enter place name <;> rfl
  | cons first rest ih =>
    rw [follow] at followed
    split at followed
    next reached entered =>
      rw [List.cons_append, follow, entered]
      exact ih followed
    next => cases followed

theorem walk_eq_ok {path : String} {names : List String} {reached : Place}
    (walked : tree.walk path names = .ok reached) :
    reached = names.foldl Path.step (tree.start path) := by
  rw [← Path.foldl_climb]
  exact follow_eq_ok walked

theorem walk_concat {path name : String} {names : List String} {middle : Place}
    (walked : tree.walk path names = .ok middle) (new : Path.isStep name = false) :
    tree.walk path (names ++ [name]) = tree.enter middle name := by
  simp only [walk, Path.climb_concat new]
  exact follow_concat walked name

structure Keeps (tree next : FileTree) : Prop where
  home : next.home = tree.home
  stored : ∀ place stored, tree.stored.get? place = some stored →
    next.stored.get? place = some stored

structure Grows (tree next : FileTree) : Prop where
  home : next.home = tree.home
  present : ∀ place, tree.stored.contains place = true → next.stored.contains place = true
  folders : ∀ place, tree.stored.get? place = some .folder → next.stored.get? place = some .folder

theorem Keeps.refl (tree : FileTree) : tree.Keeps tree := ⟨rfl, fun _ _ => id⟩

theorem Keeps.trans {last : FileTree} (first : tree.Keeps next) (second : next.Keeps last) :
    tree.Keeps last where
  home := second.home.trans first.home
  stored place stored found := second.stored place stored (first.stored place stored found)

theorem Keeps.grows (keeps : tree.Keeps next) : tree.Grows next where
  home := keeps.home
  present := by
    intro place present
    obtain ⟨stored, found⟩ := Option.isSome_iff_exists.mp present
    exact Option.isSome_iff_exists.mpr ⟨stored, keeps.stored place stored found⟩
  folders := fun place found => keeps.stored place .folder found

theorem Grows.trans {last : FileTree} (first : tree.Grows next) (second : next.Grows last) :
    tree.Grows last where
  home := second.home.trans first.home
  present place present := second.present place (first.present place present)
  folders place found := second.folders place (first.folders place found)

theorem Grows.place (grows : tree.Grows next) : next.place = tree.place :=
  place_of_home (congrArg Home.folder grows.home)

theorem Grows.start (grows : tree.Grows next) : next.start = tree.start := by
  funext path
  rw [FileTree.start, FileTree.start, grows.home]

theorem Grows.at? (grows : tree.Grows next) {place : Place}
    (folder : tree.at? place = some .folder) : next.at? place = some .folder := by
  rw [FileTree.at?] at folder ⊢
  split at folder
  next top => exact if_pos top
  next inner => exact (if_neg inner).trans (grows.folders place folder)

theorem folder_of_enter {place reached : Place} {name : String}
    (entered : tree.enter place name = .ok reached) : tree.at? place = some .folder := by
  rw [enter] at entered
  split at entered
  next => cases entered
  next => cases entered
  next folder => exact folder

theorem enter_of_folder {place : Place} (folder : tree.at? place = some .folder) (name : String) :
    tree.enter place name =
      if Path.isStep name then .ok (Path.step place name)
      else if nameLimit < name.utf8ByteSize then .error .nameTooLong
      else if tree.stored.contains (place ++ [name]) then .ok (place ++ [name])
      else .error .missing := by
  rw [enter, folder]

theorem Grows.enter (grows : tree.Grows next) {place reached : Place} {name : String}
    (entered : tree.enter place name = .ok reached) : next.enter place name = .ok reached := by
  have folder := folder_of_enter entered
  rw [enter_of_folder folder] at entered
  rw [enter_of_folder (grows.at? folder)]
  grind [grows.present]

theorem Grows.follow (grows : tree.Grows next) {place reached : Place} {names : List String}
    (followed : tree.follow place names = .ok reached) :
    next.follow place names = .ok reached := by
  induction names generalizing place with
  | nil => exact followed
  | cons name rest ih =>
    rw [FileTree.follow] at followed ⊢
    split at followed
    next middle entered =>
      rw [grows.enter entered]
      exact ih followed
    next => cases followed

theorem Grows.walk (grows : tree.Grows next) {path : String} {names : List String}
    {reached : Place} (walked : tree.walk path names = .ok reached) :
    next.walk path names = .ok reached := by
  rw [FileTree.walk] at walked ⊢
  rw [grows.start]
  exact grows.follow walked

theorem Grows.findsNothing (grows : tree.Grows next) (path : String) :
    next.findsNothing path = tree.findsNothing path := by
  rw [FileTree.findsNothing, FileTree.findsNothing, isLost, isLost, grows.start, grows.home]

theorem Grows.locate (grows : tree.Grows next) {path : String} {reached : Place}
    (found : tree.locate path = .ok reached) : next.locate path = .ok reached := by
  rw [FileTree.locate] at found ⊢
  split at found
  next => cases found
  next =>
    split at found
    next => cases found
    next present =>
      rw [grows.findsNothing, if_neg present]
      exact grows.walk found

theorem keeps_put {place : Place} (free : tree.stored.contains place = false) (stored : Stored) :
    tree.Keeps (tree.put place stored) := by
  refine ⟨rfl, fun other held found => ?_⟩
  have apart : other ≠ place := by
    rintro rfl
    rw [Entries.contains, found] at free
    cases free
  exact (Entries.get?_put_of_ne tree.stored stored apart).trans found

theorem isFolderAt_iff {place : Place} :
    tree.isFolderAt place = true ↔ tree.at? place = some .folder := by
  rw [isFolderAt, beq_iff_eq]

theorem grows_put {place : Place} (file : tree.isFolderAt place = false) (stored : Stored) :
    tree.Grows (tree.put place stored) where
  home := rfl
  present := by
    intro other present
    by_cases same : other = place
    · rw [same, put, Entries.contains, Entries.get?_put_self]
      rfl
    · rwa [put, Entries.contains, Entries.get?_put_of_ne tree.stored stored same]
  folders := by
    intro other found
    have apart : other ≠ place := by
      rintro rfl
      refine Bool.false_ne_true (file.symm.trans (isFolderAt_iff.mpr ?_))
      rw [at?]
      split
      next => rfl
      next => exact found
    exact (Entries.get?_put_of_ne tree.stored stored apart).trans found

theorem makeFolder_keeps {path : String} (made : tree.makeFolder path = .ok next) :
    tree.Keeps next := by
  rw [makeFolder] at made
  split at made
  next => cases made
  next =>
    split at made
    next => cases made
    next place name _ =>
      split at made
      next => cases made
      next new =>
        obtain rfl := Except.ok.inj made
        refine keeps_put ?_ .folder
        simp only [Bool.or_eq_true, not_or, Bool.not_eq_true] at new
        exact new.2

theorem makeFolderUnless_keeps (present : IfPresent) (tree : FileTree) (path : String) :
    tree.Keeps (tree.makeFolderUnless present path).1 := by
  rw [makeFolderUnless]
  split
  next made folder => exact makeFolder_keeps folder
  next => split <;> exact .refl tree

theorem makeFoldersTo_keeps (present : IfPresent) (depth : Nat) (tree : FileTree) (path : String) :
    tree.Keeps (makeFoldersTo present depth tree path).1 := by
  induction depth generalizing tree path with
  | zero => exact .refl tree
  | succ depth ih =>
    simp only [makeFoldersTo]
    split
    next => exact makeFolderUnless_keeps present tree path
    next =>
      have around := ih tree (parentOf path).1
      split
      next => exact around
      next =>
        split
        next => exact around
        next => exact around.trans (makeFolderUnless_keeps present _ path)

theorem makeFolders_keeps (present : IfPresent) (tree : FileTree) (path : String) :
    tree.Keeps (tree.makeFolders present path).1 := makeFoldersTo_keeps present _ tree path

/-- A path leads to a file with this text. -/
structure Holds (tree : FileTree) (path text : String) : Prop where
  found : tree.locate path = .ok (tree.place path)
  stored : tree.stored.get? (tree.place path) = some (.file (.text text))

theorem Holds.keep {path text : String} (holds : tree.Holds path text) (keeps : tree.Keeps next) :
    next.Holds path text where
  found := by
    rw [keeps.grows.place]
    exact keeps.grows.locate holds.found
  stored := by
    rw [keeps.grows.place]
    exact keeps.stored _ _ holds.stored

structure NewPlace (tree : FileTree) (path : String) (names : List String) (place : Place)
    (name : String) : Prop where
  names_eq : names = names.dropLast ++ [name]
  walked : tree.walk path names.dropLast = .ok place
  folder : tree.at? place = some .folder
  short : name.utf8ByteSize ≤ nameLimit
  present : tree.findsNothing path = false

theorem newPlace_eq_ok {path name : String} {names : List String} {place : Place}
    (filled : names ≠ []) (found : tree.newPlace path names = .ok (place, name))
    (new : Path.isStep name = false) : tree.NewPlace path names place name := by
  rw [newPlace] at found
  split at found
  next => cases found
  next present =>
    have finds := Bool.eq_false_iff.mpr present
    split at found
    next => cases found
    next reached walked =>
      split at found
      next step =>
        obtain ⟨-, rfl⟩ := Prod.mk.inj (Except.ok.inj found)
        exact absurd step (Bool.eq_false_iff.mp new)
      next =>
        split at found
        next => cases found
        next => cases found
        next folder =>
          split at found
          next => cases found
          next short =>
            obtain ⟨rfl, rfl⟩ := Prod.mk.inj (Except.ok.inj found)
            refine ⟨?_, walked, folder, Nat.le_of_not_lt short, finds⟩
            rw [List.getLast?_eq_some_getLast filled, Option.getD_some,
              List.dropLast_concat_getLast]

section NewPlace

variable {path name : String} {place : Place} {names : List String}

theorem NewPlace.foldl_step (found : tree.NewPlace path names place name)
    (new : Path.isStep name = false) :
    names.foldl Path.step (tree.start path) = place ++ [name] := by
  rw [found.names_eq, List.foldl_append, ← walk_eq_ok found.walked]
  exact Path.step_of_new new

theorem NewPlace.walk_put (found : tree.NewPlace path names place name)
    (new : Path.isStep name = false) (file : tree.isFolderAt (place ++ [name]) = false)
    (stored : Stored) :
    (tree.put (place ++ [name]) stored).walk path names = .ok (place ++ [name]) := by
  have grows := grows_put file stored
  have present : (tree.put (place ++ [name]) stored).stored.contains (place ++ [name]) = true := by
    rw [put, Entries.contains, Entries.get?_put_self]
    rfl
  rw [found.names_eq, walk_concat (grows.walk found.walked) new,
    enter_of_folder (grows.at? found.folder), if_neg (Bool.eq_false_iff.mp new),
    if_neg (Nat.not_lt.mpr found.short), if_pos present]

end NewPlace

theorem write_eq_ok {path text : String} (written : tree.write path text = .ok next) :
    tree.isFolderAt (tree.place path) = false ∧
      next = tree.put (tree.place path) (.file (.text text)) ∧ next.Holds path text := by
  simp only [write] at written
  split at written
  next => cases written
  next allowed =>
    split at written
    next => cases written
    next place name found =>
      split at written
      next => cases written
      next new =>
        obtain rfl := Except.ok.inj written
        simp only [Bool.or_eq_true, not_or, Bool.not_eq_true] at new
        have fits := newPlace_eq_ok (Path.names_ne_nil path) found new.1
        have grows := grows_put new.2 (.file (.text text))
        have reached : tree.place path = place ++ [name] := fits.foldl_step new.1
        refine ⟨reached ▸ new.2, by rw [reached], ?_, ?_⟩
        · rw [locate, allowed, grows.findsNothing, fits.present, grows.place, reached]
          exact fits.walk_put new.1 new.2 _
        · rw [grows.place, reached]
          exact Entries.get?_put_self tree.stored _ _

theorem write_of_write {path text : String} (written : tree.write path text = .ok next)
    (other : String) : ∃ saved, tree.write path other = .ok saved := by
  simp only [write] at written ⊢
  split at written
  next => cases written
  next =>
    split at written
    next => cases written
    next place name _ =>
      split at written
      next => cases written
      next new => exact ⟨_, if_neg new⟩

theorem Holds.has {path text : String} (holds : tree.Holds path text) : tree.has path = true := by
  rw [FileTree.has, holds.found]

theorem Holds.read {path text : String} (holds : tree.Holds path text) :
    tree.read path = .ok (String.ofList (Text.unifyBreaks text.toList)) := by
  simp only [FileTree.read, holds.found, holds.stored]

theorem Holds.write {path text other more : String} (holds : tree.Holds path text)
    (apart : tree.place path ≠ tree.place other) (written : tree.write other more = .ok next) :
    next.Holds path text := by
  obtain ⟨file, rfl, _⟩ := write_eq_ok written
  have grows := grows_put file (.file (.text more))
  refine ⟨?_, ?_⟩
  · rw [grows.place]
    exact grows.locate holds.found
  · rw [grows.place]
    exact (Entries.get?_put_of_ne tree.stored _ apart).trans holds.stored

end FileTree

namespace CommandLine

open FileTree

variable {folder : String} {tree : FileTree}

theorem writeFile_eq_ok {file : Code.File} (done : (writeFile folder tree file).2 = none) :
    (tree.makeFolders .accept (Path.split (Path.join folder file.name)).1).1.write
      (Path.join folder file.name) file.render = .ok (writeFile folder tree file).1 := by
  rcases around : tree.makeFolders .accept (Path.split (Path.join folder file.name)).1 with
    ⟨made, failure⟩
  unfold writeFile at done ⊢
  simp only [around] at done ⊢
  cases failure with
  | some failure => cases done
  | none =>
    cases written : made.write (Path.join folder file.name) file.render with
    | error failure =>
      rw [written] at done
      cases done
    | ok next => rfl

theorem writeFiles_done {file : Code.File} {rest : Code.Project}
    (done : (writeFiles folder tree (file :: rest)).2 = none) :
    (writeFile folder tree file).2 = none ∧
      writeFiles folder tree (file :: rest) =
        writeFiles folder (writeFile folder tree file).1 rest := by
  rcases first : writeFile folder tree file with ⟨next, failure⟩
  rw [writeFiles_cons, first] at done
  rw [writeFiles_cons, first]
  cases failure with
  | some failure => cases done
  | none => exact ⟨rfl, rfl⟩

section

attribute [local irreducible] FileTree.makeFolders writeFile

theorem writeFile_grows {file : Code.File} (done : (writeFile folder tree file).2 = none) :
    tree.Grows (writeFile folder tree file).1 := by
  have keeps := makeFolders_keeps .accept tree (Path.split (Path.join folder file.name)).1
  obtain ⟨free, written, _⟩ := write_eq_ok (writeFile_eq_ok done)
  rw [written]
  exact keeps.grows.trans (grows_put free _)

theorem writeFiles_grows {files : Code.Project} (done : (writeFiles folder tree files).2 = none) :
    tree.Grows (writeFiles folder tree files).1 := by
  induction files generalizing tree with
  | nil => exact (Keeps.refl tree).grows
  | cons file rest ih =>
    obtain ⟨first, whole⟩ := writeFiles_done done
    rw [whole] at done ⊢
    exact (writeFile_grows first).trans (ih done)

theorem writeFiles_keep {files : Code.Project} {path text : String}
    (done : (writeFiles folder tree files).2 = none)
    (apart : ∀ file ∈ files, tree.place path ≠ tree.place (Path.join folder file.name))
    (holds : tree.Holds path text) : (writeFiles folder tree files).1.Holds path text := by
  induction files generalizing tree with
  | nil => exact holds
  | cons file rest ih =>
    obtain ⟨here, behind⟩ := List.forall_mem_cons.mp apart
    obtain ⟨first, whole⟩ := writeFiles_done done
    rw [whole] at done ⊢
    have keeps := makeFolders_keeps .accept tree (Path.split (Path.join folder file.name)).1
    refine ih done ?_ ((holds.keep keeps).write ?_ (writeFile_eq_ok first))
    · rwa [(writeFile_grows first).place]
    · rwa [keeps.grows.place]

theorem writeFiles_holds {files : Code.Project}
    (apart : files.Pairwise fun file other =>
      tree.place (Path.join folder file.name) ≠ tree.place (Path.join folder other.name))
    (done : (writeFiles folder tree files).2 = none) :
    ∀ file ∈ files,
      (writeFiles folder tree files).1.Holds (Path.join folder file.name) file.render := by
  induction files generalizing tree with
  | nil => exact List.forall_mem_nil _
  | cons file rest ih =>
    obtain ⟨here, behind⟩ := List.pairwise_cons.mp apart
    obtain ⟨first, whole⟩ := writeFiles_done done
    rw [← (writeFile_grows first).place] at here behind
    rw [whole] at done ⊢
    have holds := (write_eq_ok (writeFile_eq_ok first)).2.2
    exact List.forall_mem_cons.mpr ⟨writeFiles_keep done here holds, ih behind done⟩

end

end CommandLine
end OpenApiClient
