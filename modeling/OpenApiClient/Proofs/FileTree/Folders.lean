import Mathlib.Data.List.Induction
import Mathlib.Data.List.TakeWhile
import OpenApiClient.Proofs.FileTree.Writing

set_option autoImplicit false

namespace OpenApiClient

theorem Text.trimTrailing_prefix (c : Char) (cs : List Char) : trimTrailing c cs <+: cs := by
  have suffix := List.dropWhile_suffix (· == c) (l := cs.reverse)
  rwa [← List.reverse_prefix, List.reverse_reverse] at suffix

theorem Text.trimTrailing_concat (c d : Char) (cs : List Char) :
    trimTrailing c (cs ++ [d]) = if d = c then trimTrailing c cs else cs ++ [d] := by
  by_cases same : d = c <;> simp [trimTrailing, same]

namespace Path

theorem step_empty (place : Place) : step place "" = place := if_pos (.inl rfl)

theorem names_concat_slash (cs : List Char) :
    names (String.ofList (cs ++ ['/'])) = names (String.ofList cs) ++ [""] := by
  rw [String.ofList_append]
  exact names_slash (String.ofList cs)

theorem names_trim (cs : List Char) :
    ∃ count, names (String.ofList cs) =
      names (String.ofList (Text.trimTrailing '/' cs)) ++ List.replicate count "" := by
  induction cs using List.reverseRecOn with
  | nil => exact ⟨0, (List.append_nil _).symm⟩
  | append_singleton cs d ih =>
    rw [Text.trimTrailing_concat]
    split
    next slash =>
      obtain ⟨count, trimmed⟩ := ih
      refine ⟨count + 1, ?_⟩
      rw [slash, names_concat_slash, trimmed, List.append_assoc, List.replicate_succ']
    next => exact ⟨0, (List.append_nil _).symm⟩

theorem foldl_step_replicate (place : Place) (count : Nat) :
    (List.replicate count "").foldl step place = place := by
  induction count with
  | zero => rfl
  | succ count ih => rw [List.replicate_succ, List.foldl_cons, step_empty, ih]

theorem foldl_folderNames (path : String) (start : Place) :
    (FileTree.folderNames path).foldl step start = (names path).foldl step start := by
  obtain ⟨count, trimmed⟩ := names_trim path.toList
  rw [String.ofList_toList] at trimmed
  rw [trimmed, List.foldl_append, foldl_step_replicate, FileTree.folderNames]

theorem exists_split (path : String) : ∃ front base : List Char,
    path = String.ofList (front ++ base) ∧ (front = [] → isAbsolute path = false) ∧
      (∀ filled : front ≠ [], front.getLast filled = '/') ∧
      ((split path).1 = String.ofList front ∨
        (split path).1 = String.ofList (Text.trimTrailing '/' front) ∧
          Text.trimTrailing '/' front ≠ []) := by
  have parts := List.takeWhile_append_dropWhile (p := (· != '/')) (l := path.toList.reverse)
  refine ⟨(path.toList.reverse.dropWhile (· != '/')).reverse,
    (path.toList.reverse.takeWhile (· != '/')).reverse, ?_, ?_, ?_, ?_⟩
  · rw [← List.reverse_append, parts, List.reverse_reverse, String.ofList_toList]
  · intro none
    have free := List.dropWhile_eq_nil_iff.mp (List.reverse_eq_nil_iff.mp none)
    rw [isAbsolute, beq_eq_false_iff_ne]
    intro slash
    have inside := List.mem_of_mem_head? (Option.mem_def.mpr slash)
    exact absurd (free '/' (List.mem_reverse.mpr inside)) (by decide)
  · intro filled
    rw [List.getLast_reverse]
    have first := List.head_dropWhile_not (· != '/') (List.reverse_ne_nil_iff.mp filled)
    simpa using first
  · rw [split]
    simp only
    split
    next => exact .inl rfl
    next named => exact .inr ⟨rfl, by simpa using named⟩

end Path

namespace FileTree

def LeadThrough (start : Place) (names : List String) (around : Place) : Prop :=
  ∃ front, front <+: names ∧ front.foldl Path.step start = around

def Through (tree : FileTree) (path : String) (around : Place) : Prop :=
  LeadThrough (tree.start path) (Path.names path) around

section Through

variable {tree : FileTree} {path : String} {start around : Place} {names more : List String}

theorem through_place (tree : FileTree) (path : String) : tree.Through path (tree.place path) :=
  ⟨_, List.prefix_refl _, rfl⟩

theorem LeadThrough.append (leads : LeadThrough start names around) (more : List String) :
    LeadThrough start (names ++ more) around := by
  obtain ⟨front, begins, reached⟩ := leads
  exact ⟨front, begins.trans (List.prefix_append _ _), reached⟩

theorem LeadThrough.of_slash (leads : LeadThrough start (names ++ [""]) around) :
    LeadThrough start names around := by
  obtain ⟨front, begins, rfl⟩ := leads
  rcases List.prefix_concat_iff.mp begins with rfl | begins
  · refine ⟨names, List.prefix_refl names, ?_⟩
    rw [List.foldl_append, List.foldl_cons, List.foldl_nil, Path.step_empty]
  · exact ⟨front, begins, rfl⟩

theorem start_split (tree : FileTree) (path : String) :
    tree.start (Path.split path).1 = tree.start path := by
  suffices same : Path.isAbsolute (Path.split path).1 = Path.isAbsolute path by
    rw [FileTree.start, FileTree.start, same]
  obtain ⟨front, base, path_eq, relative, -, head⟩ := Path.exists_split path
  cases front with
  | nil =>
    rw [relative rfl]
    rcases head with head | ⟨-, filled⟩
    · rw [head]
      rfl
    · exact absurd rfl filled
  | cons c rest =>
    rcases head with head | ⟨head, filled⟩
    · rw [head, path_eq]
      simp [Path.isAbsolute]
    · -- What is left of the front without slashes at its end begins as the front does.
      have begins := Text.trimTrailing_prefix '/' (c :: rest)
      obtain ⟨d, kept, trimmed⟩ := List.exists_cons_of_ne_nil filled
      rw [trimmed, List.cons_prefix_cons] at begins
      rw [head, path_eq, trimmed, begins.1]
      simp [Path.isAbsolute]

theorem Through.split (through : tree.Through (Path.split path).1 around) :
    tree.Through path around := by
  rw [Through, start_split] at through
  obtain ⟨front, base, path_eq, -, closed, head⟩ := Path.exists_split path
  have leads : LeadThrough (tree.start path) (Path.names (String.ofList front)) around := by
    rcases head with head | ⟨head, -⟩
    · rwa [head] at through
    · obtain ⟨count, trimmed⟩ := Path.names_trim front
      rw [head] at through
      rw [trimmed]
      exact through.append _
  cases front using List.reverseRecOn with
  | nil =>
    have none : LeadThrough (tree.start path) ([] ++ [""]) around := leads
    exact none.of_slash.append (Path.names path)
  | append_singleton before slash =>
    obtain rfl : slash = '/' := by simpa using closed (by simp)
    rw [Path.names_concat_slash] at leads
    have names_eq : Path.names path =
        Path.names (String.ofList before) ++ Path.names (String.ofList base) := by
      simp [path_eq, Path.names, Text.separated_at]
    rw [Through, names_eq]
    exact leads.of_slash.append _

theorem Through.parentOf (through : tree.Through (FileTree.parentOf path).1 around) :
    tree.Through path around := by
  rw [FileTree.parentOf] at through
  simp only at through
  split at through
  next => exact through.split.split
  next => exact through.split

theorem Through.join {name : String} (through : tree.Through path around)
    (relative : Path.isAbsolute name = false) : tree.Through (Path.join path name) around := by
  rw [Path.join, relative, Bool.false_or]
  -- An empty path is one empty name, and a path with a slash at its end has one more of them.
  split
  next empty =>
    rw [of_decide_eq_true empty] at through
    have none : LeadThrough (tree.start name) ([] ++ [""]) around := by
      rw [FileTree.start, relative]
      exact through
    exact none.of_slash.append (Path.names name)
  next named =>
    obtain ⟨c, rest, chars⟩ := List.exists_cons_of_ne_nil
      (mt String.toList_eq_nil_iff.mp (by simpa using named))
    have start_eq (behind : String) : tree.start (path ++ behind) = tree.start path := by
      simp [FileTree.start, Path.isAbsolute, chars]
    split
    next closed =>
      obtain ⟨front, split⟩ := List.getLast?_eq_some_iff.mp closed
      have path_eq : path = String.ofList (front ++ ['/']) := by
        rw [← split, String.ofList_toList]
      have names_eq : Path.names (path ++ name) =
          Path.names (String.ofList front) ++ Path.names name := by
        simp [path_eq, Path.names, Text.separated_at]
      rw [Through, path_eq, Path.names_concat_slash, ← path_eq] at through
      rw [Through, names_eq, start_eq]
      exact through.of_slash.append _
    next =>
      rw [Through, Path.names_append, String.append_assoc, start_eq]
      exact through.append _

end Through

def Adds (tree next : FileTree) (added : Place → Stored → Prop) : Prop :=
  ∀ place stored, next.stored.get? place = some stored →
    tree.stored.get? place = some stored ∨ added place stored

variable {tree next last : FileTree} {added more : Place → Stored → Prop} {path : String}

theorem Adds.refl (tree : FileTree) : tree.Adds tree added := fun _ _ => .inl

theorem Adds.trans (first : tree.Adds next added) (second : next.Adds last added) :
    tree.Adds last added := by
  intro place stored found
  rcases second place stored found with old | new
  · exact first place stored old
  · exact .inr new

theorem Adds.mono (adds : tree.Adds next added) (wider : ∀ place stored, added place stored →
    more place stored) : tree.Adds next more :=
  fun place stored found => (adds place stored found).imp_right (wider place stored)

theorem adds_put {place : Place} {stored : Stored} (allowed : added place stored) :
    tree.Adds (tree.put place stored) added := by
  intro other held found
  by_cases same : other = place
  · subst same
    rw [put, Entries.get?_put_self] at found
    obtain rfl := Option.some.inj found
    exact .inr allowed
  · rw [put, Entries.get?_put_of_ne tree.stored stored same] at found
    exact .inl found

def FolderOn (tree : FileTree) (path : String) (place : Place) (stored : Stored) : Prop :=
  stored = .folder ∧ tree.Through path place

theorem folderOn_of_home (same : next.home.folder = tree.home.folder) :
    next.FolderOn = tree.FolderOn := by
  funext path place stored
  rw [FolderOn, FolderOn, Through, Through, start, start, same]

theorem makeFolder_adds (made : tree.makeFolder path = .ok next) :
    tree.Adds next (tree.FolderOn path) := by
  rw [makeFolder] at made
  split at made
  next => cases made
  next =>
    split at made
    next => cases made
    next place name found =>
      split at made
      next => cases made
      next new =>
        obtain rfl := Except.ok.inj made
        simp only [Bool.or_eq_true, not_or, Bool.not_eq_true] at new
        have fits := newPlace_eq_ok (Path.names_ne_nil _) found new.1
        have reached : tree.place path = place ++ [name] := by
          rw [FileTree.place, ← Path.foldl_folderNames]
          exact fits.foldl_step new.1
        exact adds_put ⟨rfl, reached ▸ through_place tree path⟩

theorem makeFolderUnless_adds (present : IfPresent) (tree : FileTree) (path : String) :
    tree.Adds (tree.makeFolderUnless present path).1 (tree.FolderOn path) := by
  rw [makeFolderUnless]
  split
  next made folder => exact makeFolder_adds folder
  next => split <;> exact .refl tree

theorem makeFoldersTo_adds (present : IfPresent) (depth : Nat) (tree : FileTree) (path : String) :
    tree.Adds (makeFoldersTo present depth tree path).1 (tree.FolderOn path) := by
  induction depth generalizing tree path with
  | zero => exact .refl tree
  | succ depth ih =>
    simp only [makeFoldersTo]
    split
    next => exact makeFolderUnless_adds present tree path
    next =>
      have around : tree.Adds (makeFoldersTo present depth tree (parentOf path).1).1
          (tree.FolderOn path) :=
        (ih tree (parentOf path).1).mono fun _ _ folder => ⟨folder.1, folder.2.parentOf⟩
      split
      next => exact around
      next =>
        split
        next => exact around
        next =>
          have keeps := makeFoldersTo_keeps present depth tree (parentOf path).1
          have behind := makeFolderUnless_adds present (makeFoldersTo present depth tree
            (parentOf path).1).1 path
          rw [folderOn_of_home (congrArg Home.folder keeps.home)] at behind
          exact around.trans behind

theorem makeFolders_adds (present : IfPresent) (tree : FileTree) (path : String) :
    tree.Adds (tree.makeFolders present path).1 (tree.FolderOn path) :=
  makeFoldersTo_adds present _ tree path

structure IsWithout (next tree : FileTree) (place : Place) : Prop where
  folder : next.home.folder = tree.home.folder
  stored : ∀ other, next.stored.get? other =
    if place <+: other then none else tree.stored.get? other

theorem folder_cutHome (home : Home) (place : Place) (kept : Nat) :
    (cutHome home place kept).folder = home.folder := by
  rw [cutHome]
  split <;> rfl

theorem isWithout_erase_clear (tree : FileTree) (place : Place) :
    ((tree.clear place).erase place).IsWithout tree place where
  folder := (folder_cutHome _ _ _).trans (folder_cutHome _ _ _)
  stored := by
    intro other
    rw [erase, clear]
    rw [Entries.get?_filter _ (fun key => !place.isPrefixOf key),
      Entries.get?_filter tree.stored
        (fun key => !(place.isPrefixOf key && decide (place.length < key.length)))]
    by_cases below : place <+: other
    · have inside : place.isPrefixOf other = true := List.isPrefixOf_iff_prefix.mpr below
      simp [below, inside]
    · have apart : place.isPrefixOf other = false := by
        rw [← Bool.not_eq_true, List.isPrefixOf_iff_prefix]
        exact below
      simp [below, apart]

theorem locate_eq_ok {place : Place} (found : tree.locate path = .ok place) :
    place = tree.place path := by
  rw [locate] at found
  split at found
  next => cases found
  next =>
    split at found
    next => cases found
    next => exact walk_eq_ok found

theorem removeEmpty_eq_ok (done : tree.removeEmpty path = .ok next) :
    next = tree.erase (tree.place path) ∧ tree.place path ≠ [] := by
  rw [removeEmpty] at done
  split at done
  next => cases done
  next around name found =>
    split at done
    next => cases done
    next step =>
      obtain rfl := Except.ok.inj done
      have new := Bool.eq_false_iff.mpr step
      have fits := newPlace_eq_ok (Path.names_ne_nil _) found new
      have reached : tree.place path = around ++ [name] := by
        rw [FileTree.place, ← Path.foldl_folderNames]
        exact fits.foldl_step new
      rw [reached]
      exact ⟨rfl, List.append_ne_nil_of_right_ne_nil _ (List.cons_ne_nil _ _)⟩

theorem removeFolder_done (done : tree.removeFolder path = (next, none)) :
    next.IsWithout tree (tree.place path) ∧ tree.place path ≠ [] := by
  rw [removeFolder] at done
  split at done
  next => cases done
  next place found =>
    obtain rfl := locate_eq_ok found
    split at done
    next => cases done
    next =>
      split at done
      next => cases done
      next =>
        simp only at done
        split at done
        next removed emptied =>
          obtain ⟨rfl, -⟩ := Prod.mk.inj done
          -- The path is followed a second time, when what is below it is gone already.
          obtain ⟨rfl, below⟩ := removeEmpty_eq_ok emptied
          have same : (tree.clear (tree.place path)).place = tree.place :=
            place_of_home (folder_cutHome tree.home _ _)
          rw [same] at below ⊢
          exact ⟨isWithout_erase_clear tree _, below⟩
        next => cases done

/-- Around everything that is stored there are folders. -/
def WellFormed (tree : FileTree) : Prop :=
  ∀ place name, tree.stored.contains (place ++ [name]) = true → tree.isFolderAt place = true

theorem wellFormed_of_keys
    (folders : ∀ place ∈ tree.stored.keys, tree.isFolderAt place.dropLast = true) :
    tree.WellFormed := by
  intro place name present
  rw [Entries.contains, Option.isSome_iff_ne_none, Ne, Entries.get?_eq_none_iff, not_not] at present
  have folder := folders _ present
  rwa [List.dropLast_concat] at folder

theorem WellFormed.isWithout (wellFormed : tree.WellFormed) {place : Place} (filled : place ≠ [])
    (free : tree.stored.contains place = false) : tree.IsWithout tree place := by
  refine ⟨rfl, ?_⟩
  have below (names : List String) : tree.stored.contains (place ++ names) = false := by
    induction names using List.reverseRecOn with
    | nil => rwa [List.append_nil]
    | append_singleton names name ih =>
      -- Something further down would stand in a folder, and that folder is not there.
      rw [← List.append_assoc, ← Bool.not_eq_true]
      intro present
      have folder := wellFormed _ _ present
      rw [isFolderAt_iff, at?, if_neg (mt (fun top => (List.append_eq_nil_iff.mp top).1) filled)]
        at folder
      rw [Entries.contains, folder] at ih
      cases ih
  intro other
  split
  next inside =>
    obtain ⟨names, rfl⟩ := inside
    have missing := below names
    rwa [Entries.contains, Option.isSome_eq_false_iff, Option.isNone_iff_eq_none] at missing
  next => rfl

end FileTree

namespace CommandLine

open FileTree

variable {folder : String} {tree : FileTree}

def FileOn (tree : FileTree) (folder : String) (file : Code.File) (place : Place)
    (stored : Stored) : Prop :=
  (place = tree.place (Path.join folder file.name) ∧ stored = .file (.text file.render)) ∨
    tree.FolderOn (Path.join folder file.name) place stored

theorem fileOn_of_home {next : FileTree} (same : next.home.folder = tree.home.folder) :
    FileOn next = FileOn tree := by
  funext folder file place stored
  rw [FileOn, FileOn, place_of_home same, folderOn_of_home same]

section

attribute [local irreducible] FileTree.makeFolders writeFile

theorem writeFile_adds {file : Code.File} (done : (writeFile folder tree file).2 = none) :
    tree.Adds (writeFile folder tree file).1 (FileOn tree folder file) := by
  obtain ⟨_, written, _⟩ := write_eq_ok (writeFile_eq_ok done)
  have keeps := makeFolders_keeps .accept tree (Path.split (Path.join folder file.name)).1
  have around := makeFolders_adds .accept tree (Path.split (Path.join folder file.name)).1
  rw [written]
  refine (around.mono fun place stored made => ?_).trans (adds_put (.inl ⟨?_, rfl⟩))
  · exact .inr ⟨made.1, made.2.split⟩
  · rw [keeps.grows.place]

theorem writeFiles_adds {files : Code.Project}
    (done : (writeFiles folder tree files).2 = none) :
    tree.Adds (writeFiles folder tree files).1 fun place stored =>
      ∃ file ∈ files, FileOn tree folder file place stored := by
  induction files generalizing tree with
  | nil => exact .refl tree
  | cons file rest ih =>
    obtain ⟨first, whole⟩ := writeFiles_done done
    rw [whole] at done ⊢
    refine ((writeFile_adds first).mono fun _ _ here => ?_).trans
      ((ih done).mono fun _ _ behind => ?_)
    · exact ⟨file, List.mem_cons_self, here⟩
    · obtain ⟨other, member, added⟩ := behind
      rw [fileOn_of_home (congrArg Home.folder (writeFile_grows first).home)] at added
      exact ⟨other, List.mem_cons_of_mem _ member, added⟩

theorem writeFiles_elsewhere {files : Code.Project} {place : Place} {stored : Stored}
    (done : (writeFiles folder tree files).2 = none)
    (apart : ∀ file ∈ files, place ≠ tree.place (Path.join folder file.name))
    (found : tree.stored.get? place = some stored) :
    (writeFiles folder tree files).1.stored.get? place = some stored := by
  induction files generalizing tree with
  | nil => exact found
  | cons file rest ih =>
    obtain ⟨here, behind⟩ := List.forall_mem_cons.mp apart
    obtain ⟨first, whole⟩ := writeFiles_done done
    obtain ⟨_, written, _⟩ := write_eq_ok (writeFile_eq_ok first)
    have keeps := makeFolders_keeps .accept tree (Path.split (Path.join folder file.name)).1
    rw [whole] at done ⊢
    refine ih done ?_ ?_
    · rwa [(writeFile_grows first).place]
    · rw [written, put, keeps.grows.place, Entries.get?_put_of_ne _ _ here]
      exact keeps.stored place stored found

end

end CommandLine
end OpenApiClient
