import OpenApiClient.FileTree.Basic

set_option autoImplicit false

namespace OpenApiClient

namespace FileTree

def place (tree : FileTree) (path : String) : Place :=
  (Path.names path).foldl Path.step (tree.start path)

theorem place_of_home {tree next : FileTree} (same : next.home.folder = tree.home.folder) :
    next.place = tree.place := by
  funext path
  rw [place, place, start, start, same]

end FileTree

namespace Path

/-- A name that leads to a place of its own. -/
structure Plain (name : String) : Prop where
  noSlash : '/' ∉ name.toList
  new : isStep name = false

instance (name : String) : Decidable (Plain name) :=
  decidable_of_iff (('/' ∉ name.toList) ∧ isStep name = false)
    ⟨fun plain => ⟨plain.1, plain.2⟩, fun plain => ⟨plain.noSlash, plain.new⟩⟩

theorem step_of_new {place : Place} {name : String} (new : isStep name = false) :
    step place name = place ++ [name] := by
  simp only [isStep, Bool.or_eq_false_iff, decide_eq_false_iff_not] at new
  simp [step, new]

theorem foldl_climb (place : Place) (names : List String) :
    (climb place names).2.foldl step (climb place names).1 = names.foldl step place := by
  induction names generalizing place with
  | nil => rfl
  | cons name rest ih =>
    rw [climb]
    split
    next => exact ih _
    next => rfl

theorem climb_concat {name : String} (new : isStep name = false) (place : Place)
    (names : List String) : climb place (names ++ [name]) =
      ((climb place names).1, (climb place names).2 ++ [name]) := by
  induction names generalizing place with
  | nil =>
    simp [climb, new]
  | cons first rest ih =>
    rw [List.cons_append, climb, climb]
    split
    next => exact ih _
    next => rfl

theorem foldl_step {names : List String} (plain : ∀ name ∈ names, Plain name) (place : Place) :
    names.foldl step place = place ++ names := by
  induction names generalizing place with
  | nil => exact (List.append_nil place).symm
  | cons name rest ih =>
    obtain ⟨here, behind⟩ := List.forall_mem_cons.mp plain
    rw [List.foldl_cons, step_of_new here.new, ih behind, List.append_assoc, List.singleton_append]

theorem names_ne_nil (path : String) : names path ≠ [] := by
  rw [names, Ne, List.map_eq_nil_iff]
  exact Text.separated_ne_nil '/' path.toList

theorem names_append (before rest : String) :
    names (before ++ "/" ++ rest) = names before ++ names rest := by
  have slash : "/".toList = ['/'] := rfl
  simp only [names, String.toList_append, slash, List.append_assoc, List.singleton_append,
    Text.separated_at, List.map_append]

theorem names_slash (path : String) : names (path ++ "/") = names path ++ [""] := by
  have behind := names_append path ""
  rwa [String.append_empty] at behind

theorem names_of_plain {name : String} (plain : Plain name) : names name = [name] := by
  rw [names, Text.separated_of_not_mem plain.noSlash, List.map_singleton, String.ofList_toList]

theorem names_intercalate {pieces : List String} (filled : pieces ≠ [])
    (plain : ∀ piece ∈ pieces, Plain piece) : names (String.intercalate "/" pieces) = pieces := by
  induction pieces with
  | nil => exact absurd rfl filled
  | cons first rest ih =>
    obtain ⟨here, behind⟩ := List.forall_mem_cons.mp plain
    cases rest with
    | nil => simpa using names_of_plain here
    | cons second more =>
      rw [String.intercalate_cons_cons, names_append, names_of_plain here,
        ih (List.cons_ne_nil _ _) behind, List.singleton_append]

theorem isAbsolute_below (folder rest : String) :
    isAbsolute (folder ++ "/" ++ rest) = isAbsolute (folder ++ "/") := by
  have slash : "/".toList = ['/'] := rfl
  simp only [isAbsolute, String.toList_append, slash, List.head?_append]
  cases folder.toList.head? <;> rfl

theorem place_below {pieces : List String} (filled : pieces ≠ [])
    (plain : ∀ piece ∈ pieces, Plain piece) (tree : FileTree) (base : String) :
    tree.place (base ++ "/" ++ String.intercalate "/" pieces) =
      tree.place (base ++ "/") ++ pieces := by
  have slash := names_slash base
  rw [FileTree.place, FileTree.start, isAbsolute_below, names_append, List.foldl_append,
    names_intercalate filled plain, foldl_step plain, FileTree.place, slash, List.foldl_append]
  rfl

theorem place_slash (tree : FileTree) {base : String} (filled : base ≠ "") :
    tree.place (base ++ "/") = tree.place base := by
  have slash := names_slash base
  have same : isAbsolute (base ++ "/") = isAbsolute base := by
    have head : base.toList ≠ [] := fun nothing => filled (String.toList_inj.mp nothing)
    obtain ⟨c, rest, chars⟩ := List.exists_cons_of_ne_nil head
    rw [isAbsolute, isAbsolute, String.toList_append, chars]
    rfl
  rw [FileTree.place, FileTree.place, FileTree.start, FileTree.start, same, slash,
    List.foldl_append]
  rfl

theorem join_below (target folder : String) :
    ∃ base, ∀ rest, join target (folder ++ "/" ++ rest) = base ++ "/" ++ rest := by
  simp only [join, isAbsolute_below]
  by_cases whole : (isAbsolute (folder ++ "/") || target = "") = true
  · exact ⟨folder, fun rest => if_pos whole⟩
  · by_cases closed : target.toList.getLast? = some '/'
    · exact ⟨target ++ folder, fun rest => by
        simp only [if_neg whole, if_pos closed, String.append_assoc]⟩
    · exact ⟨target ++ "/" ++ folder, fun rest => by
        simp only [if_neg whole, if_neg closed, String.append_assoc]⟩

theorem isAbsolute_of_plain {pieces : List String} (filled : pieces ≠ [])
    (plain : ∀ piece ∈ pieces, Plain piece) :
    isAbsolute (String.intercalate "/" pieces) = false := by
  have names_eq := names_intercalate filled plain
  rw [isAbsolute, beq_eq_false_iff_ne]
  intro slash
  -- A slash at the start would have an empty name before it.
  obtain ⟨rest, split⟩ := List.head?_eq_some_iff.mp slash
  rw [names, split, Text.separated, if_pos rfl, List.map_cons] at names_eq
  have empty := (plain "" (names_eq ▸ List.mem_cons_self)).new
  exact absurd empty (by decide)

theorem place_join {pieces : List String} (filled : pieces ≠ [])
    (plain : ∀ piece ∈ pieces, Plain piece) (tree : FileTree) (target : String) :
    tree.place (join target (String.intercalate "/" pieces)) = tree.place target ++ pieces := by
  have relative := isAbsolute_of_plain filled plain
  rw [join, relative, Bool.false_or]
  split
  next empty =>
    have alone : tree.place "" = tree.home.folder := rfl
    rw [of_decide_eq_true empty, alone, FileTree.place, FileTree.start, relative,
      names_intercalate filled plain, foldl_step plain]
    rfl
  next named =>
    split
    next closed =>
      obtain ⟨front, split⟩ := List.getLast?_eq_some_iff.mp closed
      have target_eq : target = String.ofList front ++ "/" := by
        rw [← String.toList_inj, split, String.toList_append, String.toList_ofList]
        rfl
      rw [target_eq, place_below filled plain]
    next => rw [place_below filled plain, place_slash tree (by simpa using named)]

end Path
end OpenApiClient
