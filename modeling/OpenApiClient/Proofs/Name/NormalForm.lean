import OpenApiClient.Proofs.Name.Boundaries
import OpenApiClient.Proofs.Name.ClassName
import OpenApiClient.Proofs.Name.Exported
import OpenApiClient.Proofs.Text.Blanks

set_option autoImplicit false

namespace OpenApiClient.Name

open Text

section Folded

structure IsWord (word : String) : Prop where
  filled : word ≠ ""
  plain : ∀ c ∈ word.toList, isSmallOrDigit c = true

/-- A name of words in small letters and digits with single underscores between them. The empty
name has no words. -/
def IsSnake (name : String) : Prop :=
  ∃ words, (∀ word ∈ words, IsWord word) ∧ name = String.intercalate "_" words

theorem wordsOf_word {word : String} (isWord : IsWord word) :
    wordsOf word.toList = [word.toList] := by
  have plain : '_' ∉ word.toList := fun inside => absurd (isWord.plain _ inside) (by decide)
  simp [wordsOf, separated_of_not_mem plain, isWord.filled]

theorem wordsOf_intercalate {words : List String} (all : ∀ word ∈ words, IsWord word) :
    wordsOf (String.intercalate "_" words).toList = words.map String.toList := by
  induction words with
  | nil => rfl
  | cons word rest ih =>
    obtain ⟨here, behind⟩ := List.forall_mem_cons.mp all
    cases rest with
    | nil => simpa using wordsOf_word here
    | cons next more =>
      have underscore : "_".toList = ['_'] := rfl
      rw [String.intercalate_cons_cons, String.toList_append, String.toList_append, underscore,
        List.append_assoc, List.singleton_append, wordsOf_append, wordsOf_word here, ih behind]
      rfl

theorem isNameChar_of_mem_splitWords {cs : List Char} {c : Char}
    (member : c ∈ splitWords (plainChars cs)) : isNameChar c = true := by
  rw [← splitCapital_passes] at member
  rcases mem_splitCapital member with rfl | inside
  · rfl
  rcases mem_splitCapitalised inside with rfl | inside
  · rfl
  exact isNameChar_of_mem_plainChars inside

theorem isSmallOrDigit_lowerChar {c : Char} (named : isNameChar c = true) (other : c ≠ '_') :
    isSmallOrDigit (lowerChar c) = true := by
  have folded := isFoldedChar_lowerChar named
  simpa [isFoldedChar, isSmallOrDigit, lowerChar_ne_underscore other] using folded

theorem map_intercalate {f : Char → Char} (kept : f '_' = '_') (words : List (List Char)) :
    (['_'].intercalate words).map f = ['_'].intercalate (words.map (·.map f)) := by
  induction words with
  | nil => rfl
  | cons word rest ih => cases rest <;> simp_all

theorem isSnake_snake (name : String) : IsSnake (snake name) := by
  let words := wordsOf (splitWords (plainChars name.toList))
  refine ⟨words.map fun word => String.ofList (word.map lowerChar), ?words, ?joined⟩
  case words =>
    refine List.forall_mem_map.mpr fun word inside => ⟨?_, ?_⟩
    · have filled := (List.mem_filter.mp inside).2
      simpa [← String.toList_inj] using filled
    · rw [String.toList_ofList]
      refine List.forall_mem_map.mpr fun c here => ?_
      obtain ⟨whole, other⟩ := mem_of_mem_wordsOf inside here
      exact isSmallOrDigit_lowerChar (isNameChar_of_mem_splitWords whole) other
  case joined =>
    rw [← String.toList_inj, snake, String.toList_ofList, snakeChars_eq,
      trimUnderscores_collapseUnderscores, map_intercalate rfl, String.toList_intercalate,
      List.map_map]
    simp [words, Function.comp_def]

theorem splitWords_of_no_capital {cs : List Char} (plain : ∀ c ∈ cs, isAsciiUpper c = false) :
    splitWords cs = cs := by
  have behind (before : Option Char) : splitBehind before cs = cs := by
    induction cs generalizing before with
    | nil => rfl
    | cons c rest ih =>
      obtain ⟨here, behind⟩ := List.forall_mem_cons.mp plain
      simp [splitBehind, isBoundary, here, ih behind (some c)]
  rw [splitWords_eq, behind]

theorem snakeChars_of_folded {cs : List Char} (folded : ∀ c ∈ cs, isFoldedChar c = true) :
    snakeChars cs = ['_'].intercalate (wordsOf cs) := by
  have capitals : ∀ c ∈ cs, isAsciiUpper c = false := fun c member =>
    isAsciiUpper_of_isFoldedChar (folded c member)
  have plain : plainChars cs = cs :=
    (List.map_congr_left fun c member =>
      if_pos (isNameChar_of_isFoldedChar (folded c member))).trans (List.map_id _)
  have lowered : ∀ c ∈ trimUnderscores (collapseUnderscores cs), lowerChar c = c := by
    intro c member
    simp [lowerChar, capitals c (mem_collapseUnderscores (mem_trimUnderscores member))]
  calc snakeChars cs = (trimUnderscores (collapseUnderscores cs)).map lowerChar := by
        rw [snakeChars_eq, plain, splitWords_of_no_capital capitals]
    _ = trimUnderscores (collapseUnderscores cs) :=
        (List.map_congr_left lowered).trans (List.map_id _)
    _ = ['_'].intercalate (wordsOf cs) := trimUnderscores_collapseUnderscores cs

namespace IsSnake

variable {name : String}

theorem folded (isSnake : IsSnake name) : ∀ c ∈ name.toList, isFoldedChar c = true := by
  obtain ⟨words, all, rfl⟩ := isSnake
  intro c member
  rcases mem_intercalate member with between | ⟨word, inside, here⟩
  · obtain rfl : c = '_' := List.mem_singleton.mp between
    rfl
  · have plain := (all word inside).plain c here
    simp_all [isFoldedChar, isSmallOrDigit]

theorem snake_eq (isSnake : IsSnake name) : snake name = name := by
  have folded := isSnake.folded
  obtain ⟨words, all, rfl⟩ := isSnake
  rw [← String.toList_inj, snake, String.toList_ofList, snakeChars_of_folded folded,
    wordsOf_intercalate all, String.toList_intercalate]
  rfl

theorem snake_append_underscore (isSnake : IsSnake name) : snake (name ++ "_") = name := by
  have chars : (name ++ "_").toList = name.toList ++ ['_'] := String.toList_append
  have folded : ∀ c ∈ name.toList ++ ['_'], isFoldedChar c = true :=
    List.forall_mem_append.mpr ⟨isSnake.folded, List.forall_mem_singleton.mpr rfl⟩
  have words : wordsOf (name.toList ++ ['_']) = wordsOf name.toList := by
    rw [wordsOf_append]
    exact List.append_nil _
  calc snake (name ++ "_") = snake name := by
        rw [snake, snake, chars, snakeChars_of_folded folded, words,
          snakeChars_of_folded isSnake.folded]
    _ = name := isSnake.snake_eq

theorem behind {opening : String} (word : IsWord opening) (isSnake : IsSnake name)
    (filled : name ≠ "") : IsSnake (opening ++ "_" ++ name) := by
  obtain ⟨words, all, rfl⟩ := isSnake
  refine ⟨opening :: words, List.forall_mem_cons.mpr ⟨word, all⟩, ?_⟩
  cases words with
  | nil => exact absurd rfl filled
  | cons first rest => rw [String.intercalate_cons_cons]

end IsSnake

end Folded

section Made

def avoided (isTaken : String → Bool) (word : String) : String :=
  if isTaken word then word ++ "_" else word

theorem identifier_eq_avoided (name : String) (extra : List String) :
    identifier name extra = avoided (isReserved · extra) (openedWord "field" name) := rfl

theorem function_eq_avoided (operationId : String) :
    function operationId = avoided isTakenName (openedWord "operation" operationId) := rfl

theorem openedWord_of_snake {name word : String} (folds : snake name = word) (filled : word ≠ "")
    (plain : beginsWithDigit word = false) (fallback : String) :
    openedWord fallback name = word := by
  have kept : snakeOr fallback name = word := by simp [snakeOr, folds, filled]
  simp [openedWord, kept, plain]

variable {fallback : String} (isWord : IsWord fallback)
include isWord

theorem isSnake_openedWord (name : String) : IsSnake (openedWord fallback name) := by
  have folded : IsSnake (snakeOr fallback name) := by
    rw [snakeOr]
    split
    next => exact ⟨[fallback], List.forall_mem_singleton.mpr isWord, by simp⟩
    next => exact isSnake_snake name
  rw [openedWord]
  split
  next digit =>
    have filled : snakeOr fallback name ≠ "" := by
      intro nothing
      rw [nothing] at digit
      cases digit
    exact folded.behind isWord filled
  next => exact folded

theorem openedWord_avoided (opens : IsFoldedWord fallback) (isTaken : String → Bool)
    (name : String) :
    openedWord fallback (avoided isTaken (openedWord fallback name)) =
      openedWord fallback name := by
  have isSnake := isSnake_openedWord isWord name
  -- Folding takes the underscore behind a taken word away, and the test puts it there again.
  have folds : snake (avoided isTaken (openedWord fallback name)) = openedWord fallback name := by
    rw [avoided]
    split
    next => exact isSnake.snake_append_underscore
    next => exact isSnake.snake_eq
  have made : IsFoldedWord (openedWord fallback name) := isFoldedWord_openedWord opens name
  obtain ⟨first, rest, text, lower, -⟩ := made
  refine openedWord_of_snake folds ?_ ?_ fallback
  · intro nothing
    rw [nothing] at text
    cases text
  · rw [beginsWithDigit, text]
    exact isAsciiDigit_of_isAsciiLower lower

end Made

theorem identifier_identifier (name : String) (extra : List String) :
    identifier (identifier name extra) extra = identifier name extra := by
  have isWord : IsWord "field" := ⟨by decide, List.all_eq_true.mp (by decide)⟩
  simp only [identifier_eq_avoided, openedWord_avoided isWord (by decide)]

theorem function_function (operationId : String) :
    function (function operationId) = function operationId := by
  have isWord : IsWord "operation" := ⟨by decide, List.all_eq_true.mp (by decide)⟩
  simp only [function_eq_avoided, openedWord_avoided isWord (by decide)]

theorem IsFoldedWord.head {name : String} (word : IsFoldedWord name) :
    name.toList.head?.any isAsciiLower = true := by
  obtain ⟨first, rest, text, lower, -⟩ := word
  simp [text, lower]

/-- Names are in normal form and stay as they are when they are made again: folded names, names of
fields and parameters, which are not reserved, and names of functions, which are not taken. -/
theorem names_normal {extra : List String} (closed : ∀ word ∈ extra, ¬ EndsOpen word)
    (name : String) :
    (IsSnake (snake name) ∧ snake (snake name) = snake name) ∧
      (IsIdentifier (identifier name extra) ∧
        (identifier name extra).toList.head?.any isAsciiLower = true ∧
        isReserved (identifier name extra) extra = false ∧
        identifier (identifier name extra) extra = identifier name extra) ∧
      IsIdentifier (function name) ∧ (function name).toList.head?.any isAsciiLower = true ∧
        isKeyword (function name) = false ∧ function name ∉ routeModuleNames ∧
        function name ∉ packageExports ∧ function (function name) = function name := by
  have field := identifier_word name extra
  have operation := function_word name
  obtain ⟨notKeyword, notModule, notExported⟩ :=
    isTakenName_eq_false_iff.mp (isTakenName_function name)
  exact ⟨⟨isSnake_snake name, (isSnake_snake name).snake_eq⟩,
    ⟨field.isIdentifier, field.head, isReserved_identifier closed name,
      identifier_identifier name extra⟩,
    operation.isIdentifier, operation.head, notKeyword, notModule, notExported,
    function_function name⟩

theorem names_normal_reserved :
    (∀ word ∈ ["field_2_fa"], ¬ EndsOpen word) ∧
      identifier "2FA" ["field_2_fa"] = "field_2_fa_" ∧
      isReserved "field_2_fa_" ["field_2_fa"] = false ∧
      identifier "field_2_fa_" ["field_2_fa"] = "field_2_fa_" ∧
      snake "field_2_fa_" = "field_2_fa" := by
  have closed : ∀ word ∈ ["field_2_fa"], ¬ EndsOpen word := by decide
  have written : identifier "2FA" ["field_2_fa"] = "field_2_fa_" := by decide +kernel
  obtain ⟨-, ⟨-, -, free, same⟩, -⟩ := names_normal closed "2FA"
  rw [written] at free same
  exact ⟨closed, written, free, same, by decide +kernel⟩

end OpenApiClient.Name
