import OpenApiClient.Proofs.Name.Folding

set_option autoImplicit false

namespace OpenApiClient.Name

open Text

/-- What stands between the underscores of a text, as far as there is anything. -/
def wordsOf (cs : List Char) : List (List Char) :=
  (separated '_' cs).filter fun word => !word.isEmpty

theorem wordsOf_append (cs rest : List Char) :
    wordsOf (cs ++ '_' :: rest) = wordsOf cs ++ wordsOf rest := by
  simp [wordsOf, separated_at]

theorem wordsOf_dropWhile (cs : List Char) : wordsOf (cs.dropWhile (· == '_')) = wordsOf cs := by
  induction cs with
  | nil => rfl
  | cons c rest ih =>
    by_cases underscore : c = '_'
    · subst underscore
      have behind : wordsOf ('_' :: rest) = wordsOf rest := wordsOf_append [] rest
      simpa [behind] using ih
    · simp [underscore]

theorem mem_of_mem_wordsOf {cs word : List Char} {c : Char} (inside : word ∈ wordsOf cs)
    (member : c ∈ word) : c ∈ cs ∧ c ≠ '_' := by
  have kept : c ∈ (separated '_' cs).flatten :=
    List.mem_flatten.mpr ⟨word, (List.mem_filter.mp inside).1, member⟩
  rw [flatten_separated] at kept
  simpa using kept

theorem separated_head {separator c : Char} {rest : List Char} {more : List (List Char)}
    (found : separated separator (c :: rest) = [] :: more) : c = separator := by
  by_contra other
  obtain ⟨first, others, pieces⟩ := List.exists_cons_of_ne_nil (separated_ne_nil separator rest)
  simp [separated, other, pieces] at found

theorem rdropWhile_cons (isOuter : Char → Bool) (c : Char) (cs : List Char) :
    (c :: cs).rdropWhile isOuter =
      if cs.rdropWhile isOuter = [] then [c].rdropWhile isOuter
      else c :: cs.rdropWhile isOuter := by
  by_cases nothing : cs.reverse.dropWhile isOuter = [] <;>
    simp [List.rdropWhile, List.dropWhile_append, nothing]

theorem dropWhile_collapseUnderscores (cs : List Char) :
    (collapseUnderscores cs).dropWhile (· == '_') =
      collapseUnderscores (cs.dropWhile (· == '_')) := by
  fun_induction collapseUnderscores cs with
  | case1 rest ih => simpa using ih
  | case2 c rest single ih =>
    by_cases underscore : c = '_'
    · simpa [underscore] using ih
    · rw [List.dropWhile_cons_of_neg (by simpa using underscore),
        List.dropWhile_cons_of_neg (by simpa using underscore), collapseUnderscores]
      exact single
  | case3 => rfl

theorem rdropWhile_collapseUnderscores {cs piece : List Char} {more : List (List Char)}
    (pieces : separated '_' cs = piece :: more) :
    (collapseUnderscores cs).rdropWhile (· == '_') =
      piece ++ (more.filter fun word => !word.isEmpty).flatMap ('_' :: ·) := by
  fun_induction collapseUnderscores cs generalizing piece more with
  | case1 rest ih =>
    have tail := @ih [] (separated '_' rest) (by simp [separated])
    obtain ⟨rfl, rfl⟩ : [] = piece ∧ [] :: separated '_' rest = more := by
      simpa [separated] using pieces
    simpa using tail
  | case2 c rest single ih =>
    obtain ⟨first, others, found⟩ := List.exists_cons_of_ne_nil (separated_ne_nil '_' rest)
    rw [rdropWhile_cons, ih found]
    by_cases underscore : c = '_'
    · subst underscore
      obtain ⟨rfl, rfl⟩ : [] = piece ∧ separated '_' rest = more := by
        simpa [separated] using pieces
      rw [found]
      -- Behind a single underscore the text ends or a word begins.
      cases rest with
      | nil =>
        obtain ⟨rfl, rfl⟩ : [] = first ∧ [] = others := by simpa [separated] using found
        rfl
      | cons d more =>
        have filled : first ≠ [] := by
          rintro rfl
          exact single more rfl (congrArg (· :: more) (separated_head found))
        simp [filled]
    · obtain ⟨rfl, rfl⟩ : c :: first = piece ∧ others = more := by
        simpa [separated, underscore, found] using pieces
      split
      next nothing =>
        obtain ⟨rfl, none⟩ := List.append_eq_nil_iff.mp nothing
        simp [none, underscore]
      next => rfl
  | case3 =>
    obtain ⟨rfl, rfl⟩ : [] = piece ∧ [] = more := by simpa [separated] using pieces
    rfl

theorem trimUnderscores_collapseUnderscores (cs : List Char) :
    trimUnderscores (collapseUnderscores cs) = ['_'].intercalate (wordsOf cs) := by
  have flattened (word : List Char) (words : List (List Char)) :
      ['_'].intercalate (word :: words) = word ++ words.flatMap ('_' :: ·) := by
    induction words generalizing word with
    | nil => simp
    | cons next words ih => simp [ih]
  have head := List.head?_dropWhile_not (fun c : Char => c == '_') cs
  rw [trimUnderscores_eq, dropWhile_collapseUnderscores, ← wordsOf_dropWhile]
  cases text : cs.dropWhile (· == '_') with
  | nil => rfl
  | cons c rest =>
    obtain ⟨piece, more, pieces⟩ :=
      List.exists_cons_of_ne_nil (separated_ne_nil '_' (c :: rest))
    have filled : piece ≠ [] := by
      rintro rfl
      rw [text] at head
      simp [separated_head pieces] at head
    rw [rdropWhile_collapseUnderscores pieces, wordsOf, pieces, List.filter_cons_of_pos (by simpa),
      flattened]

end OpenApiClient.Name
