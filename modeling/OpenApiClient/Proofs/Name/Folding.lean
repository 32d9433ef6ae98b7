import OpenApiClient.Proofs.Name.Identifier

set_option autoImplicit false

namespace OpenApiClient.Name

open Text

def isLetterOrDigit (c : Char) : Bool :=
  isAsciiLower c || isAsciiUpper c || isAsciiDigit c

def letters (cs : List Char) : List Char := cs.filter isLetterOrDigit

theorem letters_cons (c : Char) (rest : List Char) :
    letters (c :: rest) = if isLetterOrDigit c then c :: letters rest else letters rest :=
  List.filter_cons

@[simp] theorem isLetterOrDigit_underscore : isLetterOrDigit '_' = false := rfl

theorem letters_plainChars (cs : List Char) : letters (plainChars cs) = letters cs := by
  induction cs with
  | nil => rfl
  | cons c rest ih =>
    rw [plainChars, List.map_cons, letters_cons, letters_cons, ← plainChars, ih]
    by_cases named : isNameChar c = true
    · simp [named]
    · have other : isLetterOrDigit c = false := by
        simp_all [isNameChar, isLetterOrDigit]
      simp [named, other]

theorem letters_splitCapitalised (afterWord : Bool) (cs : List Char) :
    letters (splitCapitalised afterWord cs) = letters cs := by
  fun_induction splitCapitalised afterWord cs with
  | case1 => rfl
  | case2 afterWord c rest small ih => simp [letters_cons, ih]
  | case3 afterWord c capital small more begins same ih => simp [letters_cons, ih]
  | case4 afterWord c capital small more begins same ih => simp [letters_cons, ih]
  | case5 afterWord c rest begins short ih => simp [letters_cons, ih]

theorem letters_splitCapital (cs : List Char) : letters (splitCapital cs) = letters cs := by
  fun_induction splitCapital cs with
  | case1 c capital rest splits ih => simp [letters_cons, ih]
  | case2 c capital rest splits ih => simp [letters_cons, ih]
  | case3 cs short => rfl

theorem letters_splitAcronym (inRun : Bool) (cs : List Char) :
    letters (splitAcronym inRun cs) = letters cs := by
  fun_induction splitAcronym inRun cs with
  | case1 inRun c small rest splits ih => simp [letters_cons, ih]
  | case2 inRun c small rest splits ih => simp [letters_cons, ih]
  | case3 inRun cs short => rfl

theorem letters_collapseUnderscores (cs : List Char) :
    letters (collapseUnderscores cs) = letters cs := by
  fun_induction collapseUnderscores cs with
  | case1 rest ih => simpa [letters_cons] using ih
  | case2 c rest single ih => simp [letters_cons, ih]
  | case3 => rfl

theorem letters_dropWhile_underscore (cs : List Char) :
    letters (cs.dropWhile (· == '_')) = letters cs := by
  induction cs with
  | nil => rfl
  | cons c rest ih =>
    by_cases underscore : c = '_'
    · subst underscore
      simpa [letters_cons] using ih
    · simp [underscore]

theorem letters_trimUnderscores (cs : List Char) : letters (trimUnderscores cs) = letters cs := by
  have reversed (ds : List Char) : letters ds.reverse = (letters ds).reverse :=
    List.filter_reverse ..
  rw [trimUnderscores, reversed, letters_dropWhile_underscore, reversed, List.reverse_reverse,
    letters_dropWhile_underscore]

theorem isLetterOrDigit_lowerChar (c : Char) :
    isLetterOrDigit (lowerChar c) = isLetterOrDigit c := by
  by_cases upper : isAsciiUpper c = true
  · simp [isLetterOrDigit, isAsciiLower_lowerChar upper, upper]
  · simp [lowerChar, upper]

theorem letters_snakeChars (cs : List Char) :
    letters (snakeChars cs) = (letters cs).map lowerChar := by
  have kept : isLetterOrDigit ∘ lowerChar = isLetterOrDigit := funext isLetterOrDigit_lowerChar
  have folded (ds : List Char) : letters (ds.map lowerChar) = (letters ds).map lowerChar := by
    rw [letters, letters, List.filter_map, kept]
  rw [snakeChars, folded, letters_trimUnderscores, letters_collapseUnderscores,
    letters_splitAcronym, letters_splitCapital, letters_splitCapitalised, letters_plainChars]

theorem isLetterOrDigit_of_isFoldedChar {c : Char} (folded : isFoldedChar c = true)
    (other : c ≠ '_') : isLetterOrDigit c = true := by
  simp only [isFoldedChar, isLetterOrDigit, Bool.or_eq_true, beq_iff_eq] at *
  tauto

theorem flatten_separated (separator : Char) (cs : List Char) :
    (separated separator cs).flatten = cs.filter (· ≠ separator) := by
  induction cs with
  | nil => rfl
  | cons c rest ih =>
    by_cases here : c = separator
    · simp [separated, here, ih]
    · simp only [separated, here, if_false]
      split
      next nothing => exact absurd nothing (separated_ne_nil _ _)
      next piece more found => simp_all

theorem flatten_words (cs : List Char) :
    (separated '_' (snakeChars cs)).flatten = (letters cs).map lowerChar := by
  rw [flatten_separated, ← letters_snakeChars]
  refine List.filter_congr fun c member => ?_
  have folded := isFoldedChar_of_mem_snakeChars member
  by_cases underscore : c = '_'
  · subst underscore
    decide
  · simp [underscore, isLetterOrDigit_of_isFoldedChar folded underscore]

theorem length_flatMap_capitalise (words : List (List Char)) :
    (words.flatMap capitalise).length = words.flatten.length := by
  induction words with
  | nil => rfl
  | cons word rest ih => cases word <;> simp [capitalise, ih]

theorem head?_flatMap_capitalise (words : List (List Char)) :
    (words.flatMap capitalise).head? = words.flatten.head?.map upperChar := by
  induction words with
  | nil => rfl
  | cons word rest ih =>
    cases word with
    | nil => simpa [capitalise] using ih
    | cons c more => simp [capitalise]

def beginsWithoutLetter (cs : List Char) : Bool := (letters cs).head?.all isAsciiDigit

theorem toNat_upperChar {c : Char} (lower : isAsciiLower c = true) :
    (upperChar c).toNat = c.toNat - 32 := by
  have range := isAsciiLower_iff.mp lower
  have valid : (c.toNat - 32).isValidChar := .inl (by omega)
  rw [upperChar, if_pos lower, Char.ofNat, dif_pos valid]
  rfl

theorem isAsciiUpper_upperChar {c : Char} (lower : isAsciiLower c = true) :
    isAsciiUpper (upperChar c) = true := by
  have range := isAsciiLower_iff.mp lower
  rw [isAsciiUpper_iff, toNat_upperChar lower]
  omega

theorem isAsciiDigit_lowerChar (c : Char) : isAsciiDigit (lowerChar c) = isAsciiDigit c := by
  by_cases upper : isAsciiUpper c = true
  · rw [isAsciiDigit_of_isAsciiLower (isAsciiLower_lowerChar upper),
      isAsciiDigit_of_isAsciiUpper upper]
  · simp [lowerChar, upper]

theorem isAsciiDigit_upperChar (c : Char) : isAsciiDigit (upperChar c) = isAsciiDigit c := by
  by_cases lower : isAsciiLower c = true
  · rw [isAsciiDigit_of_isAsciiUpper (isAsciiUpper_upperChar lower),
      isAsciiDigit_of_isAsciiLower lower]
  · simp [upperChar, lower]

theorem length_pascalChars (cs : List Char) :
    (pascalChars cs).length =
      (letters cs).length + if beginsWithoutLetter cs then "Model".toList.length else 0 := by
  have size := length_flatMap_capitalise (separated '_' (snakeChars cs))
  have head := head?_flatMap_capitalise (separated '_' (snakeChars cs))
  rw [flatten_words, List.length_map] at size
  rw [flatten_words, List.head?_map, Option.map_map] at head
  -- Neither lowering nor capitalising makes a digit of a letter or a letter of a digit.
  have begins : ((separated '_' (snakeChars cs)).flatMap capitalise).head?.all isAsciiDigit =
      beginsWithoutLetter cs := by
    rw [head, beginsWithoutLetter]
    cases (letters cs).head? <;> simp [isAsciiDigit_upperChar, isAsciiDigit_lowerChar]
  rw [← begins, ← size, pascalChars]
  cases (separated '_' (snakeChars cs)).flatMap capitalise with
  | nil => rfl
  | cons first rest =>
    by_cases digit : isAsciiDigit first = true
    · simp [startsWithDigit, digit]
    · simp [startsWithDigit, digit]

theorem isNameChar_upperChar {c : Char} (named : isNameChar c = true) :
    isNameChar (upperChar c) = true := by
  by_cases lower : Text.isAsciiLower c = true
  · simp [isNameChar, isAsciiUpper_upperChar lower]
  · simpa [upperChar, lower] using named

theorem isNameChar_of_mem_capitalise {word : List Char}
    (named : ∀ c ∈ word, isNameChar c = true) : ∀ c ∈ capitalise word, isNameChar c = true := by
  cases word with
  | nil => exact named
  | cons first rest =>
    obtain ⟨here, behind⟩ := List.forall_mem_cons.mp named
    exact List.forall_mem_cons.mpr ⟨isNameChar_upperChar here, behind⟩

theorem isNameChar_of_mem_pascalChars {cs : List Char} {c : Char} (member : c ∈ pascalChars cs) :
    isNameChar c = true := by
  have ahead : ∀ c ∈ "Model".toList, isNameChar c = true := List.all_eq_true.mp (by decide)
  have joined : ∀ c ∈ (separated '_' (snakeChars cs)).flatMap capitalise,
      isNameChar c = true := by
    refine List.forall_mem_flatMap.mpr fun word inside => isNameChar_of_mem_capitalise ?_
    intro c here
    have kept : c ∈ (separated '_' (snakeChars cs)).flatten :=
      List.mem_flatten.mpr ⟨word, inside, here⟩
    rw [flatten_separated] at kept
    exact isNameChar_of_isFoldedChar (isFoldedChar_of_mem_snakeChars (List.mem_filter.mp kept).1)
  rw [pascalChars] at member
  split at member
  next => exact ahead c member
  next =>
    split at member
    next => exact List.forall_mem_append.mpr ⟨ahead, joined⟩ c member
    next => exact joined c member

end OpenApiClient.Name
