import OpenApiClient.Proofs.Name.Folding

set_option autoImplicit false

namespace OpenApiClient.Name

open Text

def uncapitalised (cs : List Char) : List Char :=
  cs.flatMap fun c => if isAsciiUpper c then ['_', lowerChar c] else [c]

def closeGaps : List Char → List Char
  | [] => []
  | c :: rest =>
      if c = '_' ∧ rest.head?.any isAsciiLower = false then closeGaps rest
      else c :: closeGaps rest

theorem isAsciiUpper_of_isFoldedChar {c : Char} (folded : isFoldedChar c = true) :
    isAsciiUpper c = false := by
  simp only [isFoldedChar, Bool.or_eq_true, beq_iff_eq, isAsciiLower_iff,
    isAsciiDigit_iff] at folded
  rw [Bool.eq_false_iff, Ne, isAsciiUpper_iff]
  rcases folded with (lower | digit) | rfl
  · omega
  · omega
  · decide

theorem lowerChar_upperChar {c : Char} (lower : isAsciiLower c = true) :
    lowerChar (upperChar c) = c := by
  have range := isAsciiLower_iff.mp lower
  apply Char.toNat_inj.mp
  rw [toNat_lowerChar (isAsciiUpper_upperChar lower), toNat_upperChar lower]
  omega

theorem upperChar_lowerChar {c : Char} (upper : isAsciiUpper c = true) :
    upperChar (lowerChar c) = c := by
  have range := isAsciiUpper_iff.mp upper
  apply Char.toNat_inj.mp
  rw [toNat_upperChar (isAsciiLower_lowerChar upper), toNat_lowerChar upper]
  omega

theorem uncapitalised_cons (c : Char) (rest : List Char) :
    uncapitalised (c :: rest) =
      (if isAsciiUpper c then ['_', lowerChar c] else [c]) ++ uncapitalised rest := rfl

theorem uncapitalised_cons_upperChar {c : Char} (folded : isFoldedChar c = true)
    (rest : List Char) :
    uncapitalised (upperChar c :: rest) =
      (if isAsciiLower c then ['_', c] else [c]) ++ uncapitalised rest := by
  by_cases lower : isAsciiLower c = true
  · simp [uncapitalised_cons, lower, isAsciiUpper_upperChar, lowerChar_upperChar]
  · simp [uncapitalised_cons, lower, upperChar, isAsciiUpper_of_isFoldedChar folded]

theorem closeGaps_cons_of_ne {c : Char} (other : c ≠ '_') (rest : List Char) :
    closeGaps (c :: rest) = c :: closeGaps rest := by
  simp [closeGaps, other]

theorem closeGaps_underscore (cs : List Char) :
    closeGaps ('_' :: cs) =
      if cs.head?.any isAsciiLower then '_' :: closeGaps cs else closeGaps cs := by
  by_cases lower : cs.head?.any isAsciiLower = true <;> simp [closeGaps, lower]

theorem head?_closeGaps {cs : List Char} (trimmed : ∀ first rest, cs = first :: rest → first ≠ '_')
    (other : ¬ cs.head?.any isAsciiLower = true) :
    ¬ (closeGaps cs).head?.any isAsciiLower = true ∧ (closeGaps cs).head? ≠ some '_' := by
  cases cs with
  | nil => simp [closeGaps]
  | cons first rest =>
    have plain := trimmed first rest rfl
    rw [closeGaps_cons_of_ne plain]
    exact ⟨other, by simpa using plain⟩

theorem uncapitalised_words {cs : List Char} (folded : ∀ c ∈ cs, isFoldedChar c = true) :
    uncapitalised ((separated '_' cs).flatMap capitalise) = closeGaps ('_' :: cs) ∧
      ∀ piece more, separated '_' cs = piece :: more →
        uncapitalised (piece ++ more.flatMap capitalise) = closeGaps cs := by
  induction cs with
  | nil =>
    refine ⟨rfl, fun piece more pieces => ?_⟩
    obtain ⟨rfl, rfl⟩ := List.cons.inj pieces
    rfl
  | cons c rest ih =>
    obtain ⟨here, behind⟩ := List.forall_mem_cons.mp folded
    obtain ⟨words, tail⟩ := ih behind
    -- An underscore ends a word without characters; any other character goes before the first word.
    by_cases underscore : c = '_'
    · subst underscore
      have split : separated '_' ('_' :: rest) = [] :: separated '_' rest := by simp [separated]
      have double : closeGaps ('_' :: '_' :: rest) = closeGaps ('_' :: rest) := by
        rw [closeGaps_underscore ('_' :: rest)]
        rfl
      refine ⟨?_, fun piece more pieces => ?_⟩
      · rw [split, double, ← words]
        rfl
      · rw [split] at pieces
        obtain ⟨rfl, rfl⟩ := List.cons.inj pieces
        exact words
    · obtain ⟨first, others, pieces⟩ := List.exists_cons_of_ne_nil (separated_ne_nil '_' rest)
      have split : separated '_' (c :: rest) = (c :: first) :: others := by
        simp [separated, underscore, pieces]
      have continued := tail first others pieces
      refine ⟨?_, fun piece more found => ?_⟩
      · rw [split, List.flatMap_cons, capitalise, List.cons_append,
          uncapitalised_cons_upperChar here, continued, closeGaps_underscore,
          closeGaps_cons_of_ne underscore]
        by_cases lower : isAsciiLower c = true <;> simp [lower]
      · rw [split] at found
        obtain ⟨rfl, rfl⟩ := List.cons.inj found
        rw [List.cons_append, uncapitalised_cons, isAsciiUpper_of_isFoldedChar here, continued,
          closeGaps_cons_of_ne underscore]
        rfl

theorem uncapitalised_inj {first second : List Char} (firstPlain : '_' ∉ first)
    (secondPlain : '_' ∉ second) (same : uncapitalised first = uncapitalised second) :
    first = second := by
  induction first generalizing second with
  | nil =>
    cases second with
    | nil => rfl
    | cons d more =>
      rw [uncapitalised_cons] at same
      split at same <;> cases same
  | cons c rest ih =>
    obtain ⟨here, behind⟩ := not_or.mp (List.mem_cons.not.mp firstPlain)
    cases second with
    | nil =>
      rw [uncapitalised_cons] at same
      split at same <;> cases same
    | cons d more =>
      obtain ⟨there, beyond⟩ := not_or.mp (List.mem_cons.not.mp secondPlain)
      rw [uncapitalised_cons, uncapitalised_cons] at same
      -- An underscore tells a capital from every other character.
      by_cases upper : isAsciiUpper c = true <;> by_cases other : isAsciiUpper d = true <;>
        simp only [upper, other, if_true, if_false, Bool.false_eq_true, List.cons_append,
          List.nil_append, List.cons.injEq, true_and] at same
      · obtain ⟨letter, tail⟩ := same
        rw [← upperChar_lowerChar upper, letter, upperChar_lowerChar other, ih behind beyond tail]
      · exact absurd same.1 there
      · exact absurd same.1.symm here
      · rw [same.1, ih behind beyond same.2]

theorem underscore_not_mem_words (cs : List Char) :
    '_' ∉ (separated '_' cs).flatMap capitalise := by
  intro member
  obtain ⟨word, inside, here⟩ := List.mem_flatMap.mp member
  have plain := not_mem_of_mem_separated inside
  cases word with
  | nil => cases here
  | cons c rest =>
    obtain ⟨first, behind⟩ := not_or.mp (List.mem_cons.not.mp plain)
    rcases List.mem_cons.mp here with same | tail
    · by_cases lower : isAsciiLower c = true
      · have upper := isAsciiUpper_upperChar lower
        rw [← same] at upper
        exact absurd upper (by decide)
      · exact first (by simpa [upperChar, lower] using same)
    · exact behind tail

theorem isAsciiUpper_head_pascalChars (cs : List Char) :
    (pascalChars cs).head?.any isAsciiUpper = true := by
  have head := head?_flatMap_capitalise (separated '_' (snakeChars cs))
  rw [flatten_words, List.head?_map, Option.map_map] at head
  rw [pascalChars]
  split
  next => decide
  next filled =>
    split
    next => rfl
    next digit =>
      cases joined : (separated '_' (snakeChars cs)).flatMap capitalise with
      | nil => simp [joined] at filled
      | cons first rest =>
        -- It is a letter or digit put in upper case, and digits have had a word put before them.
        rw [joined, List.head?_cons] at head
        obtain ⟨letter, begins, same⟩ := Option.map_eq_some_iff.mp head.symm
        have kept : isLetterOrDigit letter = true :=
          (List.mem_filter.mp (List.mem_of_mem_head? begins)).2
        have notDigit : isAsciiDigit letter = false := by
          rw [joined, startsWithDigit, ← same, Function.comp_apply, isAsciiDigit_upperChar,
            isAsciiDigit_lowerChar, Bool.not_eq_true] at digit
          exact digit
        rw [List.head?_cons, Option.any_some, ← same, Function.comp_apply]
        simp only [isLetterOrDigit, notDigit, Bool.or_false, Bool.or_eq_true] at kept
        by_cases upper : isAsciiUpper letter = true
        · rwa [upperChar_lowerChar upper]
        · have lower := kept.resolve_right upper
          simpa [lowerChar, upper] using isAsciiUpper_upperChar lower

theorem isIdentifier_pascal (name : String) : IsIdentifier (pascal name) := by
  have capital := isAsciiUpper_head_pascalChars name.toList
  have named : ∀ c ∈ pascalChars name.toList, isNameChar c = true :=
    fun c => isNameChar_of_mem_pascalChars
  cases chars : pascalChars name.toList with
  | nil => simp [chars] at capital
  | cons first rest =>
    rw [chars] at capital named
    obtain ⟨here, behind⟩ := List.forall_mem_cons.mp named
    refine ⟨first, rest, ?_, here, isAsciiDigit_of_isAsciiUpper (by simpa using capital), behind⟩
    rw [pascal, String.toList_ofList, chars]

/-- The name of a schema as far as its class depends on it. -/
def classKey (name : String) : String := String.ofList (closeGaps (snakeChars name.toList))

structure IsClassWord (word : String) : Prop where
  capital : word.toList.head?.any isAsciiUpper = true
  plain : '_' ∉ word.toList
  own : "Model".toList.isPrefixOf word.toList = false

instance (word : String) : Decidable (IsClassWord word) :=
  decidable_of_iff (word.toList.head?.any isAsciiUpper = true ∧ '_' ∉ word.toList ∧
      "Model".toList.isPrefixOf word.toList = false)
    ⟨fun word => ⟨word.1, word.2.1, word.2.2⟩, fun word => ⟨word.capital, word.plain, word.own⟩⟩

def keyOfClass (word : String) : String := String.ofList ((uncapitalised word.toList).drop 1)

theorem pascalChars_eq_iff {word : List Char} (capital : word.head?.any isAsciiUpper = true)
    (own : "Model".toList.isPrefixOf word = false) (cs : List Char) :
    pascalChars cs = word ↔ (separated '_' (snakeChars cs)).flatMap capitalise = word := by
  -- So the word is not one that `Model` has been put before.
  have ahead (rest : List Char) : "Model".toList ++ rest ≠ word := by
    rintro rfl
    rw [List.isPrefixOf_iff_prefix.mpr (List.prefix_append _ rest)] at own
    cases own
  rw [pascalChars]
  split
  next nothing =>
    rw [List.isEmpty_iff.mp nothing]
    refine iff_of_false (by simpa using ahead []) ?_
    rintro rfl
    cases capital
  next =>
    split
    next digit =>
      refine iff_of_false (ahead _) ?_
      rintro rfl
      cases joined : (separated '_' (snakeChars cs)).flatMap capitalise with
      | nil =>
        rw [joined] at digit
        cases digit
      | cons c rest =>
        rw [joined] at digit capital
        rw [startsWithDigit, isAsciiDigit_of_isAsciiUpper (by simpa using capital)] at digit
        cases digit
    next => exact Iff.rfl

theorem pascal_eq_iff {word : String} (isWord : IsClassWord word) (name : String) :
    pascal name = word ↔ classKey name = keyOfClass word := by
  have folded : ∀ c ∈ snakeChars name.toList, isFoldedChar c = true :=
    fun c => isFoldedChar_of_mem_snakeChars
  have words := (uncapitalised_words folded).1
  obtain ⟨first, rest, text⟩ : ∃ first rest, word.toList = first :: rest := by
    cases chars : word.toList with
    | nil => simpa [chars] using isWord.capital
    | cons first rest => exact ⟨first, rest, rfl⟩
  have upper : isAsciiUpper first = true := by simpa [text] using isWord.capital
  have spelled : uncapitalised word.toList = '_' :: (uncapitalised word.toList).drop 1 := by
    simp [text, uncapitalised_cons, upper]
  have small : ((uncapitalised word.toList).drop 1).head?.any isAsciiLower = true := by
    simp [text, uncapitalised_cons, upper, isAsciiLower_lowerChar]
  have chars : pascal name = word ↔ pascalChars name.toList = word.toList := by
    rw [pascal, ← String.toList_inj, String.toList_ofList]
  rw [chars, pascalChars_eq_iff isWord.capital isWord.own, classKey, keyOfClass,
    String.ofList_inj]
  calc (separated '_' (snakeChars name.toList)).flatMap capitalise = word.toList
      ↔ closeGaps ('_' :: snakeChars name.toList) = uncapitalised word.toList := by
        rw [← words]
        exact ⟨congrArg uncapitalised,
          uncapitalised_inj (underscore_not_mem_words _) isWord.plain⟩
    _ ↔ closeGaps (snakeChars name.toList) = (uncapitalised word.toList).drop 1 := by
        rw [spelled, closeGaps_underscore]
        split
        next => simp
        next digit =>
          -- A name that begins with no letter has a key that begins with none.
          have head := head?_closeGaps (fun _ _ => head_snakeChars) digit
          refine iff_of_false ?_ ?_ <;> intro same <;> rw [same] at head
          · exact head.2 rfl
          · exact absurd small head.1

theorem pascal_mem_iff {words : List String}
    (classes : ∀ word ∈ words, word.toList.head?.any isAsciiUpper = true → IsClassWord word)
    (name : String) :
    pascal name ∈ words ↔
      classKey name ∈
        (words.filter fun word => word.toList.head?.any isAsciiUpper).map keyOfClass := by
  have capital : (pascal name).toList.head?.any isAsciiUpper = true := by
    rw [pascal, String.toList_ofList]
    exact isAsciiUpper_head_pascalChars name.toList
  constructor
  · intro member
    have isWord := classes _ member capital
    exact List.mem_map.mpr ⟨_, List.mem_filter.mpr ⟨member, capital⟩,
      ((pascal_eq_iff isWord name).mp rfl).symm⟩
  · intro member
    obtain ⟨word, inside, same⟩ := List.mem_map.mp member
    obtain ⟨listed, upper⟩ := List.mem_filter.mp inside
    rwa [(pascal_eq_iff (classes word listed upper) name).mpr same.symm]

end OpenApiClient.Name
