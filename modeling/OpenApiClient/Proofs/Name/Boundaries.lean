import OpenApiClient.Proofs.Name.Words
import OpenApiClient.Proofs.Text.Pattern

set_option autoImplicit false

namespace OpenApiClient.Name

open Text

def isSmallOrDigit (c : Char) : Bool := isAsciiLower c || isAsciiDigit c

theorem isSmallOrDigit_of_isAsciiUpper {c : Char} (upper : isAsciiUpper c = true) :
    isSmallOrDigit c = false := by
  simp [isSmallOrDigit, isAsciiLower_of_isAsciiUpper upper, isAsciiDigit_of_isAsciiUpper upper]

@[simp] theorem isAsciiUpper_underscore : isAsciiUpper '_' = false := rfl

section Passes

/-- Any character on the line and the capitalised word behind it. -/
def capitalisedWord : Pattern :=
  ⟨[.one (· != '\n')], [.one isAsciiUpper, .many isAsciiLower]⟩

def smallCapital : Pattern := ⟨[.one isSmallOrDigit], [.one isAsciiUpper]⟩

/-- A run of capitals, and the last of them with the small letter behind it. -/
def acronymWord : Pattern := ⟨[.many isAsciiUpper], [.one isAsciiUpper, .one isAsciiLower]⟩

theorem capitalisedWord_match? {c : Char} (plain : c ≠ '\n') (capital small : Char)
    (more : List Char) :
    capitalisedWord.match? (c :: capital :: small :: more) =
      if isAsciiUpper capital && isAsciiLower small then
        some ⟨[c], capital :: small :: more.takeWhile isAsciiLower,
          more.dropWhile isAsciiLower⟩
      else none := by
  by_cases upper : isAsciiUpper capital = true <;> by_cases lower : isAsciiLower small = true <;>
    simp [Pattern.match?, capitalisedWord, readings_one, readings_many, plain, upper, lower,
      head?_readings_many]

theorem capitalisedWord_match?_short {c : Char} {rest : List Char}
    (short : ∀ capital small more, rest ≠ capital :: small :: more) :
    capitalisedWord.match? (c :: rest) = none := by
  rcases rest with _ | ⟨d, _ | ⟨e, more⟩⟩
  · simp [Pattern.match?, capitalisedWord, readings_one]
  · simp [Pattern.match?, capitalisedWord, readings_one]
  · exact absurd rfl (short d e more)

theorem splitCapitalised_afterWord (cs : List Char) :
    splitCapitalised true cs =
      cs.takeWhile isAsciiLower ++ splitCapitalised false (cs.dropWhile isAsciiLower) := by
  induction cs with
  | nil => rfl
  | cons c rest ih =>
    by_cases lower : isAsciiLower c = true
    · rw [splitCapitalised.eq_def]
      simp [lower, ih]
    · rw [splitCapitalised.eq_def, List.dropWhile_cons_of_neg lower, splitCapitalised.eq_def false]
      simp [lower]

theorem splitCapitalised_separates (cs : List Char) (plain : ∀ c ∈ cs, c ≠ '\n') :
    capitalisedWord.Separates cs (splitCapitalised false cs) := by
  match cs with
  | [] => exact .done
  | [c] => exact .skipped (capitalisedWord_match?_short (by simp)) .done
  | [c, d] =>
    have last := splitCapitalised_separates [d] fun e member => plain e (by simp_all)
    exact .skipped (capitalisedWord_match?_short (by simp)) last
  | c :: capital :: small :: more =>
    have found := capitalisedWord_match? (plain c (by simp)) capital small more
    by_cases begins : (isAsciiUpper capital && isAsciiLower small) = true
    · -- The match takes all small letters, and the search goes on behind them.
      rw [if_pos begins] at found
      have shorter : (more.dropWhile isAsciiLower).length < more.length + 3 :=
        Pattern.length_of_match? (by decide) found
      have later := splitCapitalised_separates (more.dropWhile isAsciiLower) fun e member =>
        plain e (by simp [(more.dropWhile_sublist isAsciiLower).mem member])
      have all := Pattern.Separates.found found later
      simpa [splitCapitalised, begins, splitCapitalised_afterWord] using all
    · rw [if_neg begins] at found
      have later := splitCapitalised_separates (capital :: small :: more) fun e member =>
        plain e (List.mem_cons_of_mem _ member)
      have all := Pattern.Separates.skipped found later
      rw [splitCapitalised]
      simpa [begins] using all
termination_by cs.length

theorem splitCapital_separates (cs : List Char) : smallCapital.Separates cs (splitCapital cs) := by
  fun_induction splitCapital cs with
  | case1 c capital rest splits ih =>
    have found : smallCapital.match? (c :: capital :: rest) = some ⟨[c], [capital], rest⟩ := by
      simp_all [Pattern.match?, smallCapital, readings_one, isSmallOrDigit]
    exact .found found ih
  | case2 c capital rest splits ih =>
    have none : smallCapital.match? (c :: capital :: rest) = none := by
      by_cases small : isSmallOrDigit c = true <;>
        simp_all [Pattern.match?, smallCapital, readings_one, isSmallOrDigit]
    exact .skipped none ih
  | case3 cs short =>
    rcases cs with _ | ⟨c, _ | ⟨d, rest⟩⟩
    · exact .done
    · exact .skipped (by simp [Pattern.match?, smallCapital, readings_one]) .done
    · exact absurd rfl (short c d rest)

theorem head?_acronymWord {cs : List Char} {found : Match}
    (here : acronymWord.match? cs = some found) : cs.head?.any isAsciiUpper = true := by
  cases cs with
  | nil => simp [Pattern.match?, acronymWord] at here
  | cons c rest =>
    by_contra other
    have capital : ¬ isAsciiUpper c = true := other
    simp [Pattern.match?, acronymWord, readings_many, Part.readings, capital] at here

theorem head?_wordStart (cs : List Char) :
    (readings [.one isAsciiUpper, .one isAsciiLower] cs).head? =
      match cs with
      | capital :: small :: more =>
          if isAsciiUpper capital && isAsciiLower small then some ([capital, small], more) else none
      | _ => none := by
  rcases cs with _ | ⟨c, _ | ⟨d, more⟩⟩
  · rfl
  · simp [readings_one]
  · by_cases upper : isAsciiUpper c = true <;> by_cases lower : isAsciiLower d = true <;>
      simp [readings_one, upper, lower]

theorem splitAcronym_cons {inRun : Bool} {c : Char} {rest : List Char}
    (inside : ¬ (inRun && isAsciiUpper c && rest.head?.any isAsciiLower) = true) :
    splitAcronym inRun (c :: rest) = c :: splitAcronym (isAsciiUpper c) rest := by
  cases rest with
  | nil => rfl
  | cons small more => rw [splitAcronym, if_neg (by simpa using inside)]

theorem splitAcronym_of_match {inRun : Bool} {cs : List Char} {found : Match}
    (here : acronymWord.match? cs = some found) :
    splitAcronym inRun cs =
      found.before ++ '_' :: found.behind ++ splitAcronym false found.rest := by
  induction cs generalizing inRun found with
  | nil => simp [Pattern.match?, acronymWord] at here
  | cons c rest ih =>
    have upper : isAsciiUpper c = true := head?_acronymWord here
    rw [acronymWord, Pattern.match?_many_cons upper, ← acronymWord, head?_wordStart] at here
    -- The run goes on, or the word begins behind this capital.
    cases inner : acronymWord.match? rest with
    | some deeper =>
      have ahead : rest.head?.any isAsciiLower = false := by
        have capital := head?_acronymWord inner
        cases rest with
        | nil => rfl
        | cons d more => exact isAsciiLower_of_isAsciiUpper capital
      simp only [inner, Option.map_some, Option.some_or, Option.some.injEq] at here
      rw [splitAcronym_cons (by simp [ahead]), ih inner, ← here]
      rfl
    | none =>
      rw [inner] at here
      rcases rest with _ | ⟨capital, _ | ⟨small, more⟩⟩
      · simp at here
      · simp at here
      · by_cases begins : (isAsciiUpper capital && isAsciiLower small) = true
        · have ahead : isAsciiLower capital = false :=
            isAsciiLower_of_isAsciiUpper (Bool.and_eq_true_iff.mp begins).1
          simp only [begins, if_true, Option.map_none, Option.map_some, Option.none_or,
            Option.some.injEq] at here
          rw [splitAcronym_cons (by simp [ahead]), splitAcronym, upper, Bool.true_and,
            if_pos begins, ← here]
          rfl
        · simp [begins] at here

theorem splitAcronym_of_no_match {c : Char} {rest : List Char}
    (none : acronymWord.match? (c :: rest) = none) :
    splitAcronym false (c :: rest) = c :: splitAcronym false rest := by
  rw [splitAcronym_cons (by simp)]
  by_cases upper : isAsciiUpper c = true
  · rw [acronymWord, Pattern.match?_many_cons upper, Option.or_eq_none_iff, Option.map_eq_none_iff,
      Option.map_eq_none_iff, head?_wordStart] at none
    rw [upper]
    -- No word begins behind this capital, so it makes no difference that it is one.
    rcases rest with _ | ⟨capital, _ | ⟨small, more⟩⟩
    · rfl
    · rfl
    · have other : ¬ (isAsciiUpper capital && isAsciiLower small) = true := by
        intro begins
        simp [begins] at none
      have run : splitAcronym true (capital :: small :: more) =
          capital :: splitAcronym (isAsciiUpper capital) (small :: more) :=
        splitAcronym_cons (by simpa using other)
      have fresh : splitAcronym false (capital :: small :: more) =
          capital :: splitAcronym (isAsciiUpper capital) (small :: more) :=
        splitAcronym_cons (by simp)
      rw [run, fresh]
  · simp [upper]

theorem splitAcronym_separates (cs : List Char) :
    acronymWord.Separates cs (splitAcronym false cs) := by
  match cs with
  | [] => exact .done
  | c :: rest =>
    cases here : acronymWord.match? (c :: rest) with
    | none =>
      rw [splitAcronym_of_no_match here]
      exact .skipped here (splitAcronym_separates rest)
    | some found =>
      have shorter : found.rest.length < rest.length + 1 :=
        Pattern.length_of_match? (by decide) here
      rw [splitAcronym_of_match here]
      exact .found here (splitAcronym_separates found.rest)
termination_by cs.length

end Passes

section Neighbours

def beginsWord (cs : List Char) (i : Nat) : Bool :=
  0 < i && cs[i]?.any isAsciiUpper &&
    (cs[i - 1]?.any isSmallOrDigit || cs[i + 1]?.any isAsciiLower)

def splitWords (cs : List Char) : List Char :=
  (cs.mapIdx fun i c => if beginsWord cs i then ['_', c] else [c]).flatten

def isBoundary (before : Option Char) (c : Char) (after : Option Char) : Bool :=
  before.isSome && isAsciiUpper c && (before.any isSmallOrDigit || after.any isAsciiLower)

def splitBehind (before : Option Char) : List Char → List Char
  | [] => []
  | c :: rest =>
      (if isBoundary before c rest.head? then ['_', c] else [c]) ++ splitBehind (some c) rest

theorem beginsWord_append (front : List Char) (c : Char) (rest : List Char) :
    beginsWord (front ++ c :: rest) front.length = isBoundary front.getLast? c rest.head? := by
  have here : (front ++ c :: rest)[front.length]? = some c := by simp
  have after : (front ++ c :: rest)[front.length + 1]? = rest.head? := by
    simp [List.getElem?_append_right, List.head?_eq_getElem?]
  rw [beginsWord, here, after, isBoundary]
  rcases List.eq_nil_or_concat front with rfl | ⟨begin, last, rfl⟩
  · simp
  · simp

theorem splitWords_eq (cs : List Char) : splitWords cs = splitBehind none cs := by
  have general (front rest : List Char) (whole : front ++ rest = cs) :
      (rest.mapIdx fun i c =>
        if beginsWord cs (front.length + i) then ['_', c] else [c]).flatten =
          splitBehind front.getLast? rest := by
    induction rest generalizing front with
    | nil => rfl
    | cons c rest ih =>
      have next := ih (front ++ [c]) (by simp [whole])
      simp only [List.length_append, List.length_singleton, List.getLast?_concat, Nat.add_assoc,
        Nat.add_comm 1] at next
      rw [List.mapIdx_cons, List.flatten_cons, next, splitBehind, ← whole, Nat.add_zero,
        beginsWord_append]
  simpa [splitWords] using general [] cs rfl

theorem splitCapital_cons {c : Char} (other : isSmallOrDigit c = false) (rest : List Char) :
    splitCapital (c :: rest) = c :: splitCapital rest := by
  cases rest with
  | nil => rfl
  | cons d more =>
    rw [isSmallOrDigit] at other
    simp [splitCapital, other]

theorem splitCapital_behind (before : Option Char) (c : Char) (rest : List Char) :
    splitCapital (before.toList ++ c :: rest) =
      before.toList ++ (if isAsciiUpper c && before.any isSmallOrDigit then ['_'] else []) ++
        splitCapital (c :: rest) := by
  cases before with
  | none => simp
  | some b =>
    by_cases upper : isAsciiUpper c = true
    · by_cases small : isSmallOrDigit b = true
      · rw [splitCapital_cons (isSmallOrDigit_of_isAsciiUpper upper)]
        rw [isSmallOrDigit] at small
        simp [splitCapital, isSmallOrDigit, upper, small]
      · simp [splitCapital_cons, upper, small]
    · simp [splitCapital, upper]

def startsCapitalised (cs : List Char) : Bool :=
  cs.head?.any isAsciiUpper && cs.tail.head?.any isAsciiLower

theorem isBoundary_eq {before : Option Char} {c : Char} {rest : List Char}
    (searched : startsCapitalised (c :: rest) = true → before.all isAsciiLower = true) :
    isBoundary before c rest.head? = (isAsciiUpper c && before.any isSmallOrDigit) := by
  cases before with
  | none => simp [isBoundary]
  | some b =>
    simp only [startsCapitalised, List.head?_cons, Option.any_some, List.tail_cons,
      Option.all_some] at searched
    by_cases upper : isAsciiUpper c = true
    · by_cases lower : rest.head?.any isAsciiLower = true
      · have small := searched (by simp [upper, lower])
        simp [isBoundary, upper, isSmallOrDigit, small]
      · simp [isBoundary, upper, lower]
    · simp [isBoundary, upper]

theorem splitCapital_step {before : Option Char} {c : Char} {rest split : List Char}
    (searched : startsCapitalised (c :: rest) = true → before.all isAsciiLower = true)
    (tail : splitCapital (c :: split) = c :: splitBehind (some c) rest) :
    splitCapital (before.toList ++ c :: split) =
      before.toList ++ splitBehind before (c :: rest) := by
  rw [splitCapital_behind, tail, splitBehind, isBoundary_eq searched]
  split <;> simp

theorem splitCapital_splitCapitalised {afterWord : Bool} {cs : List Char} {before : Option Char}
    (searched : startsCapitalised cs = true → before.all isAsciiLower = true) :
    splitCapital (before.toList ++ splitCapitalised afterWord cs) =
      before.toList ++ splitBehind before cs := by
  fun_induction splitCapitalised afterWord cs generalizing before with
  | case1 => cases before <;> rfl
  | case2 afterWord c rest small ih =>
    have lower : isAsciiLower c = true := (Bool.and_eq_true_iff.mp small).2
    exact splitCapital_step searched (@ih (some c) fun _ => lower)
  | case3 afterWord c fresh capital small more begins ih =>
    obtain ⟨upper, lower⟩ := Bool.and_eq_true_iff.mp begins
    have tail := @ih (some small) fun _ => lower
    have word : splitCapital ('_' :: capital :: small :: splitCapitalised true more) =
        '_' :: capital :: small :: splitBehind (some small) more := by
      rw [splitCapital_cons (by decide), splitCapital_cons (isSmallOrDigit_of_isAsciiUpper upper)]
      exact congrArg (fun cs => '_' :: capital :: cs) tail
    have gap := splitCapital_behind (some c) '_' (capital :: small :: splitCapitalised true more)
    rw [word] at gap
    refine splitCapital_step searched ?_
    simpa [splitBehind, isBoundary, upper, lower, isAsciiUpper_of_isAsciiLower lower] using gap
  | case4 afterWord c fresh capital small more other ih =>
    exact splitCapital_step searched (@ih (some c) fun starts => absurd starts other)
  | case5 afterWord c fresh rest short ih =>
    refine splitCapital_step searched (@ih (some c) fun starts => ?_)
    rcases rest with _ | ⟨d, _ | ⟨e, more⟩⟩
    · cases starts
    · simp [startsCapitalised] at starts
    · exact (short d e more rfl).elim

theorem splitCapital_passes (cs : List Char) :
    splitCapital (splitCapitalised false cs) = splitWords cs := by
  rw [splitWords_eq]
  exact @splitCapital_splitCapitalised false cs none fun _ => rfl

theorem head?_splitBehind {before : Option Char} {cs : List Char}
    (lower : (splitBehind before cs).head?.any isAsciiLower = true) :
    cs.head?.any isAsciiLower = true := by
  cases cs with
  | nil => exact lower
  | cons c rest =>
    rw [splitBehind] at lower
    split at lower
    · cases lower
    · exact lower

theorem splitAcronym_splitBehind {inRun : Bool} {before : Option Char} (cs : List Char)
    (behind : inRun = true → before.isSome = true) :
    splitAcronym inRun (splitBehind before cs) = splitBehind before cs := by
  induction cs generalizing inRun before with
  | nil => rfl
  | cons c rest ih =>
    have tail := @ih (isAsciiUpper c) (some c) fun _ => rfl
    rw [splitBehind]
    split
    next =>
      rw [List.cons_append, List.singleton_append, splitAcronym_cons (by simp),
        splitAcronym_cons (by simp), tail]
    next inside =>
      -- A capital before a small letter would have its underscore already.
      rw [List.singleton_append, splitAcronym_cons, tail]
      intro splits
      simp only [Bool.and_eq_true] at splits
      obtain ⟨⟨run, upper⟩, lower⟩ := splits
      exact inside (by simp [isBoundary, behind run, upper, head?_splitBehind lower])

theorem splitAcronym_passes (cs : List Char) :
    splitAcronym false (splitWords cs) = splitWords cs := by
  rw [splitWords_eq]
  exact splitAcronym_splitBehind cs (by simp)

theorem snakeChars_eq (cs : List Char) :
    snakeChars cs =
      (trimUnderscores (collapseUnderscores (splitWords (plainChars cs)))).map lowerChar := by
  rw [snakeChars, splitCapital_passes, splitAcronym_passes]

end Neighbours

/-- A name whose words begin where neighbouring characters ask for it. -/
def snakeByNeighbours (name : String) : String :=
  String.ofList
    ((trimUnderscores (collapseUnderscores (splitWords (plainChars name.toList)))).map lowerChar)

theorem plainChars_on_line {cs : List Char} : ∀ c ∈ plainChars cs, c ≠ '\n' := by
  rintro c member rfl
  exact absurd (isNameChar_of_mem_plainChars member) (by decide)

theorem toList_snakeByNeighbours (name : String) :
    (snakeByNeighbours name).toList =
      (['_'].intercalate (wordsOf (splitWords (plainChars name.toList)))).map lowerChar := by
  rw [snakeByNeighbours, String.toList_ofList, trimUnderscores_collapseUnderscores]

/-- Folding looks at neighbours only. The searches for the three patterns, one after the other, find
the same words, and the last of them changes nothing. -/
theorem snake_eq_snakeByNeighbours (name : String) :
    snake name = snakeByNeighbours name ∧
      (snakeByNeighbours name).toList =
        (['_'].intercalate (wordsOf (splitWords (plainChars name.toList)))).map lowerChar ∧
      ∀ once twice thrice,
        (capitalisedWord.Separates (plainChars name.toList) once ∧
            smallCapital.Separates once twice ∧ acronymWord.Separates twice thrice) ↔
          once = splitCapitalised false (plainChars name.toList) ∧
            twice = splitWords (plainChars name.toList) ∧ thrice = twice := by
  have folds : snake name = snakeByNeighbours name := by
    rw [snake, snakeByNeighbours, snakeChars_eq]
  refine ⟨folds, toList_snakeByNeighbours name, fun once twice thrice => ?_⟩
  have first := (splitCapitalised_separates (plainChars name.toList) plainChars_on_line).iff
    (by decide) once
  have second := (splitCapital_separates once).iff (by decide) twice
  have third := (splitAcronym_separates twice).iff (by decide) thrice
  rw [first, second, third]
  constructor
  · rintro ⟨rfl, rfl, rfl⟩
    rw [splitCapital_passes]
    exact ⟨rfl, rfl, splitAcronym_passes _⟩
  · rintro ⟨rfl, rfl, rfl⟩
    rw [splitCapital_passes]
    exact ⟨rfl, rfl, (splitAcronym_passes _).symm⟩

example : splitWords "getHTTPServer2B_Id".toList = "get_HTTP_Server2_B__Id".toList := by decide

end OpenApiClient.Name
