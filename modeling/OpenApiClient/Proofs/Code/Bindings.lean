import OpenApiClient.Client.Servers
import OpenApiClient.Proofs.Name.Identifier

set_option autoImplicit false

namespace OpenApiClient

namespace Name

theorem IsIdentifier.chars {name : String} (identifier : IsIdentifier name) :
    ∀ c ∈ name.toList, isNameChar c = true := by
  obtain ⟨first, rest, text, named, _, tail⟩ := identifier
  rw [text]
  exact List.forall_mem_cons.mpr ⟨named, tail⟩

theorem IsIdentifier.toList_ne_nil {name : String} (identifier : IsIdentifier name) :
    name.toList ≠ [] := by
  obtain ⟨first, rest, text, _⟩ := identifier
  rw [text]
  exact List.cons_ne_nil _ _

end Name

namespace Code

open Name

def nameRuns (cs : List Char) : List String :=
  ((cs.splitOnP fun c => !isNameChar c).filter fun run => !run.isEmpty).map String.ofList

@[simp] theorem nameRuns_nil : nameRuns [] = [] := rfl

theorem nameRuns_gap {gap : List Char} (others : gap.any isNameChar = false)
    (rest : List Char) : nameRuns (gap ++ rest) = nameRuns rest := by
  induction gap with
  | nil => rfl
  | cons c more ih =>
    obtain ⟨here, behind⟩ := Bool.or_eq_false_iff.mp others
    have split := List.splitOnP_append_cons (p := fun c => !isNameChar c) [] (more ++ rest)
      (show (!isNameChar c) = true by rw [here]; rfl)
    rw [← ih behind, nameRuns, nameRuns]
    exact congrArg (fun runs => List.map String.ofList (runs.filter fun run => !run.isEmpty)) split

theorem nameRuns_append_gap (cs : List Char) {gap : List Char} (filled : gap ≠ [])
    (others : gap.any isNameChar = false) (rest : List Char) :
    nameRuns (cs ++ (gap ++ rest)) = nameRuns cs ++ nameRuns rest := by
  cases gap with
  | nil => exact absurd rfl filled
  | cons c more =>
    obtain ⟨here, behind⟩ := Bool.or_eq_false_iff.mp others
    rw [← nameRuns_gap behind rest, nameRuns, List.cons_append,
      List.splitOnP_append_cons _ _ (by rw [here]; rfl), List.filter_append, List.map_append]
    rfl

theorem nameRuns_toList {name : String} (identifier : IsIdentifier name) :
    nameRuns name.toList = [name] := by
  have single : name.toList.splitOnP (fun c => !isNameChar c) = [name.toList] :=
    List.splitOnP_eq_singleton fun c member => by simp [identifier.chars c member]
  simp [nameRuns, single, identifier.toList_ne_nil]

theorem nameRuns_intercalate {names : List String}
    (identifiers : ∀ name ∈ names, IsIdentifier name) :
    nameRuns (String.intercalate ", " names).toList = names := by
  rw [String.toList_intercalate]
  induction names with
  | nil => rfl
  | cons name rest ih =>
    obtain ⟨here, behind⟩ := List.forall_mem_cons.mp identifiers
    cases rest with
    | nil => simpa using nameRuns_toList here
    | cons next more =>
      rw [List.map_cons, List.map_cons, List.intercalate_cons_cons, ← List.map_cons,
        List.append_assoc, nameRuns_append_gap _ (by decide) (by decide), ih behind,
        nameRuns_toList here]
      rfl

theorem nameRuns_lines {names : List String} (identifiers : ∀ name ∈ names, IsIdentifier name) :
    nameRuns (String.join (names.map fun name => "    " ++ name ++ ",\n") ++ ")").toList =
      names := by
  rw [String.toList_append, String.toList_join]
  induction names with
  | nil => rfl
  | cons name rest ih =>
    obtain ⟨here, behind⟩ := List.forall_mem_cons.mp identifiers
    rw [List.map_cons, List.flatMap_cons, String.toList_append, String.toList_append,
      List.append_assoc, List.append_assoc, List.append_assoc, nameRuns_gap (by decide),
      nameRuns_append_gap _ (by decide) (by decide), ih behind, nameRuns_toList here]
    rfl

theorem nameRuns_import (before rest : List Char) :
    nameRuns (before ++ (" import ".toList ++ rest)) =
      nameRuns before ++ "import" :: nameRuns rest := by
  have parts : " import ".toList = " ".toList ++ ("import".toList ++ " ".toList) := rfl
  rw [parts, List.append_assoc, List.append_assoc,
    nameRuns_append_gap _ (by decide) (by decide),
    nameRuns_append_gap _ (by decide) (by decide), nameRuns_toList (by decide)]
  rfl

/-- The names that an import line binds, where nothing is bound under another name. -/
def boundNames (line : String) : List String :=
  ((nameRuns line.toList).dropWhile (· ≠ "import")).drop 1

theorem boundNames_of_runs {line : String} {before names : List String}
    (runs : nameRuns line.toList = before ++ "import" :: names) (plain : "import" ∉ before) :
    boundNames line = names := by
  have dropped : before.dropWhile (· ≠ "import") = [] := by
    rw [List.dropWhile_eq_nil_iff]
    intro run member
    exact decide_eq_true fun same => plain (same ▸ member)
  rw [boundNames, runs, List.dropWhile_append, dropped]
  simp

theorem boundNames_importLine {module : String} {names : List String}
    (plain : "import" ∉ nameRuns ("from " ++ module).toList)
    (identifiers : ∀ name ∈ names, IsIdentifier name) :
    boundNames (Servers.importLine module names) = names := by
  refine boundNames_of_runs ?_ plain
  rw [Servers.importLine]
  -- A short line holds the names between commas, a long one has each on a line of its own.
  split
  next =>
    rw [String.toList_append, String.toList_append, List.append_assoc, nameRuns_import,
      nameRuns_intercalate identifiers]
  next =>
    have opened : " import (\n".toList = " import ".toList ++ "(\n".toList := rfl
    rw [String.append_assoc, String.toList_append, String.toList_append, List.append_assoc, opened,
      List.append_assoc, nameRuns_import, nameRuns_gap (by decide), nameRuns_lines identifiers]

def File.boundNames (file : File) : List String := file.imports.flatMap Code.boundNames

def everySecond {α : Type} : List α → List α
  | [] => []
  | [_] => []
  | _ :: second :: rest => second :: everySecond rest

def quotedTexts (code : String) : List String :=
  (everySecond (Text.separated '"' code.toList)).map String.ofList

theorem everySecond_separated {before text rest : List Char} (plain : '"' ∉ before)
    (unquoted : '"' ∉ text) :
    everySecond (Text.separated '"' (before ++ '"' :: (text ++ '"' :: rest))) =
      text :: everySecond (Text.separated '"' rest) := by
  rw [Text.separated_append _ plain, Text.separated_append _ unquoted, everySecond]

theorem literalChar_of_isNameChar {c : Char} (named : isNameChar c = true) :
    Json.literalChar c = [c] := by
  have range : (48 ≤ c.toNat ∧ c.toNat ≤ 57) ∨ (97 ≤ c.toNat ∧ c.toNat ≤ 122) ∨
      (65 ≤ c.toNat ∧ c.toNat ≤ 90) ∨ c.toNat = 95 := by
    simp only [isNameChar, Bool.or_eq_true, beq_iff_eq] at named
    rcases named with ((digit | lower) | upper) | rfl
    · exact .inl (Text.isAsciiDigit_iff.mp digit)
    · exact .inr (.inl (Text.isAsciiLower_iff.mp lower))
    · exact .inr (.inr (.inl (Text.isAsciiUpper_iff.mp upper)))
    · exact .inr (.inr (.inr rfl))
  have escapes : ∀ entry ∈ Json.shortEscapes, isNameChar entry.1 = false := by decide
  have form := Json.literalChar_form c
  generalize Json.literalChar c = written at form ⊢
  cases form with
  | short escape => exact absurd named (Bool.eq_false_iff.mp (escapes _ escape))
  | shown visible bare => rfl
  | units hidden => omega

theorem literalChars_identifier {name : String} (identifier : IsIdentifier name) :
    (Json.literal name).toList = '"' :: (name.toList ++ ['"']) := by
  have same : name.toList.flatMap Json.literalChar = name.toList := by
    rw [List.flatMap_congr fun c member => literalChar_of_isNameChar (identifier.chars c member)]
    exact List.flatMap_singleton' _
  rw [Json.literal, String.toList_ofList, Json.literalChars, same]
  rfl

theorem everySecond_literals {names : List String} (identifiers : ∀ name ∈ names, IsIdentifier name)
    {before : List Char} (plain : '"' ∉ before) :
    everySecond (Text.separated '"' (before ++
      (", ".toList.intercalate ((names.map Json.literal).map String.toList) ++ "]".toList))) =
        names.map String.toList := by
  have unquoted {name : String} (identifier : IsIdentifier name) : '"' ∉ name.toList :=
    fun member => absurd (identifier.chars _ member) (by decide)
  -- What stands before a literal is the opening bracket at first and a comma later.
  induction names generalizing before with
  | nil =>
    rw [List.map_nil, List.map_nil, List.intercalate_nil,
      Text.separated_of_not_mem (by simpa using plain)]
    rfl
  | cons name rest ih =>
    obtain ⟨here, behind⟩ := List.forall_mem_cons.mp identifiers
    cases rest with
    | nil =>
      simp only [List.map_cons, List.map_nil, List.intercalate_singleton,
        literalChars_identifier here, List.cons_append, List.append_assoc]
      rw [everySecond_separated plain (unquoted here)]
      rfl
    | cons next more =>
      rw [List.map_cons, List.map_cons, List.map_cons, List.map_cons, List.intercalate_cons_cons,
        ← List.map_cons, ← List.map_cons, literalChars_identifier here]
      simp only [List.cons_append, List.append_assoc, List.nil_append]
      rw [everySecond_separated plain (unquoted here), ih behind (by decide)]
      rfl

theorem quotedTexts_literalList {names : List String}
    (identifiers : ∀ name ∈ names, IsIdentifier name) {before : String}
    (plain : '"' ∉ before.toList) :
    quotedTexts (before ++ Json.literalList names) = names := by
  have opened : '"' ∉ before.toList ++ "[".toList := by simpa using plain
  rw [quotedTexts, Json.literalList, String.toList_append, String.toList_append,
    String.toList_append, String.toList_intercalate, List.append_assoc, ← List.append_assoc]
  rw [everySecond_literals identifiers opened, List.map_map]
  simp

end Code
end OpenApiClient
