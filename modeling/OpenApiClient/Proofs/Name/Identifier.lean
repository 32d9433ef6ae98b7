import Mathlib.Data.List.DropRight
import OpenApiClient.Name.Reserved

set_option autoImplicit false

namespace OpenApiClient.Text

theorem isAsciiLower_iff {c : Char} : isAsciiLower c = true ↔ 97 ≤ c.toNat ∧ c.toNat ≤ 122 := by
  simp only [isAsciiLower, Bool.and_eq_true, decide_eq_true_eq]
  exact Iff.rfl

theorem isAsciiUpper_iff {c : Char} : isAsciiUpper c = true ↔ 65 ≤ c.toNat ∧ c.toNat ≤ 90 := by
  simp only [isAsciiUpper, Bool.and_eq_true, decide_eq_true_eq]
  exact Iff.rfl

theorem isAsciiDigit_iff {c : Char} : isAsciiDigit c = true ↔ 48 ≤ c.toNat ∧ c.toNat ≤ 57 := by
  simp only [isAsciiDigit, Bool.and_eq_true, decide_eq_true_eq]
  exact Iff.rfl

theorem isAsciiDigit_eq_false {c : Char} (beyond : 57 < c.toNat) : isAsciiDigit c = false := by
  rw [Bool.eq_false_iff, Ne, isAsciiDigit_iff]
  omega

theorem isAsciiDigit_of_isAsciiLower {c : Char} (lower : isAsciiLower c = true) :
    isAsciiDigit c = false := by
  have range := isAsciiLower_iff.mp lower
  exact isAsciiDigit_eq_false (by omega)

theorem isAsciiDigit_of_isAsciiUpper {c : Char} (upper : isAsciiUpper c = true) :
    isAsciiDigit c = false := by
  have range := isAsciiUpper_iff.mp upper
  exact isAsciiDigit_eq_false (by omega)

theorem isAsciiLower_of_isAsciiUpper {c : Char} (upper : isAsciiUpper c = true) :
    isAsciiLower c = false := by
  have range := isAsciiUpper_iff.mp upper
  rw [Bool.eq_false_iff, Ne, isAsciiLower_iff]
  omega

theorem isAsciiUpper_of_isAsciiLower {c : Char} (lower : isAsciiLower c = true) :
    isAsciiUpper c = false := by
  have range := isAsciiLower_iff.mp lower
  rw [Bool.eq_false_iff, Ne, isAsciiUpper_iff]
  omega

end OpenApiClient.Text

namespace OpenApiClient.Name

open Text

def isFoldedChar (c : Char) : Bool :=
  isAsciiLower c || isAsciiDigit c || c == '_'

/-- A name of the generated language that is written in ASCII. -/
def IsIdentifier (name : String) : Prop :=
  ∃ first rest, name.toList = first :: rest ∧ isNameChar first = true ∧
    isAsciiDigit first = false ∧ ∀ c ∈ rest, isNameChar c = true

instance (name : String) : Decidable (IsIdentifier name) :=
  decidable_of_iff
    ((name.toList.head?.any fun first => isNameChar first && !isAsciiDigit first) &&
      name.toList.tail.all isNameChar) <| by
    rw [IsIdentifier]
    cases name.toList <;> simp [and_assoc]

theorem isNameChar_of_isFoldedChar {c : Char} (folded : isFoldedChar c = true) :
    isNameChar c = true := by
  simp only [isFoldedChar, isNameChar, Bool.or_eq_true] at *
  tauto

theorem isNameChar_of_mem_plainChars {cs : List Char} {c : Char} (member : c ∈ plainChars cs) :
    isNameChar c = true := by
  obtain ⟨d, _, rfl⟩ := List.mem_map.mp member
  split
  next named => exact named
  next => rfl

theorem mem_splitCapitalised {afterWord : Bool} {cs : List Char} {c : Char}
    (member : c ∈ splitCapitalised afterWord cs) : c = '_' ∨ c ∈ cs := by
  fun_induction splitCapitalised afterWord cs with
  | case1 => simp at member
  | case2 afterWord d rest small ih => grind
  | case3 afterWord d capital small more begins same ih => grind
  | case4 afterWord d capital small more begins same ih => grind
  | case5 afterWord d rest begins short ih => grind

theorem mem_splitCapital {cs : List Char} {c : Char} (member : c ∈ splitCapital cs) :
    c = '_' ∨ c ∈ cs := by
  fun_induction splitCapital cs with
  | case1 d capital rest splits ih => grind
  | case2 d capital rest splits ih => grind
  | case3 cs short => exact .inr member

theorem mem_splitAcronym {inRun : Bool} {cs : List Char} {c : Char}
    (member : c ∈ splitAcronym inRun cs) : c = '_' ∨ c ∈ cs := by
  fun_induction splitAcronym inRun cs with
  | case1 inRun d small rest splits ih => grind
  | case2 inRun d small rest splits ih => grind
  | case3 inRun cs short => exact .inr member

theorem mem_collapseUnderscores {cs : List Char} {c : Char}
    (member : c ∈ collapseUnderscores cs) : c ∈ cs := by
  fun_induction collapseUnderscores cs with
  | case1 rest ih => grind
  | case2 d rest single ih => grind
  | case3 => simp at member

theorem trimUnderscores_eq (cs : List Char) :
    trimUnderscores cs = (cs.dropWhile (· == '_')).rdropWhile (· == '_') := rfl

theorem mem_trimUnderscores {cs : List Char} {c : Char} (member : c ∈ trimUnderscores cs) :
    c ∈ cs := by
  rw [trimUnderscores_eq] at member
  exact (List.dropWhile_sublist _).mem ((List.rdropWhile_prefix _ _).mem member)

theorem head_trimUnderscores {cs rest : List Char} {first : Char}
    (trimmed : trimUnderscores cs = first :: rest) : first ≠ '_' := by
  rw [trimUnderscores_eq] at trimmed
  have starts := List.rdropWhile_prefix (fun c : Char => c == '_') (cs.dropWhile (· == '_'))
  rw [trimmed] at starts
  obtain ⟨more, whole⟩ := starts
  have head := List.head?_dropWhile_not (fun c : Char => c == '_') cs
  rw [← whole] at head
  simpa using head

theorem toNat_lowerChar {c : Char} (upper : isAsciiUpper c = true) :
    (lowerChar c).toNat = c.toNat + 32 := by
  have range := isAsciiUpper_iff.mp upper
  have valid : (c.toNat + 32).isValidChar := .inl (by omega)
  rw [lowerChar, if_pos upper, Char.ofNat, dif_pos valid]
  rfl

theorem isAsciiLower_lowerChar {c : Char} (upper : isAsciiUpper c = true) :
    isAsciiLower (lowerChar c) = true := by
  have range := isAsciiUpper_iff.mp upper
  rw [isAsciiLower_iff, toNat_lowerChar upper]
  omega

theorem isFoldedChar_lowerChar {c : Char} (named : isNameChar c = true) :
    isFoldedChar (lowerChar c) = true := by
  by_cases upper : isAsciiUpper c = true
  · simp [isFoldedChar, isAsciiLower_lowerChar upper]
  · simp only [isNameChar, upper, Bool.or_false] at named
    simpa [lowerChar, upper, isFoldedChar, Bool.or_comm, Bool.or_left_comm] using named

theorem lowerChar_ne_underscore {c : Char} (other : c ≠ '_') : lowerChar c ≠ '_' := by
  by_cases upper : isAsciiUpper c = true
  · have lower := isAsciiLower_lowerChar upper
    intro same
    rw [same] at lower
    exact absurd lower (by decide)
  · simpa [lowerChar, upper] using other

theorem isFoldedChar_of_mem_snakeChars {cs : List Char} {c : Char} (member : c ∈ snakeChars cs) :
    isFoldedChar c = true := by
  obtain ⟨d, trimmed, rfl⟩ := List.mem_map.mp member
  apply isFoldedChar_lowerChar
  have collapsed := mem_collapseUnderscores (mem_trimUnderscores trimmed)
  rcases mem_splitAcronym collapsed with rfl | inside
  · rfl
  rcases mem_splitCapital inside with rfl | inside
  · rfl
  rcases mem_splitCapitalised inside with rfl | inside
  · rfl
  exact isNameChar_of_mem_plainChars inside

theorem head_snakeChars {cs rest : List Char} {first : Char}
    (folded : snakeChars cs = first :: rest) : first ≠ '_' := by
  obtain ⟨c, more, trimmed, rfl, rfl⟩ := List.map_eq_cons_iff.mp folded
  exact lowerChar_ne_underscore (head_trimUnderscores trimmed)

def IsFoldedWord (name : String) : Prop :=
  ∃ first rest, name.toList = first :: rest ∧ isAsciiLower first = true ∧
    ∀ c ∈ rest, isFoldedChar c = true

instance (name : String) : Decidable (IsFoldedWord name) :=
  decidable_of_iff (name.toList.head?.any isAsciiLower && name.toList.tail.all isFoldedChar) <| by
    rw [IsFoldedWord]
    cases name.toList <;> simp

theorem IsFoldedWord.isIdentifier {name : String} (word : IsFoldedWord name) :
    IsIdentifier name := by
  obtain ⟨first, rest, text, lower, folded⟩ := word
  exact ⟨first, rest, text, by simp [isNameChar, lower], isAsciiDigit_of_isAsciiLower lower,
    fun c member => isNameChar_of_isFoldedChar (folded c member)⟩

theorem IsFoldedWord.folded {name : String} (word : IsFoldedWord name) :
    ∀ c ∈ name.toList, isFoldedChar c = true := by
  obtain ⟨first, rest, text, lower, tail⟩ := word
  intro c member
  rw [text] at member
  rcases List.mem_cons.mp member with rfl | behind
  · simp [isFoldedChar, lower]
  · exact tail c behind

theorem IsFoldedWord.append {name : String} (word : IsFoldedWord name) {more : String}
    (folded : ∀ c ∈ more.toList, isFoldedChar c = true) : IsFoldedWord (name ++ more) := by
  obtain ⟨first, rest, text, lower, tail⟩ := word
  refine ⟨first, rest ++ more.toList, by simp [String.toList_append, text], lower, ?_⟩
  intro c member
  rcases List.mem_append.mp member with inside | behind
  · exact tail c inside
  · exact folded c behind

theorem IsFoldedWord.append_underscore {name : String} (word : IsFoldedWord name) :
    IsFoldedWord (name ++ "_") :=
  word.append (List.all_eq_true.mp (by decide))

theorem mem_snake {name : String} {c : Char} (member : c ∈ (snake name).toList) :
    isFoldedChar c = true := by
  rw [snake, String.toList_ofList] at member
  exact isFoldedChar_of_mem_snakeChars member

theorem snakeOr_folded {fallback : String} (word : IsFoldedWord fallback) (name : String) :
    ∀ c ∈ (snakeOr fallback name).toList, isFoldedChar c = true := by
  intro c member
  rw [snakeOr] at member
  split at member
  next => exact word.folded c member
  next => exact mem_snake member

theorem snakeOr_word {fallback : String} (word : IsFoldedWord fallback) {name : String}
    (plain : beginsWithDigit (snakeOr fallback name) = false) :
    IsFoldedWord (snakeOr fallback name) := by
  have folded := snakeOr_folded word name
  rw [snakeOr] at *
  split
  next => exact word
  next filled =>
    simp only [filled, if_false] at plain folded
    cases text : (snake name).toList with
    | nil => exact absurd (String.toList_eq_nil_iff.mp text) filled
    | cons first rest =>
      have notUnderscore : first ≠ '_' := by
        rw [snake, String.toList_ofList] at text
        exact head_snakeChars text
      have notDigit : isAsciiDigit first = false := by
        simpa [beginsWithDigit, startsWithDigit, text] using plain
      have first' := folded first (by simp [text])
      refine ⟨first, rest, text, ?_, fun c member => folded c (by simp [text, member])⟩
      simpa [isFoldedChar, notDigit, notUnderscore] using first'

def openedWord (fallback name : String) : String :=
  if beginsWithDigit (snakeOr fallback name) then fallback ++ "_" ++ snakeOr fallback name
  else snakeOr fallback name

theorem isFoldedWord_openedWord {fallback : String} (word : IsFoldedWord fallback)
    (name : String) : IsFoldedWord (openedWord fallback name) := by
  rw [openedWord]
  split
  next => exact word.append_underscore.append (snakeOr_folded word name)
  next plain => exact snakeOr_word word (by simpa using plain)

def fieldWord (name : String) : String := openedWord "field" name

theorem identifier_eq (name : String) (extra : List String) :
    identifier name extra =
      if isReserved (fieldWord name) extra then fieldWord name ++ "_" else fieldWord name := rfl

theorem fieldWord_word (name : String) : IsFoldedWord (fieldWord name) :=
  isFoldedWord_openedWord (by decide) name

theorem identifier_word (name : String) (extra : List String) :
    IsFoldedWord (identifier name extra) := by
  rw [identifier_eq]
  split
  next => exact (fieldWord_word name).append_underscore
  next => exact fieldWord_word name

/-- Whether a word ends with an underscore, as a name does that avoids a reserved one. -/
def EndsOpen (word : String) : Prop := word.toList.getLast? = some '_'

instance (word : String) : Decidable (EndsOpen word) :=
  inferInstanceAs (Decidable (word.toList.getLast? = some '_'))

theorem endsOpen_append (name : String) : EndsOpen (name ++ "_") := by
  simp [EndsOpen, String.toList_append]

theorem isReserved_of_endsOpen {name : String} {extra : List String}
    (closed : ∀ word ∈ extra, ¬ EndsOpen word) (ends : EndsOpen name) :
    isReserved name extra = false := by
  have plainKeywords : ∀ word ∈ keywords, ¬ EndsOpen word := by decide +kernel
  have plainAttributes : ∀ word ∈ recordAttributes, ¬ EndsOpen word := by decide +kernel
  simp only [isReserved, isKeyword, Bool.or_eq_false_iff, List.contains_eq_mem,
    decide_eq_false_iff_not]
  exact ⟨⟨fun member => plainKeywords _ member ends, fun member => plainAttributes _ member ends⟩,
    fun member => closed _ member ends⟩

theorem isReserved_identifier {extra : List String} (closed : ∀ word ∈ extra, ¬ EndsOpen word)
    (name : String) : isReserved (identifier name extra) extra = false := by
  rw [identifier_eq]
  split
  next => exact isReserved_of_endsOpen closed (endsOpen_append _)
  next free => simpa using free

end OpenApiClient.Name
