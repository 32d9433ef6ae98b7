import OpenApiClient.Proofs.Name.Folding
import OpenApiClient.Proofs.Text.Replaced
import OpenApiClient.Reference.Pointer

set_option autoImplicit false

namespace OpenApiClient

namespace Name

open Text

theorem afterLastSlash_of_not_mem {cs : List Char} (plain : '/' ∉ cs) :
    afterLastSlash cs = cs := by
  have whole : cs.reverse.takeWhile (· != '/') = cs.reverse := by
    refine List.takeWhile_eq_self_iff.mpr fun c member => ?_
    rw [bne_iff_ne]
    rintro rfl
    exact plain (List.mem_reverse.mp member)
  rw [afterLastSlash, whole, List.reverse_reverse]

theorem afterLastSlash_append (before rest : List Char) :
    afterLastSlash (before ++ '/' :: rest) = afterLastSlash rest := by
  have stops : (before ++ '/' :: rest).reverse.takeWhile (· != '/') =
      rest.reverse.takeWhile (· != '/') := by
    rw [List.reverse_append, List.reverse_cons, List.append_assoc, List.takeWhile_append]
    split
    next whole => simp [(List.takeWhile_prefix _).eq_of_length whole]
    next => rfl
  rw [afterLastSlash, stops, afterLastSlash]

theorem getLast?_separated (cs : List Char) :
    (separated '/' cs).getLast? = some (afterLastSlash cs) := by
  by_cases inside : '/' ∈ cs
  · obtain ⟨piece, rest, rfl, plain⟩ := List.eq_append_cons_of_mem inside
    rw [separated_append rest plain, List.getLast?_cons_of_ne_nil (separated_ne_nil _ _),
      afterLastSlash_append]
    exact getLast?_separated rest
  · rw [separated_of_not_mem inside, afterLastSlash_of_not_mem inside, List.getLast?_singleton]
termination_by cs.length

structure Shortened (written read : List Char) : Prop where
  length_le : read.length ≤ written.length
  letters_eq : (letters read).length + written.length = (letters written).length + read.length
  begins : beginsWithoutLetter read = true → beginsWithoutLetter written = true

theorem Shortened.trans {written between read : List Char} (first : Shortened written between)
    (second : Shortened between read) : Shortened written read where
  length_le := second.length_le.trans first.length_le
  letters_eq := by
    have := first.letters_eq
    have := second.letters_eq
    omega
  begins := fun holds => first.begins (second.begins holds)

theorem Shortened.length_eq {written read : List Char} (shortened : Shortened written read)
    (same : pascalChars written = pascalChars read) : read.length = written.length := by
  have lengths := congrArg List.length same
  rw [length_pascalChars, length_pascalChars] at lengths
  have le := shortened.length_le
  have letters := shortened.letters_eq
  -- A word is put before both names, before the written one only, or before neither; in each case
  -- the equal lengths leave no room for a lost digit.
  cases begins : beginsWithoutLetter read with
  | false =>
    simp only [begins, Bool.false_eq_true, if_false] at lengths
    omega
  | true =>
    simp only [begins, shortened.begins begins, if_true] at lengths
    omega

theorem shortened_replacePair {digit new : Char} (isDigit : isAsciiDigit digit = true)
    (other : isLetterOrDigit new = false) (cs : List Char) :
    Shortened cs (replacePair '~' digit [new] cs) := by
  have kept : isLetterOrDigit digit = true := by simp [isLetterOrDigit, isDigit]
  have tilde : isLetterOrDigit '~' = false := by decide
  fun_induction replacePair '~' digit [new] cs with
  | case1 c d rest pair ih =>
    obtain ⟨rfl, rfl⟩ := pair
    have le := ih.length_le
    have letters := ih.letters_eq
    -- Two characters, one of them a digit, become one that is neither a letter nor a digit.
    refine ⟨?_, ?_, fun _ => ?_⟩
    · simp only [List.cons_append, List.nil_append, List.length_cons]
      omega
    · simp only [List.cons_append, List.nil_append, List.length_cons, letters_cons, tilde, kept,
        other, Bool.false_eq_true, if_false, if_true]
      omega
    · simp [beginsWithoutLetter, letters_cons, tilde, kept, isDigit]
  | case2 c d rest apart ih =>
    have le := ih.length_le
    have letters := ih.letters_eq
    refine ⟨?_, ?_, ?_⟩
    · simpa using le
    · rw [letters_cons c (d :: rest), letters_cons c (replacePair _ _ _ _), List.length_cons,
        List.length_cons]
      split <;> simp only [List.length_cons] at * <;> omega
    · intro begins
      rw [beginsWithoutLetter, letters_cons] at *
      split at begins
      next here => simpa [here] using begins
      next skipped => simpa [skipped, beginsWithoutLetter] using ih.begins begins
  | case3 cs short => exact ⟨Nat.le_refl _, rfl, id⟩

end Name

namespace Pointer

open Text Name

theorem shortened_unescape (cs : List Char) : Shortened cs (unescape cs) :=
  (shortened_replacePair rfl rfl cs).trans (shortened_replacePair rfl rfl _)

def HasEscape (cs : List Char) : Prop := ['~', '1'] <:+: cs ∨ ['~', '0'] <:+: cs

instance (cs : List Char) : Decidable (HasEscape cs) :=
  inferInstanceAs (Decidable (['~', '1'] <:+: cs ∨ ['~', '0'] <:+: cs))

theorem unescape_of_plain {cs : List Char} (plain : ¬ HasEscape cs) : unescape cs = cs := by
  obtain ⟨noSlash, noTilde⟩ := not_or.mp plain
  rw [unescape, replacePair_eq_self_iff.mpr noSlash, replacePair_eq_self_iff.mpr noTilde]

theorem not_hasEscape_of_length {cs : List Char} (same : (unescape cs).length = cs.length) :
    ¬ HasEscape cs := by
  -- Neither replacement makes a text longer, so a text that keeps its length is kept by both.
  have first := length_replacePair_le '~' '1' '/' cs
  have second := length_replacePair_le '~' '0' '~' (replacePair '~' '1' ['/'] cs)
  rw [unescape] at same
  have noSlash : replacePair '~' '1' ['/'] cs = cs := replacePair_eq_self_of_length (by omega)
  rw [noSlash] at same
  have noTilde : replacePair '~' '0' ['~'] cs = cs := replacePair_eq_self_of_length same.ge
  exact not_or.mpr ⟨replacePair_eq_self_iff.mp noSlash, replacePair_eq_self_iff.mp noTilde⟩

theorem pascalChars_unescape_iff {cs : List Char} :
    pascalChars cs = pascalChars (unescape cs) ↔ ¬ HasEscape cs := by
  constructor
  · intro same
    exact not_hasEscape_of_length ((shortened_unescape cs).length_eq same)
  · intro plain
    rw [unescape_of_plain plain]

theorem parse_eq_ok_iff {pointer : String} {target : Target} :
    parse pointer = .ok target ↔
      ∃ category name following,
        (separated '/' pointer.toList).drop 2 = category :: name :: following ∧
          category ≠ [] ∧ name ≠ [] ∧
            target = ⟨String.ofList category, String.ofList (unescape name)⟩ := by
  rw [parse]
  rcases (separated '/' pointer.toList).drop 2 with _ | ⟨category, _ | ⟨name, following⟩⟩
  · simp
  · cases category <;> simp
  · cases category <;> cases name <;> simp [eq_comm]

end Pointer
end OpenApiClient
