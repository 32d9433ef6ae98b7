import Mathlib.Data.List.Nodup
import Mathlib.Data.List.Range
import OpenApiClient.Proofs.Name.Identifier

set_option autoImplicit false

namespace OpenApiClient.Name

theorem toList_numbered (base : String) (index : Nat) :
    (numbered base index).toList = base.toList ++ '_' :: Nat.toDigits 10 index := by
  simp [numbered, String.toList_append]

theorem numbered_injective (base : String) : Function.Injective (numbered base) := by
  intro first second same
  have chars := congrArg String.toList same
  rw [toList_numbered, toList_numbered] at chars
  have digits := List.cons_injective (List.append_cancel_left chars)
  have value := congrArg (fun cs => Nat.ofDigitChars 10 cs 0) digits
  simpa using value

theorem isAsciiDigit_of_mem_toDigits {index : Nat} {c : Char}
    (member : c ∈ Nat.toDigits 10 index) : Text.isAsciiDigit c = true := by
  have digit := Nat.isDigit_of_mem_toDigits (by decide) (by decide) member
  simpa [Text.isAsciiDigit, Char.isDigit, Char.le_def] using digit

theorem IsFoldedWord.numbered {base : String} (word : IsFoldedWord base) (index : Nat) :
    IsFoldedWord (numbered base index) := by
  refine word.append_underscore.append fun c member => ?_
  rw [Nat.toString_eq_ofList_toDigits, String.toList_ofList] at member
  simp [isFoldedChar, isAsciiDigit_of_mem_toDigits member]

def candidates (base : String) (start count : Nat) : List String :=
  (List.range' start count).map (numbered base)

theorem nodup_candidates (base : String) (start count : Nat) :
    (candidates base start count).Nodup :=
  List.Nodup.map (numbered_injective base) List.nodup_range'

theorem exists_free_candidate (taken : List String) (base : String) (start : Nat) :
    ∃ name ∈ candidates base start (taken.length + 1), name ∉ taken := by
  by_contra none
  have all : candidates base start (taken.length + 1) ⊆ taken := by
    intro name member
    by_contra free
    exact none ⟨name, member, free⟩
  have bound := (nodup_candidates base start _).length_le_of_subset all
  simp only [candidates, List.length_map, List.length_range'] at bound
  omega

theorem firstFree_spec (taken : List String) (base : String) (start : Nat) :
    ∃ index, start ≤ index ∧ firstFree taken base start = numbered base index ∧
      firstFree taken base start ∉ taken := by
  obtain ⟨free, member, absent⟩ := exists_free_candidate taken base start
  have found : ((candidates base start (taken.length + 1)).find?
      fun name => !taken.contains name).isSome := by
    rw [List.find?_isSome]
    exact ⟨free, member, by simpa using absent⟩
  obtain ⟨name, chosen⟩ := Option.isSome_iff_exists.mp found
  have same : firstFree taken base start = name := by
    rw [candidates] at chosen
    simp only [firstFree, chosen, Option.getD_some]
  obtain ⟨index, range, rfl⟩ := List.mem_map.mp (List.mem_of_find?_eq_some chosen)
  refine ⟨index, (List.mem_range'_1.mp range).1, same, ?_⟩
  rw [same]
  simpa using List.find?_some chosen

end OpenApiClient.Name
