import Mathlib.Data.List.Infix
import OpenApiClient.Text.Lines

set_option autoImplicit false

namespace OpenApiClient.Text

section Single

variable {old : Char} {new cs : List Char}

theorem replaceChar_cons (old : Char) (new : List Char) (c : Char) (rest : List Char) :
    replaceChar old new (c :: rest) =
      (if c = old then new else [c]) ++ replaceChar old new rest := rfl

theorem not_mem_replaceChar (absent : old ∉ new) (cs : List Char) :
    old ∉ replaceChar old new cs := by
  rw [replaceChar, List.mem_flatMap]
  rintro ⟨c, -, inside⟩
  split at inside
  next => exact absent inside
  next other => exact other (List.mem_singleton.mp inside).symm

theorem replaceChar_of_not_mem (absent : old ∉ cs) (new : List Char) :
    replaceChar old new cs = cs := by
  induction cs with
  | nil => rfl
  | cons c rest ih =>
    obtain ⟨other, later⟩ := not_or.mp (mt List.mem_cons.mpr absent)
    rw [replaceChar_cons, if_neg (Ne.symm other), ih later, List.singleton_append]

end Single

variable {first second : Char}

section Steps

variable {new rest : List Char}

theorem replacePair_pair (first second : Char) (new rest : List Char) :
    replacePair first second new (first :: second :: rest) =
      new ++ replacePair first second new rest := by
  rw [replacePair, if_pos ⟨rfl, rfl⟩]

theorem replacePair_cons_of_apart {c : Char} (apart : c = first → rest.head? ≠ some second) :
    replacePair first second new (c :: rest) = c :: replacePair first second new rest := by
  cases rest with
  | nil => rfl
  | cons d more => rw [replacePair, if_neg fun both => apart both.1 (congrArg some both.2)]

theorem replacePair_append {front : List Char} (plain : ∀ c ∈ front, c ≠ first)
    (rest : List Char) :
    replacePair first second new (front ++ rest) =
      front ++ replacePair first second new rest := by
  induction front with
  | nil => rfl
  | cons c front ih =>
    obtain ⟨here, behind⟩ := List.forall_mem_cons.mp plain
    rw [List.cons_append, replacePair_cons_of_apart fun same => absurd same here, ih behind,
      List.cons_append]

theorem replacePair_cons (apart : rest.head? ≠ some second) :
    replacePair first second new (first :: rest) =
      first :: replacePair first second new rest :=
  replacePair_cons_of_apart fun _ => apart

theorem replacePair_subset (first second : Char) (new cs : List Char) :
    replacePair first second new cs ⊆ new ++ cs := by
  fun_induction replacePair first second new cs with
  | case1 c d rest pair ih =>
    refine List.append_subset.mpr ⟨List.subset_append_left _ _, fun e member => ?_⟩
    rcases List.mem_append.mp (ih member) with inside | behind
    · exact List.mem_append_left _ inside
    · exact List.mem_append_right _ (List.mem_cons_of_mem _ (List.mem_cons_of_mem _ behind))
  | case2 c d rest other ih =>
    refine List.cons_subset.mpr ⟨by simp, fun e member => ?_⟩
    rcases List.mem_append.mp (ih member) with inside | behind
    · exact List.mem_append_left _ inside
    · exact List.mem_append_right _ (List.mem_cons_of_mem _ behind)
  | case3 cs short => exact List.subset_append_right _ _

end Steps

section Length

variable {new : Char}

theorem length_replacePair_le (first second new : Char) (cs : List Char) :
    (replacePair first second [new] cs).length ≤ cs.length := by
  fun_induction replacePair first second [new] cs with
  | case1 c d rest pair ih =>
    simp only [List.cons_append, List.nil_append, List.length_cons]
    omega
  | case2 c d rest other ih => simpa using ih
  | case3 cs short => exact Nat.le_refl _

theorem replacePair_eq_self_of_length {cs : List Char}
    (kept : cs.length ≤ (replacePair first second [new] cs).length) :
    replacePair first second [new] cs = cs := by
  fun_induction replacePair first second [new] cs with
  | case1 c d rest pair ih =>
    have shorter := length_replacePair_le first second new rest
    simp only [List.cons_append, List.nil_append, List.length_cons] at kept
    omega
  | case2 c d rest other ih =>
    rw [ih (by simpa using kept)]
  | case3 cs short => rfl

theorem replacePair_eq_self_iff {cs : List Char} :
    replacePair first second [new] cs = cs ↔ ¬ [first, second] <:+: cs := by
  fun_induction replacePair first second [new] cs with
  | case1 c d rest pair ih =>
    obtain ⟨rfl, rfl⟩ := pair
    have shorter := length_replacePair_le c d new rest
    have found : [c, d] <:+: c :: d :: rest := ⟨[], rest, rfl⟩
    simp only [found, not_true, iff_false]
    intro same
    have lengths := congrArg List.length same
    simp only [List.cons_append, List.nil_append, List.length_cons] at lengths
    omega
  | case2 c d rest other ih =>
    have differs : ¬ [first, second] <+: c :: d :: rest := by
      simpa [List.cons_prefix_cons, eq_comm] using other
    rw [List.cons_inj_right, ih, List.infix_cons_iff.trans (or_iff_right differs)]
  | case3 cs short =>
    refine iff_of_true rfl fun found => ?_
    rcases cs with _ | ⟨c, _ | ⟨d, rest⟩⟩
    · simp at found
    · simpa using found.length_le
    · exact short c d rest rfl

end Length
end OpenApiClient.Text
