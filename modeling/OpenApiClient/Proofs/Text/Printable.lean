import OpenApiClient.Json.Literal
import OpenApiClient.Name.Case
import OpenApiClient.Text.Lines

set_option autoImplicit false

namespace OpenApiClient.Text

theorem isPrintable_iff {c : Char} :
    isPrintable c = true ↔
      ∀ range ∈ hiddenRanges, ¬ (range.1 ≤ c.toNat ∧ c.toNat ≤ range.2) := by
  simp [isPrintable]

theorem isPrintable_of_ascii {c : Char} (first : 0x20 ≤ c.toNat) (last : c.toNat ≤ 0x7e) :
    isPrintable c = true := by
  have outside : ∀ range ∈ hiddenRanges, range.2 < 0x20 ∨ 0x7e < range.1 := by decide
  rw [isPrintable_iff]
  intro range member inside
  have apart := outside range member
  omega

theorem isPrintable_of_isNameChar {c : Char} (named : Name.isNameChar c = true) :
    isPrintable c = true := by
  simp only [Name.isNameChar, isAsciiDigit, isAsciiLower, isAsciiUpper, Bool.or_eq_true,
    Bool.and_eq_true, decide_eq_true_eq, beq_iff_eq] at named
  have within {first last : Char} (range : first ≤ c ∧ c ≤ last) (above : 0x20 ≤ first.toNat)
      (below : last.toNat ≤ 0x7e) : isPrintable c = true :=
    isPrintable_of_ascii (Nat.le_trans above range.1) (Nat.le_trans range.2 below)
  rcases named with ((digit | lower) | upper) | rfl
  · exact within digit (by decide) (by decide)
  · exact within lower (by decide) (by decide)
  · exact within upper (by decide) (by decide)
  · decide

theorem isLineBreak_of_isPrintable {c : Char} (visible : isPrintable c = true) :
    isLineBreak c = false := by
  refine Bool.eq_false_iff.mpr fun breaks => ?_
  simp only [isLineBreak, Bool.or_eq_true, beq_iff_eq] at breaks
  rcases breaks with (((((((((rfl | rfl) | rfl) | rfl) | rfl) | rfl) | rfl) | rfl) | rfl) | rfl)
    <;> exact absurd visible (by decide)

theorem isBlank_of_isPrintable {c : Char} (visible : isPrintable c = true) (other : c ≠ ' ') :
    isBlank c = false := by
  refine Bool.eq_false_iff.mpr fun blank => ?_
  simp only [isBlank, isLineBreak_of_isPrintable visible, Bool.false_or, Bool.or_eq_true,
    Bool.and_eq_true, beq_iff_eq, decide_eq_true_eq] at blank
  rcases blank with (((((((rfl | rfl) | rfl) | rfl) | rfl) | range) | rfl) | rfl) | rfl
  case inl.inl.inl.inl.inl.inl.inl.inl => exact other rfl
  case inl.inl.inl.inr =>
    refine isPrintable_iff.mp visible (0x2000, 0x200f) (by decide) ⟨range.1, ?_⟩
    exact Nat.le_trans range.2 (by decide)
  all_goals exact absurd visible (by decide)

def Printable (cs : List Char) : Prop := ∀ c ∈ cs, isPrintable c = true

instance (cs : List Char) : Decidable (Printable cs) :=
  decidable_of_iff (cs.all isPrintable = true) List.all_eq_true

@[simp] theorem printable_append {cs more : List Char} :
    Printable (cs ++ more) ↔ Printable cs ∧ Printable more := List.forall_mem_append

@[simp] theorem printable_cons {c : Char} {rest : List Char} :
    Printable (c :: rest) ↔ isPrintable c = true ∧ Printable rest := List.forall_mem_cons

theorem printable_flatMap {α : Type} {f : α → List Char} {items : List α} :
    Printable (items.flatMap f) ↔ ∀ item ∈ items, Printable (f item) := List.forall_mem_flatMap

theorem exists_digitChar_of_mem_toDigits {c : Char} {n : Nat} (member : c ∈ Nat.toDigits 16 n) :
    ∃ digit < 16, c = Nat.digitChar digit := by
  induction n using Nat.strongRecOn with
  | ind n ih =>
    by_cases small : n < 16
    · rw [Nat.toDigits_of_lt_base small, List.mem_singleton] at member
      exact ⟨n, small, member⟩
    · rw [Nat.toDigits_of_base_le (by decide) (by omega), List.mem_append,
        List.mem_singleton] at member
      rcases member with front | rfl
      · exact ih (n / 16) (by omega) front
      · exact ⟨n % 16, Nat.mod_lt _ (by decide), rfl⟩

theorem exists_digitChar_of_mem_hexDigits {c : Char} {width n : Nat}
    (member : c ∈ hexDigits width n) : ∃ digit < 16, c = Nat.digitChar digit := by
  rw [hexDigits, List.mem_append, List.mem_replicate] at member
  rcases member with ⟨_, rfl⟩ | member
  · exact ⟨0, by decide, rfl⟩
  · exact exists_digitChar_of_mem_toDigits member

theorem printable_hexDigits (width n : Nat) : Printable (hexDigits width n) := by
  have digits : ∀ digit < 16, isPrintable (Nat.digitChar digit) = true := by decide
  intro c member
  obtain ⟨digit, small, rfl⟩ := exists_digitChar_of_mem_hexDigits member
  exact digits digit small

theorem printable_hiddenEscape (c : Char) : Printable (hiddenEscape c) := by
  have marks : Printable ['\\', 'x', 'u', 'U'] := by decide
  simp only [printable_cons] at marks
  obtain ⟨backslash, two, four, eight, -⟩ := marks
  rw [hiddenEscape]
  split
  next => simp [backslash, two, printable_hexDigits]
  next => split <;> simp [backslash, four, eight, printable_hexDigits]

theorem printable_quotedChar {quote : Char} (visible : isPrintable quote = true) (c : Char) :
    Printable (quotedChar quote c) := by
  rw [quotedChar]
  split
  next special =>
    rcases special with rfl | rfl
    · exact List.forall_mem_cons.mpr ⟨by decide, List.forall_mem_singleton.mpr visible⟩
    · decide
  next =>
    split
    next => decide
    next =>
      split
      next => decide
      next =>
        split
        next => decide
        next =>
          split
          next shown => exact List.forall_mem_singleton.mpr shown
          next => exact printable_hiddenEscape c

theorem printable_charEscape (c : Char) : Printable (Json.charEscape c) := by
  have marks : isPrintable '\\' = true ∧ isPrintable 'u' = true := by decide
  refine printable_flatMap.mpr fun unit _ => ?_
  simp only [Json.unitEscape, printable_cons]
  exact ⟨marks.1, marks.2, printable_hexDigits 4 unit⟩

theorem printable_literalChar (c : Char) : Printable (Json.literalChar c) := by
  have escapes : ∀ entry ∈ Json.shortEscapes, Printable ['\\', entry.2] := by decide
  have form := Json.literalChar_form c
  generalize Json.literalChar c = written at form ⊢
  cases form with
  | short escape => exact escapes _ escape
  | shown visible bare =>
    exact List.forall_mem_singleton.mpr (isPrintable_of_ascii visible.1 (by omega))
  | units hidden => exact printable_charEscape c

theorem printable_literal (text : String) : Printable (Json.literal text).toList := by
  have quote : isPrintable '"' = true := by decide
  rw [Json.literal, String.toList_ofList]
  exact printable_append.mpr ⟨printable_cons.mpr
    ⟨quote, printable_flatMap.mpr fun c _ => printable_literalChar c⟩,
    List.forall_mem_singleton.mpr quote⟩

theorem unifyBreaks_of_not_mem {cs : List Char} (absent : '\r' ∉ cs) : unifyBreaks cs = cs := by
  fun_induction unifyBreaks cs with
  | case1 => rfl
  | case2 => simp at absent
  | case3 => simp at absent
  | case4 c rest _ _ ih => rw [ih (not_or.mp (mt List.mem_cons.mpr absent)).2]

def Lined (cs : List Char) : Prop := ∀ c ∈ cs, c = '\n' ∨ isPrintable c = true

theorem Printable.lined {cs : List Char} (visible : Printable cs) : Lined cs :=
  fun c member => .inr (visible c member)

@[simp] theorem lined_append {cs more : List Char} :
    Lined (cs ++ more) ↔ Lined cs ∧ Lined more := List.forall_mem_append

theorem Lined.unifyBreaks {cs : List Char} (lined : Lined cs) : Text.unifyBreaks cs = cs := by
  refine unifyBreaks_of_not_mem fun member => ?_
  rcases lined '\r' member with same | visible
  · exact absurd same (by decide)
  · exact absurd visible (by decide)

end OpenApiClient.Text
