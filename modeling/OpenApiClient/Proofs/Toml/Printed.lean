import OpenApiClient.Proofs.Toml.Spelling
import OpenApiClient.Toml.Write

set_option autoImplicit false

namespace OpenApiClient

theorem bind_eq_ok {ε α β : Type} {computed : Except ε α} {f : α → Except ε β} {result : β} :
    computed >>= f = .ok result ↔ ∃ value, computed = .ok value ∧ f value = .ok result := by
  cases computed with
  | error error => exact iff_of_false nofun (by rintro ⟨_, ⟨⟩, _⟩)
  | ok value => simp [bind, Except.bind]

namespace Toml

open Text

theorem printable_quotedContent (cs : List Char) : Printable (quotedContent cs) := by
  rw [quotedContent_eq]
  intro c member
  obtain ⟨written, -, inside⟩ := List.mem_flatMap.mp member
  exact printable_quotedChar (by decide) written c inside

theorem subset_of_mem_splitPair {first second : Char} {cs piece : List Char}
    (member : piece ∈ splitPair first second cs) : piece ⊆ cs := by
  fun_induction splitPair first second cs generalizing piece with
  | case1 c d rest pair ih => grind
  | case2 c d rest other split ih => exact absurd split (splitPair_ne_nil _)
  | case3 c d rest other first more split ih =>
    rcases List.mem_cons.mp member with rfl | later
    · exact List.cons_subset_cons c (ih (split ▸ List.mem_cons_self))
    · exact List.subset_cons_of_subset c (ih (split ▸ List.mem_cons_of_mem _ later))
  | case4 c => exact (List.mem_singleton.mp member) ▸ List.Subset.refl _
  | case5 => exact (List.mem_singleton.mp member) ▸ List.Subset.refl _

theorem printable_joiner (piece : List Char) : Printable (joiner piece) := by
  simp only [joiner]
  repeat' split
  all_goals decide

theorem printable_halveBackslashes {cs : List Char} (visible : Printable cs) :
    Printable (halveBackslashes cs) := by
  intro c member
  rcases List.mem_append.mp (replacePair_subset _ _ _ _ member) with single | inside
  · obtain rfl := List.mem_singleton.mp single
    decide
  · exact visible c inside

theorem printable_joinPieces {first joined : List Char} {pieces : List (List Char)}
    (here : Printable first) (later : ∀ piece ∈ pieces, Printable piece)
    (done : joinPieces first pieces = .ok joined) : Printable joined := by
  have linked {front back : List Char} (before : Printable front) (behind : Printable back) :
      Printable (halveBackslashes front ++ joiner (halveBackslashes front) ++ back) := by
    simp only [printable_append]
    exact ⟨⟨printable_halveBackslashes before, printable_joiner _⟩, behind⟩
  fun_induction joinPieces first pieces with
  | case1 first => exact Except.ok.inj done ▸ here
  | case2 => cases done
  | case3 => cases done
  | case4 first second empty third more filled head ih =>
    simp only [List.forall_mem_cons] at later
    exact ih (linked later.1 later.2.1) later.2.2 done
  | case5 first second rest filled head ih =>
    simp only [List.forall_mem_cons] at later
    exact ih (linked here later.1) later.2 done

theorem printable_quoted {text written : String} (done : quoted text = .ok written) :
    Printable written.toList := by
  have visible := printable_quotedContent text.toList
  obtain ⟨first, rest, split⟩ :=
    List.exists_cons_of_ne_nil (@splitPair_ne_nil '\\' 'x' (quotedContent text.toList))
  have pieces : ∀ piece ∈ first :: rest, Printable piece := fun piece member c inside =>
    visible c (subset_of_mem_splitPair (split ▸ member) inside)
  rw [List.forall_mem_cons] at pieces
  simp only [quoted, split] at done
  cases linked : joinPieces first rest with
  | error error => simp [linked] at done
  | ok joined =>
    simp only [linked, Except.ok.injEq] at done
    have quote : isPrintable '"' = true := by decide
    have inside := printable_joinPieces pieces.1 pieces.2 linked
    rw [← done, String.toList_ofList]
    exact printable_append.mpr
      ⟨printable_cons.mpr ⟨quote, inside⟩, List.forall_mem_singleton.mpr quote⟩

theorem isPrintable_of_isBareChar {c : Char} (bare : isBareChar c = true) :
    isPrintable c = true := by
  by_cases hyphen : c = '-'
  · subst hyphen
    decide
  · refine isPrintable_of_isNameChar ?_
    simpa [isBareChar, Name.isNameChar, hyphen, or_comm, or_assoc, or_left_comm] using bare

theorem lined_of_word {cs : List Char}
    (word : (if cs.getLast? = some '\n' then cs.dropLast else cs).all isBareChar = true) :
    Lined cs := by
  intro c member
  split at word
  next ended =>
    rw [← List.dropLast_append_getLast? '\n' ended, List.mem_append] at member
    rcases member with inside | last
    · exact .inr (isPrintable_of_isBareChar (List.all_eq_true.mp word c inside))
    · exact .inl (List.mem_singleton.mp last)
  next => exact .inr (isPrintable_of_isBareChar (List.all_eq_true.mp word c member))

theorem lined_keyText {key name : String} (done : keyText key = .ok name) :
    Lined name.toList := by
  simp only [keyText] at done
  by_cases bare : (!(if key.toList.getLast? = some '\n' then key.toList.dropLast
      else key.toList).isEmpty && (if key.toList.getLast? = some '\n' then key.toList.dropLast
      else key.toList).all isBareChar) = true
  · rw [if_pos bare] at done
    exact Except.ok.inj done ▸ lined_of_word (Bool.and_eq_true_iff.mp bare).2
  · rw [if_neg bare] at done
    exact (printable_quoted done).lined

def IsFlat (value : Value) : Prop := (∃ text, value = .text text) ∨ ∃ texts, value = .texts texts

theorem printable_itemTexts {texts written : List String}
    (done : itemTexts (texts.map Value.text) = .ok written) :
    Printable (String.join written).toList := by
  induction texts generalizing written with
  | nil =>
    obtain rfl := Except.ok.inj done
    exact List.forall_mem_nil _
  | cons text rest ih =>
    rw [List.map_cons, itemTexts] at done
    obtain ⟨line, first, done⟩ := bind_eq_ok.mp done
    obtain ⟨more, behind, done⟩ := bind_eq_ok.mp done
    obtain rfl := Except.ok.inj done
    have visible : Printable line.toList := printable_quoted first
    have around : Printable " ".toList ∧ Printable ",".toList := by decide
    simp only [String.join_cons, String.toList_append, printable_append]
    exact ⟨⟨⟨around.1, visible⟩, around.2⟩, ih behind⟩

theorem lined_entryLine {name text : String} (named : Lined name.toList)
    (visible : Printable text.toList) : Lined (name ++ " = " ++ text ++ "\n").toList := by
  have equals : Lined " = ".toList := Printable.lined (by decide)
  have ended : Lined "\n".toList := fun c member => .inl (List.mem_singleton.mp member)
  simp only [String.toList_append, lined_append]
  exact ⟨⟨⟨named, equals⟩, visible.lined⟩, ended⟩

theorem lined_plainEntry {path name line listed : String} {value : Value} (flat : IsFlat value)
    (named : Lined name.toList) (done : plainEntry path name value = .ok (line, listed)) :
    Lined line.toList ∧ listed = "" := by
  rcases flat with ⟨text, rfl⟩ | ⟨texts, rfl⟩
  · rw [plainEntry, if_neg nofun] at done
    obtain ⟨written, quoted, done⟩ := bind_eq_ok.mp done
    obtain ⟨rfl, rfl⟩ := Prod.mk.inj (Except.ok.inj done)
    exact ⟨lined_entryLine named (printable_quoted quoted), rfl⟩
  · have plain : (texts.map Value.text).any isTable = false := by simp [isTable]
    rw [plainEntry, plain, if_neg Bool.false_ne_true, valueText] at done
    obtain ⟨written, joined, done⟩ := bind_eq_ok.mp done
    obtain ⟨items, listed, joined⟩ := bind_eq_ok.mp joined
    obtain rfl := Except.ok.inj joined
    obtain ⟨rfl, rfl⟩ := Prod.mk.inj (Except.ok.inj done)
    have brackets : Printable "[".toList ∧ Printable "]".toList := by decide
    refine ⟨lined_entryLine named ?_, rfl⟩
    simp only [String.toList_append, printable_append]
    exact ⟨⟨brackets.1, printable_itemTexts listed⟩, brackets.2⟩

theorem lined_plainEntries {path lines listed : String} {entries : List (Scalar × Value)}
    (flat : ∀ entry ∈ entries, IsFlat entry.2)
    (done : plainEntries path entries = .ok (lines, listed)) :
    Lined lines.toList ∧ listed = "" := by
  induction entries generalizing lines listed with
  | nil =>
    obtain ⟨rfl, rfl⟩ := Prod.mk.inj (Except.ok.inj done)
    exact ⟨List.forall_mem_nil _, rfl⟩
  | cons entry rest ih =>
    obtain ⟨here, later⟩ := List.forall_mem_cons.mp flat
    rw [plainEntries] at done
    obtain ⟨name, named, done⟩ := bind_eq_ok.mp done
    obtain ⟨⟨line, listed⟩, first, done⟩ := bind_eq_ok.mp done
    obtain ⟨⟨more, listedMore⟩, behind, done⟩ := bind_eq_ok.mp done
    obtain ⟨rfl, rfl⟩ := Prod.mk.inj (Except.ok.inj done)
    obtain ⟨lined, rfl⟩ := lined_plainEntry here (lined_keyText named) first
    obtain ⟨linedMore, rfl⟩ := ih later behind
    exact ⟨by simpa using ⟨lined, linedMore⟩, rfl⟩

theorem levels_of_flat (path : String) {entries : List (Scalar × Value)}
    (flat : ∀ entry ∈ entries, IsFlat entry.2) : levels path entries = [] := by
  induction entries with
  | nil => rfl
  | cons entry rest ih =>
    obtain ⟨here, later⟩ := List.forall_mem_cons.mp flat
    rw [levels, ih later]
    rcases entry with ⟨key, value⟩
    rcases here with ⟨text, rfl⟩ | ⟨texts, rfl⟩ <;> rfl

theorem lined_write {text : String} {entries : List (Scalar × Value)}
    (flat : ∀ entry ∈ entries, IsFlat entry.2) (done : write entries = .ok text) :
    Lined text.toList := by
  rw [write] at done
  obtain ⟨⟨lines, listed⟩, first, done⟩ := bind_eq_ok.mp done
  obtain ⟨lined, rfl⟩ := lined_plainEntries flat first
  rw [levels_of_flat "" flat] at done
  obtain rfl := Except.ok.inj done
  simpa using lined

end Toml
end OpenApiClient
