import Mathlib.Data.List.TakeWhile
import OpenApiClient.Text.Lines

set_option autoImplicit false

namespace OpenApiClient.Text

theorem isBlank_of_isLineBreak {c : Char} (breaks : isLineBreak c = true) : isBlank c = true := by
  simp [isBlank, breaks]

structure KeepsBlanks (rewrite : List Char → List Char) : Prop where
  nil : rewrite [] = []
  around {c : Char} (before behind : List Char) (blank : isBlank c = true) :
    rewrite (before ++ c :: behind) = rewrite before ++ c :: rewrite behind
  mem {cs : List Char} {c : Char} (member : c ∈ rewrite cs) (blank : isBlank c = true) : c ∈ cs
  ne_nil {cs : List Char} (filled : cs ≠ []) : rewrite cs ≠ []

namespace KeepsBlanks

variable {rewrite : List Char → List Char}

theorem cons (keeps : KeepsBlanks rewrite) {c : Char} (blank : isBlank c = true)
    (rest : List Char) : rewrite (c :: rest) = c :: rewrite rest := by
  simpa [keeps.nil] using keeps.around [] rest blank

theorem mirrored (keeps : KeepsBlanks rewrite) :
    KeepsBlanks fun cs => (rewrite cs.reverse).reverse where
  nil := by simp [keeps.nil]
  around before behind blank := by
    simp [keeps.around behind.reverse before.reverse blank]
  mem member blank := by
    simpa using keeps.mem (List.mem_reverse.mp member) blank
  ne_nil filled := by
    simpa using keeps.ne_nil (List.reverse_ne_nil_iff.mpr filled)

theorem head_visible (keeps : KeepsBlanks rewrite) {c : Char} (visible : isBlank c = false)
    (rest : List Char) : ∃ d more, rewrite (c :: rest) = d :: more ∧ isBlank d = false := by
  have first {word : List Char} (filled : word ≠ []) (shown : ∀ d ∈ word, isBlank d = false) :
      ∃ d more, rewrite word = d :: more ∧ isBlank d = false := by
    obtain ⟨d, more, same⟩ := List.exists_cons_of_ne_nil (keeps.ne_nil filled)
    refine ⟨d, more, same, Bool.eq_false_iff.mpr fun blank => ?_⟩
    have inside := keeps.mem (same ▸ List.mem_cons_self) blank
    exact Bool.false_ne_true ((shown d inside).symm.trans blank)
  -- The first word of the text ends before its first blank, where the rewriting can be split.
  cases found : rest.find? isBlank with
  | none =>
    refine first (List.cons_ne_nil _ _) (List.forall_mem_cons.mpr ⟨visible, fun d member => ?_⟩)
    exact Bool.eq_false_iff.mpr (List.find?_eq_none.mp found d member)
  | some b =>
    obtain ⟨blank, word, behind, rfl, shown⟩ := List.find?_eq_some_iff_append.mp found
    obtain ⟨d, more, same, visible'⟩ := @first (c :: word) (List.cons_ne_nil _ _)
      (List.forall_mem_cons.mpr ⟨visible, fun d member => by simpa using shown d member⟩)
    refine ⟨d, more ++ b :: rewrite behind, ?_, visible'⟩
    rw [← List.cons_append, keeps.around _ _ blank, same, List.cons_append]

theorem dropWhile_blank (keeps : KeepsBlanks rewrite) (cs : List Char) :
    (rewrite cs).dropWhile isBlank = rewrite (cs.dropWhile isBlank) := by
  induction cs with
  | nil => rw [List.dropWhile_nil, keeps.nil, List.dropWhile_nil]
  | cons c rest ih =>
    cases blank : isBlank c with
    | true =>
      rw [keeps.cons blank, List.dropWhile_cons_of_pos blank, ih, List.dropWhile_cons_of_pos blank]
    | false =>
      obtain ⟨d, more, same, visible⟩ := keeps.head_visible blank rest
      rw [List.dropWhile_cons_of_neg (Bool.eq_false_iff.mp blank), same,
        List.dropWhile_cons_of_neg (Bool.eq_false_iff.mp visible)]

theorem trim_rewrite (keeps : KeepsBlanks rewrite) (cs : List Char) :
    trim (rewrite cs) = rewrite (trim cs) := by
  have behind := keeps.mirrored.dropWhile_blank (cs.dropWhile isBlank).reverse
  simp only [List.reverse_reverse] at behind
  rw [trim, trimBy, keeps.dropWhile_blank, behind, List.reverse_reverse]
  rfl

end KeepsBlanks

def consLine (c : Char) : List Line → List Line
  | [] => [⟨[c], []⟩]
  | line :: rest => { line with body := c :: line.body } :: rest

theorem lines_cons {c : Char} {rest : List Char}
    (apart : ∀ more, c = '\r' → rest = '\n' :: more → False) :
    lines (c :: rest) =
      if isLineBreak c then ⟨[], [c]⟩ :: lines rest else consLine c (lines rest) := by
  rw [lines.eq_def]
  split
  next absent => exact absurd absent (List.cons_ne_nil _ _)
  next more same =>
    obtain ⟨rfl, rfl⟩ := List.cons.inj same
    exact (apart more rfl rfl).elim
  next d more pair same =>
    obtain ⟨rfl, rfl⟩ := List.cons.inj same
    cases lines rest <;> rfl

theorem lines_cons_of_visible {c : Char} (inside : isLineBreak c = false) (rest : List Char) :
    lines (c :: rest) = consLine c (lines rest) := by
  rw [lines_cons, inside, if_neg Bool.false_ne_true]
  rintro more rfl
  exact absurd inside (by decide)

theorem lines_of_unbroken {body : List Char} (filled : body ≠ [])
    (unbroken : ∀ c ∈ body, isLineBreak c = false) : lines body = [⟨body, []⟩] := by
  induction body with
  | nil => exact absurd rfl filled
  | cons c rest ih =>
    obtain ⟨here, behind⟩ := List.forall_mem_cons.mp unbroken
    rw [lines_cons_of_visible here]
    cases rest with
    | nil => rfl
    | cons d more => rw [ih (List.cons_ne_nil _ _) behind, consLine]

theorem lines_append {body rest ending : List Char} {more : List Line}
    (unbroken : ∀ c ∈ body, isLineBreak c = false) (ended : lines rest = ⟨[], ending⟩ :: more) :
    lines (body ++ rest) = ⟨body, ending⟩ :: more := by
  induction body with
  | nil => exact ended
  | cons c body ih =>
    obtain ⟨here, behind⟩ := List.forall_mem_cons.mp unbroken
    rw [List.cons_append, lines_cons_of_visible here, ih behind, consLine]

theorem lines_of_break {c : Char} {rest : List Char} (breaks : isLineBreak c = true)
    (alone : c = '\r' → rest.head? ≠ some '\n') : lines (c :: rest) = ⟨[], [c]⟩ :: lines rest := by
  rw [lines_cons, if_pos breaks]
  rintro more rfl rfl
  exact alone rfl rfl

namespace KeepsBlanks

variable {rewrite : List Char → List Char}

theorem unbroken (keeps : KeepsBlanks rewrite) {body : List Char}
    (unbroken : ∀ c ∈ body, isLineBreak c = false) : ∀ c ∈ rewrite body, isLineBreak c = false := by
  intro c member
  refine Bool.eq_false_iff.mpr fun breaks => ?_
  have inside := keeps.mem member (isBlank_of_isLineBreak breaks)
  exact Bool.false_ne_true ((unbroken c inside).symm.trans breaks)

theorem head_lineFeed (keeps : KeepsBlanks rewrite) {cs : List Char}
    (head : (rewrite cs).head? = some '\n') : cs.head? = some '\n' := by
  cases cs with
  | nil =>
    rw [keeps.nil] at head
    cases head
  | cons c rest =>
    cases blank : isBlank c with
    | true => rwa [keeps.cons blank] at head
    | false =>
      obtain ⟨d, more, same, visible⟩ := keeps.head_visible blank rest
      rw [same] at head
      obtain rfl := Option.some.inj head
      exact absurd visible (by decide)

theorem lines_rewrite (keeps : KeepsBlanks rewrite) (cs : List Char) :
    lines (rewrite cs) = (lines cs).map fun line => ⟨rewrite line.body, line.ending⟩ := by
  -- What has been read of a line may be rewritten together with what follows, so it stays in front.
  suffices general : ∀ before : List Char, (∀ c ∈ before, isLineBreak c = false) →
      lines (rewrite (before ++ cs)) =
        (lines (before ++ cs)).map fun line => ⟨rewrite line.body, line.ending⟩ from
    general [] (List.forall_mem_nil _)
  have extended {before : List Char} {c : Char} (inLine : ∀ d ∈ before, isLineBreak d = false)
      (visible : ¬ isLineBreak c = true) : ∀ d ∈ before ++ [c], isLineBreak d = false :=
    List.forall_mem_append.mpr
      ⟨inLine, List.forall_mem_singleton.mpr (Bool.eq_false_iff.mpr visible)⟩
  intro before inLine
  fun_induction lines cs generalizing before with
  | case1 =>
    rw [List.append_nil]
    cases before with
    | nil =>
      rw [keeps.nil]
      rfl
    | cons c rest =>
      rw [lines_of_unbroken (keeps.ne_nil (List.cons_ne_nil _ _)) (keeps.unbroken inLine),
        lines_of_unbroken (List.cons_ne_nil _ _) inLine]
      rfl
  | case2 rest ih =>
    have kept := keeps.unbroken inLine
    have ended (more : List Char) :
        lines ('\r' :: '\n' :: more) = ⟨[], ['\r', '\n']⟩ :: lines more := rfl
    rw [keeps.around _ _ (by decide), keeps.cons (by decide), lines_append kept (ended _),
      lines_append inLine (ended _)]
    simpa using ih [] (List.forall_mem_nil _)
  | case3 c rest pair breaks ih =>
    have alone : c = '\r' → rest.head? ≠ some '\n' := by
      rintro rfl head
      obtain ⟨more, rfl⟩ := List.head?_eq_some_iff.mp head
      exact pair more rfl rfl
    have alone' : c = '\r' → (rewrite rest).head? ≠ some '\n' := fun same head =>
      alone same (keeps.head_lineFeed head)
    rw [keeps.around _ _ (isBlank_of_isLineBreak breaks),
      lines_append (keeps.unbroken inLine) (lines_of_break breaks alone'),
      lines_append inLine (lines_of_break breaks alone)]
    simpa using ih [] (List.forall_mem_nil _)
  | case4 c rest pair visible nothing ih =>
    simpa using ih (before ++ [c]) (extended inLine visible)
  | case5 c rest pair visible line more found ih =>
    simpa using ih (before ++ [c]) (extended inLine visible)

end KeepsBlanks

theorem unbroken_of_mem_lines {cs : List Char} :
    ∀ line ∈ lines cs, ∀ c ∈ line.body, isLineBreak c = false := by
  fun_induction lines cs with
  | case1 => exact List.forall_mem_nil _
  | case2 rest ih => exact List.forall_mem_cons.mpr ⟨List.forall_mem_nil _, ih⟩
  | case3 c rest pair breaks ih =>
    exact List.forall_mem_cons.mpr ⟨List.forall_mem_nil _, ih⟩
  | case4 c rest pair visible nothing ih =>
    rw [List.forall_mem_singleton, List.forall_mem_singleton]
    exact Bool.eq_false_iff.mpr visible
  | case5 c rest pair visible line more found ih =>
    rw [found, List.forall_mem_cons] at ih
    exact List.forall_mem_cons.mpr
      ⟨List.forall_mem_cons.mpr ⟨Bool.eq_false_iff.mpr visible, ih.1⟩, ih.2⟩

theorem mem_lines_iff {cs : List Char} {c : Char} (inside : isLineBreak c = false) :
    (∃ line ∈ lines cs, c ∈ line.body) ↔ c ∈ cs := by
  have other {d : Char} (breaks : isLineBreak d = true) : c ≠ d := by
    rintro rfl
    exact Bool.false_ne_true (inside.symm.trans breaks)
  fun_induction lines cs with
  | case1 => simp
  | case2 rest ih => simp [ih, @other '\r' (by decide), @other '\n' (by decide)]
  | case3 d rest pair breaks ih => simp [ih, other breaks]
  | case4 d rest pair visible nothing ih =>
    rw [nothing] at ih
    simp [← ih]
  | case5 d rest pair visible line more found ih =>
    rw [found] at ih
    simp [← ih, or_assoc]

theorem mem_dropWhile_iff {isOuter : Char → Bool} {cs : List Char} {c : Char}
    (inner : isOuter c = false) : c ∈ cs.dropWhile isOuter ↔ c ∈ cs := by
  constructor
  · exact fun member => (List.dropWhile_suffix isOuter).subset member
  · intro member
    rw [← @List.takeWhile_append_dropWhile _ isOuter cs, List.mem_append] at member
    refine member.resolve_left fun front => ?_
    exact Bool.false_ne_true (inner.symm.trans (List.mem_takeWhile_imp front))

theorem mem_trim_iff {cs : List Char} {c : Char} (visible : isBlank c = false) :
    c ∈ trim cs ↔ c ∈ cs := by
  rw [trim, trimBy, List.mem_reverse, mem_dropWhile_iff visible, List.mem_reverse,
    mem_dropWhile_iff visible]

def unlines : List (List Char) → List Char
  | [] => []
  | line :: rest => line ++ '\n' :: unlines rest

theorem unlines_append (first second : List (List Char)) :
    unlines (first ++ second) = unlines first ++ unlines second := by
  induction first with
  | nil => rfl
  | cons line rest ih => simp [unlines, ih]

theorem toList_intercalate_lines (lines : List String) (last : String) :
    (String.intercalate "\n" (lines ++ [last])).toList =
      unlines (lines.map String.toList) ++ last.toList := by
  induction lines with
  | nil => simp [unlines]
  | cons line rest ih =>
    obtain ⟨second, more, same⟩ := List.exists_cons_of_ne_nil
      (List.append_ne_nil_of_right_ne_nil rest (List.cons_ne_nil last []))
    rw [List.cons_append, same, String.intercalate_cons_cons, ← same, String.toList_append, ih]
    simp [unlines]

theorem lines_unlines {texts : List (List Char)}
    (unbroken : ∀ text ∈ texts, ∀ c ∈ text, isLineBreak c = false) :
    lines (unlines texts) = texts.map fun text => ⟨text, ['\n']⟩ := by
  induction texts with
  | nil => rfl
  | cons text rest ih =>
    obtain ⟨here, behind⟩ := List.forall_mem_cons.mp unbroken
    have ended : lines ('\n' :: unlines rest) = ⟨[], ['\n']⟩ :: lines (unlines rest) :=
      lines_of_break (by decide) (fun same => absurd same (by decide))
    rw [unlines, lines_append here ended, ih behind, List.map_cons]

theorem visible_of_mem_words {cs : List Char} :
    ∀ word ∈ words cs, ∀ c ∈ word, isBlank c = false := by
  fun_induction words cs with
  | case1 => exact List.forall_mem_nil _
  | case2 c rest blank ih => exact ih
  | case3 c visible => simpa using visible
  | case4 c visible next more blank ih =>
    refine List.forall_mem_cons.mpr ⟨List.forall_mem_singleton.mpr ?_, ih⟩
    exact Bool.eq_false_iff.mpr visible
  | case5 c visible next more inside nothing ih =>
    rw [nothing]
    simpa using visible
  | case6 c visible next more inside word others found ih =>
    rw [found] at ih ⊢
    rw [List.forall_mem_cons] at ih
    refine List.forall_mem_cons.mpr ⟨List.forall_mem_cons.mpr ⟨?_, ih.1⟩, ih.2⟩
    exact Bool.eq_false_iff.mpr visible

theorem mem_intercalate {separator : String} {texts : List String} {c : Char}
    (member : c ∈ (String.intercalate separator texts).toList) :
    c ∈ separator.toList ∨ ∃ text ∈ texts, c ∈ text.toList := by
  induction texts with
  | nil => cases member
  | cons first rest ih =>
    cases rest with
    | nil => exact .inr ⟨first, List.mem_singleton_self _, by simpa using member⟩
    | cons second more =>
      rw [String.intercalate_cons_cons, String.toList_append, String.toList_append,
        List.mem_append, List.mem_append] at member
      rcases member with (here | between) | later
      · exact .inr ⟨first, List.mem_cons_self, here⟩
      · exact .inl between
      · refine (ih later).imp_right fun ⟨text, inside, held⟩ => ?_
        exact ⟨text, List.mem_cons_of_mem _ inside, held⟩

theorem mem_collapseBlanks {text : String} {c : Char} (member : c ∈ (collapseBlanks text).toList) :
    c = ' ' ∨ isBlank c = false := by
  rcases mem_intercalate member with space | ⟨text, inside, held⟩
  · exact .inl (List.mem_singleton.mp space)
  · obtain ⟨word, found, rfl⟩ := List.mem_map.mp inside
    rw [String.toList_ofList] at held
    exact .inr (visible_of_mem_words word found c held)

end OpenApiClient.Text
